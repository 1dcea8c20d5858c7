import Mathlib.Data.Set.List
import SqlBuilder.Proofs.Query.Subqueries

/-!
# The subqueries that a dialect sees

A dialect sees only the clauses that apply to it, and of a component that is filled once the one in
force.  `Sections.subqueries` lists what stands in the places of subqueries in what it sees, and
`Query.Inside` are the queries that it sees inside of another one, at any depth.

A property of the subqueries in sight can be made part of their type (`Sections.attach`), as one of
all subqueries can.
-/

namespace SqlBuilder

variable {σ τ : Type}

/-! ## Lists of subqueries -/

/-- The subqueries of a join. -/
def JoinSections.subqueries (j : JoinSections σ) : List σ :=
  j.target.toList.flatMap Source.subqueries ++ j.constraints.flatMap Condition.subqueries

namespace Sections

/-- The subqueries that are no bodies of common table expressions. -/
def plainSubqueries (s : Sections σ) : List σ :=
  s.columns.flatMap Column.subqueries ++ s.source.toList.flatMap Source.subqueries ++
    s.joins.flatMap JoinSections.subqueries ++ s.filters.flatMap Condition.subqueries ++
    s.groups.flatMap Column.subqueries ++ s.havings.flatMap Condition.subqueries ++
    s.combines.flatMap Combine.subqueries ++ s.inserts.flatMap InsertClause.subqueries ++
    s.tableSource.toList.flatMap Source.subqueries

/-- The subqueries, in whatever place. -/
def subqueries (s : Sections σ) : List σ :=
  s.ctes.flatMap Source.subqueries ++ s.plainSubqueries

theorem plainSubqueries_map (f : σ → τ) (s : Sections σ) :
    (s.map f).plainSubqueries = s.plainSubqueries.map f := by
  have hjoin : ∀ j : JoinSections σ, (j.map f).subqueries = j.subqueries.map f := by
    intro j
    simp [JoinSections.subqueries, JoinSections.map, List.flatMap_map, List.map_flatMap,
      Option.toList_map]
  simp [plainSubqueries, map, List.flatMap_map, List.map_flatMap, Option.toList_map, hjoin]

theorem subqueries_map (f : σ → τ) (s : Sections σ) :
    (s.map f).subqueries = s.subqueries.map f := by
  rw [subqueries, plainSubqueries_map]
  simp [subqueries, map, List.flatMap_map, List.map_flatMap]

/-- A dialect sees no subqueries but those of the query. -/
theorem mem_subqueries_of {d : Dialect} {q : QueryOver σ} {s : σ}
    (hs : s ∈ (Sections.of d q).subqueries) : s ∈ q.subqueries := by
  obtain ⟨S, -, hS⟩ := Sections.exists_attach (P := (· ∈ q.subqueries)) d q fun s hs => hs
  have hmap := hS id
  rw [QueryOver.map_id] at hmap
  rw [hmap, subqueries_map] at hs
  obtain ⟨s', -, rfl⟩ := List.mem_map.mp hs
  exact s'.2

end Sections

/-! ## Sections over a subtype -/

theorem JoinSections.map_map {ρ : Type} (f : ρ → σ) (g : σ → τ) (j : JoinSections ρ) :
    (j.map f).map g = j.map (g ∘ f) := by
  simp [map, Function.comp_def, Source.map_map, Condition.map_map]

theorem Sections.map_map {ρ : Type} (f : ρ → σ) (g : σ → τ) (s : Sections ρ) :
    (s.map f).map g = s.map (g ∘ f) := by
  simp [map, Function.comp_def, Column.map_map, Source.map_map, JoinSections.map_map,
    Condition.map_map, Combine.map_map, InsertClause.map_map]

section Attach

variable {P : σ → Prop}

theorem exists_map_eq {α β : Type} {f : α → β} {bs : List β} (h : ∀ b ∈ bs, ∃ a, f a = b) :
    ∃ as : List α, as.map f = bs := by
  have hrange : bs ∈ Set.range (List.map f) := by
    rw [Set.range_list_map]
    exact h
  exact hrange

theorem exists_optionMap_eq {α β : Type} {f : α → β} {o : Option β}
    (h : ∀ b ∈ o.toList, ∃ a, f a = b) : ∃ o' : Option α, o'.map f = o := by
  cases o with
  | none => exact ⟨none, rfl⟩
  | some b =>
    obtain ⟨a, rfl⟩ := h b (List.mem_singleton_self b)
    exact ⟨some a, rfl⟩

theorem JoinSections.exists_attach (j : JoinSections σ) (h : ∀ s ∈ j.subqueries, P s) :
    ∃ j' : JoinSections { s // P s }, j'.map Subtype.val = j := by
  obtain ⟨htarget, hconstraints⟩ := List.forall_mem_append.mp h
  obtain ⟨target, htarget⟩ := exists_optionMap_eq fun x hx =>
    Source.exists_attach (P := P) x (List.forall_mem_flatMap.mp htarget x hx)
  obtain ⟨constraints, hconstraints⟩ := exists_map_eq fun c hc =>
    Condition.exists_attach (P := P) c (List.forall_mem_flatMap.mp hconstraints c hc)
  refine ⟨⟨j.kind, target, constraints, j.index⟩, ?_⟩
  rw [JoinSections.map, htarget, hconstraints]

/-- A property of the subqueries in sight can be made part of their type. -/
theorem Sections.attach (s : Sections σ) (h : ∀ x ∈ s.subqueries, P x) :
    ∃ S : Sections { x // P x }, S.map Subtype.val = s := by
  simp only [subqueries, plainSubqueries, List.forall_mem_append, List.forall_mem_flatMap] at h
  obtain ⟨hctes, ⟨⟨⟨⟨⟨⟨⟨⟨hcolumns, hsource⟩, hjoins⟩, hfilters⟩, hgroups⟩, hhavings⟩, hcombines⟩,
    hinserts⟩, htableSource⟩⟩ := h
  obtain ⟨ctes, hctes⟩ := exists_map_eq fun x hx => Source.exists_attach x (hctes x hx)
  obtain ⟨columns, hcolumns⟩ := exists_map_eq fun c hc => Column.exists_attach c (hcolumns c hc)
  obtain ⟨source, hsource⟩ := exists_optionMap_eq fun x hx => Source.exists_attach x (hsource x hx)
  obtain ⟨joins, hjoins⟩ := exists_map_eq fun j hj => JoinSections.exists_attach j (hjoins j hj)
  obtain ⟨filters, hfilters⟩ := exists_map_eq fun c hc => Condition.exists_attach c (hfilters c hc)
  obtain ⟨groups, hgroups⟩ := exists_map_eq fun c hc => Column.exists_attach c (hgroups c hc)
  obtain ⟨havings, hhavings⟩ := exists_map_eq fun c hc => Condition.exists_attach c (hhavings c hc)
  obtain ⟨combines, hcombines⟩ := exists_map_eq fun c hc => Combine.exists_attach c (hcombines c hc)
  obtain ⟨inserts, hinserts⟩ :=
    exists_map_eq fun i hi => InsertClause.exists_attach i (hinserts i hi)
  obtain ⟨tableSource, htableSource⟩ :=
    exists_optionMap_eq fun x hx => Source.exists_attach x (htableSource x hx)
  refine ⟨{ s with columns, source, joins, filters, groups, havings, combines, ctes, inserts,
                   tableSource }, ?_⟩
  simp only [map, hctes, hcolumns, hsource, hjoins, hfilters, hgroups, hhavings, hcombines,
    hinserts, htableSource]

end Attach

/-! ## Queries inside of queries -/

/-- The first query is the second one, or a dialect sees it inside of that, at any depth. -/
inductive Query.Inside (d : Dialect) : Query → Query → Prop
  | self (q : Query) : Inside d q q
  | sub {r q : Query} {s : Subquery} (hs : s ∈ (Sections.of d q).subqueries)
      (hr : Inside d r s.query) : Inside d r q

end SqlBuilder
