import SqlBuilder.Proofs.Cte.Distinct
import SqlBuilder.Proofs.Query.Sections
import SqlBuilder.Proofs.Query.Subqueries
import SqlBuilder.Render.Statement

/-!
# The tree of common table expressions

A statement brings along the common table expressions that a dialect sees among its own clauses and
those of their bodies, at any depth (`Query.declaredCtes`).  They are listed innermost first: those
of a body stand before the common table expression that it is the body of (`Subquery.innerFirst`).

What is rendered are these, in that order, each from the source that it was declared with
(`Subquery.ctes_rendered`).
-/

namespace SqlBuilder

/-! ## Declarations -/

/-- A common table expression as it was declared: the scope of the query that it is attached to, and
where its rows come from. -/
structure DeclaredCte where
  scope : Scope
  source : Source Subquery

instance : Aliased DeclaredCte where
  alias? c := c.source.alias?

/-- Collects the common table expressions of one layer; a subquery stands beside those that it
brings along. -/
def declareLayer (d : Dialect) (layer : QueryOver (Subquery × List DeclaredCte)) :
    Subquery × List DeclaredCte :=
  (⟨layer.map Prod.fst⟩, (Sections.of d layer).ctes.flatMap fun source =>
    source.subqueries.flatMap Prod.snd ++ [⟨layer.scope, source.map Prod.fst⟩])

/-- The common table expressions that a query brings along, innermost first. -/
def Subquery.declaredCtes (d : Dialect) (s : Subquery) : List DeclaredCte :=
  (Subquery.fold (declareLayer d) s).2

/-- The common table expressions that a statement brings along, innermost first. -/
def Query.declaredCtes (d : Dialect) (q : Query) : List DeclaredCte :=
  Subquery.declaredCtes d ⟨q⟩

/-- The common table expressions that the body of one brings along. -/
def DeclaredCte.inner (d : Dialect) (c : DeclaredCte) : List DeclaredCte :=
  c.source.subqueries.flatMap (Subquery.declaredCtes d)

variable {d : Dialect}

/-- The subqueries of a common table expression are subqueries of the query. -/
theorem QueryOver.mem_subqueries_of_ctes {σ : Type} {q : QueryOver σ} {source : Source σ}
    (hsource : source ∈ (Sections.of d q).ctes) {s : σ} (hs : s ∈ source.subqueries) :
    s ∈ q.subqueries := by
  obtain ⟨S, -, hS⟩ := Sections.exists_attach (P := (· ∈ q.subqueries)) d q fun s hs => hs
  have hmap := hS id
  rw [QueryOver.map_id] at hmap
  rw [hmap] at hsource
  obtain ⟨source', -, rfl⟩ := List.mem_map.mp hsource
  rw [Source.subqueries_map] at hs
  obtain ⟨s', -, rfl⟩ := List.mem_map.mp hs
  exact s'.2

namespace Subquery

/-- A query brings along what its own common table expressions bring along, and these. -/
theorem declaredCtes_mk (q : Query) :
    declaredCtes d ⟨q⟩ = (Sections.of d q).ctes.flatMap fun source =>
      DeclaredCte.inner d ⟨q.scope, source⟩ ++ [⟨q.scope, source⟩] := by
  have hfst : ∀ s, (fold (declareLayer d) s).1 = s := by
    intro s
    have hfold : (Prod.fst ∘ fold (declareLayer d)) s = fold Subquery.mk s :=
      eq_fold (fun q => by rw [Function.comp_apply, fold_mk, declareLayer, QueryOver.map_map]) s
    exact hfold.trans (fold_subquery_mk s)
  have hsources : ∀ source : Source Subquery,
      (source.map (fold (declareLayer d))).map Prod.fst = source := by
    intro source
    have hid : Prod.fst ∘ fold (declareLayer d) = id := funext hfst
    rw [Source.map_map, hid]
    cases source <;> rfl
  have hinner : ∀ source : Source Subquery,
      (source.map (fold (declareLayer d))).subqueries.flatMap Prod.snd =
        source.subqueries.flatMap (declaredCtes d) := by
    intro source
    rw [Source.subqueries_map, List.flatMap_map]
    rfl
  have hctes : (Sections.of d (q.map (fold (declareLayer d)))).ctes =
      (Sections.of d q).ctes.map (Source.map (fold (declareLayer d))) := by
    rw [Sections.of_map]
    rfl
  rw [declaredCtes, fold_mk, declareLayer]
  simp only [hctes, List.flatMap_map, hinner, hsources]
  rfl

end Subquery

/-! ## Their order -/

/-- What the body of a common table expression brings along stands before it. -/
def InnerFirst (d : Dialect) (cs : List DeclaredCte) : Prop :=
  ∀ before c after, cs = before ++ c :: after → ∀ i ∈ c.inner d, i ∈ before

namespace InnerFirst

theorem nil : InnerFirst d [] := by
  intro before c after h
  simp at h

theorem append {xs ys : List DeclaredCte} (hxs : InnerFirst d xs) (hys : InnerFirst d ys) :
    InnerFirst d (xs ++ ys) := by
  intro before c after h i hi
  obtain ⟨mid, rfl, hmid⟩ | ⟨mid, rfl, hmid⟩ := List.append_eq_append_iff.mp h
  · exact List.mem_append_right _ (hys mid c after hmid i hi)
  · cases mid with
    | nil =>
      -- The first of `ys` is the one.
      rw [List.nil_append] at hmid
      have hmem := hys [] c after hmid.symm i hi
      exact absurd hmem List.not_mem_nil
    | cons c' mid =>
      obtain ⟨rfl, -⟩ := List.cons.inj hmid
      exact hxs before c mid rfl i hi

theorem flatMap {α : Type} {f : α → List DeclaredCte} {as : List α}
    (h : ∀ a ∈ as, InnerFirst d (f a)) : InnerFirst d (as.flatMap f) := by
  induction as with
  | nil => exact nil
  | cons a as ih =>
    rw [List.flatMap_cons]
    exact (h a List.mem_cons_self).append (ih fun b hb => h b (List.mem_cons_of_mem _ hb))

/-- One after all that its body brings along. -/
theorem snoc {c : DeclaredCte} (h : InnerFirst d (c.inner d)) :
    InnerFirst d (c.inner d ++ [c]) := by
  intro before c' after heq i hi
  obtain rfl | ⟨after', last, rfl⟩ := List.eq_nil_or_concat' after
  · obtain ⟨rfl, hlast⟩ := List.append_inj' heq rfl
    obtain ⟨rfl, -⟩ := List.cons.inj hlast
    exact hi
  · have hinit : c.inner d = before ++ c' :: after' := by
      have happend : c.inner d ++ [c] = (before ++ c' :: after') ++ [last] := by simpa using heq
      exact (List.append_inj' happend rfl).1
    exact h before c' after' hinit i hi

end InnerFirst

/-- **Innermost first.** Whatever a body brings along stands before the common table expression that
it is the body of. -/
theorem Subquery.innerFirst (s : Subquery) : InnerFirst d (s.declaredCtes d) := by
  refine Subquery.induction (P := fun s => InnerFirst d (s.declaredCtes d)) (fun q ih => ?_) s
  rw [Subquery.declaredCtes_mk]
  refine .flatMap fun source hsource => .snoc (.flatMap fun s hs => ?_)
  exact ih s (QueryOver.mem_subqueries_of_ctes hsource hs)

/-! ## Their rendering -/

/-- Renderings of subqueries that keep their names keep that of a source. -/
theorem Source.alias?_map {σ τ : Type} [Aliased σ] [Aliased τ] {f : σ → τ}
    (hf : ∀ s, Aliased.alias? (f s) = Aliased.alias? s) (x : Source σ) :
    (x.map f).alias? = x.alias? := by
  cases x with
  | query s => exact hf s
  | _ => rfl

/-- Renders what a query brings along as what it declares, if it does so layer by layer. -/
theorem Subquery.ctes_eq_map {f : Subquery → Rendered} {cte : DeclaredCte → Cte}
    (hf : ∀ q : Query, (f ⟨q⟩).ctes = (Sections.of d q).ctes.flatMap fun source =>
      source.subqueries.flatMap (fun s => (f s).ctes) ++ [cte ⟨q.scope, source⟩])
    (s : Subquery) : (f s).ctes = (s.declaredCtes d).map cte := by
  refine Subquery.induction (P := fun s => (f s).ctes = (s.declaredCtes d).map cte)
    (fun q ih => ?_) s
  rw [hf, Subquery.declaredCtes_mk, List.map_flatMap]
  refine List.flatMap_congr fun source hsource => ?_
  have hinner : source.subqueries.flatMap (fun s => (f s).ctes) =
      source.subqueries.flatMap fun s => (s.declaredCtes d).map cte :=
    List.flatMap_congr fun s hs => ih s (QueryOver.mem_subqueries_of_ctes hsource hs)
  rw [List.map_append, DeclaredCte.inner, List.map_flatMap, hinner]
  rfl

variable {t : Target}

theorem Subquery.alias?_rendered (s : Subquery) :
    Aliased.alias? (s.rendered t) = Aliased.alias? s := by
  obtain ⟨q⟩ := s
  rw [Subquery.rendered_mk]
  rfl

/-- A common table expression, its body rendered. -/
def DeclaredCte.rendered (t : Target) (c : DeclaredCte) : Cte where
  aliasName := c.source.alias?
  body env := (c.source.map (Subquery.rendered t)).renderBody t env

/-- What a source brings along: what its query brings along, and itself. -/
theorem Source.ctes_map {f : Subquery → Rendered}
    (hf : ∀ s, Aliased.alias? (f s) = Aliased.alias? s) (x : Source Subquery) :
    (x.map f).ctes t = x.subqueries.flatMap (fun s => (f s).ctes) ++
      [⟨x.alias?, fun env => (x.map f).renderBody t env⟩] := by
  have halias : (x.map f).alias? = x.alias? := Source.alias?_map hf x
  cases x with
  | query s =>
    have hown : ((Source.query s).map f).ctes t = (f s).ctes ++
        [⟨((Source.query s).map f).alias?, fun env => ((Source.query s).map f).renderBody t env⟩] :=
      rfl
    rw [hown, halias, Source.subqueries, List.flatMap_singleton]
  | _ => rfl

/-- The common table expressions of one layer, in terms of its sources. -/
theorem Sections.allCtes_map {f : Subquery → Rendered}
    (hf : ∀ s, Aliased.alias? (f s) = Aliased.alias? s) (s : Sections Subquery) :
    (s.map f).allCtes t = s.ctes.flatMap fun source =>
      source.subqueries.flatMap (fun s => (f s).ctes) ++
        [⟨source.alias?, fun env => (source.map f).renderBody t env⟩] := by
  have hctes : (s.map f).ctes = s.ctes.map (Source.map f) := rfl
  simp only [Sections.allCtes, hctes, List.flatMap_map, Source.ctes_map hf]

/-- What a query wants defined is what it declares. -/
theorem Subquery.ctes_rendered (s : Subquery) :
    (s.rendered t).ctes = (s.declaredCtes t.dialect).map (DeclaredCte.rendered t) := by
  refine Subquery.ctes_eq_map (fun q => ?_) s
  rw [Subquery.rendered_mk, Query.sections, Sections.of_map]
  exact Sections.allCtes_map Subquery.alias?_rendered _

/-- What a statement wants defined is what it declares. -/
theorem Query.allCtes_sections (q : Query) :
    (q.sections t).allCtes t = (Query.declaredCtes t.dialect q).map (DeclaredCte.rendered t) := by
  rw [Query.declaredCtes, ← Subquery.ctes_rendered, Subquery.rendered_mk]
  rfl

/-- The common table expressions that a statement defines: of several with one name the first. -/
def Query.definedCtes (d : Dialect) (q : Query) : List DeclaredCte :=
  distinctCtes [] (Query.declaredCtes d q)

theorem Query.hoistedCtes_sections (q : Query) :
    (q.sections t).hoistedCtes t =
      (Query.definedCtes t.dialect q).map (DeclaredCte.rendered t) := by
  rw [Sections.hoistedCtes, Query.allCtes_sections, Query.definedCtes]
  exact distinctCtes_map (f := DeclaredCte.rendered t) (fun c => rfl) _ _

end SqlBuilder
