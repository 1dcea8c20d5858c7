import SqlBuilder.Proofs.Query.Fold
import SqlBuilder.Query.Sections

/-!
# Sections and subqueries

What a query says to a dialect does not depend on what stands in the places of its subqueries:
replacing them before or after the sections are read off comes to the same (`Sections.of_map`), and
so does replacing them before or after a select is transformed (`Sections.aggregateForm_map`).

Nor does it depend on the clauses themselves, but only on what they are asked, component by
component: the contents of all clauses that apply, or the content of the one that is chosen, where
a component is filled once.  Lists of clauses that answer alike (`Clauses.Agree`) make statements
with the same sections, as long as their joins say the same (`Sections.of_congr`).
-/

namespace SqlBuilder

variable {σ τ : Type}

/-- Replaces the subqueries of a join. -/
def JoinSections.map (f : σ → τ) (j : JoinSections σ) : JoinSections τ where
  kind := j.kind
  target := j.target.map (Source.map f)
  constraints := j.constraints.map (Condition.map f)
  index := j.index

/-! ## The content of a clause -/

namespace ClauseKind

variable (f : σ → τ) (k : ClauseKind σ)

@[simp] theorem condition?_map : (k.map f).condition? = k.condition?.map (Condition.map f) := by
  cases k <;> simp [ClauseKind.map, condition?]

@[simp] theorem source?_map : (k.map f).source? = k.source?.map (Source.map f) := by
  cases k <;> simp [ClauseKind.map, source?]

@[simp] theorem join?_map : (k.map f).join? = k.join?.map (Join.map f) := by
  cases k <;> simp [ClauseKind.map, join?]

@[simp] theorem column?_map : (k.map f).column? = k.column?.map (Column.map f) := by
  cases k <;> simp [ClauseKind.map, column?]

@[simp] theorem combine?_map : (k.map f).combine? = k.combine?.map (Combine.map f) := by
  cases k <;> simp [ClauseKind.map, combine?]

@[simp] theorem insert?_map : (k.map f).insert? = k.insert?.map (InsertClause.map f) := by
  cases k <;> simp [ClauseKind.map, insert?]

@[simp] theorem order?_map : (k.map f).order? = k.order? := by
  cases k <;> simp [ClauseKind.map, order?]

@[simp] theorem count?_map : (k.map f).count? = k.count? := by
  cases k <;> simp [ClauseKind.map, count?]

@[simp] theorem aggregate?_map : (k.map f).aggregate? = k.aggregate? := by
  cases k <;> simp [ClauseKind.map, aggregate?]

@[simp] theorem update?_map : (k.map f).update? = k.update? := by
  cases k <;> simp [ClauseKind.map, update?]

@[simp] theorem lock?_map : (k.map f).lock? = k.lock? := by
  cases k <;> simp [ClauseKind.map, lock?]

@[simp] theorem tableColumn?_map : (k.map f).tableColumn? = k.tableColumn? := by
  cases k <;> simp [ClauseKind.map, tableColumn?]

@[simp] theorem isTemporary_map : (k.map f).isTemporary = k.isTemporary := by
  cases k with
  | tableKind kind => cases kind <;> simp only [ClauseKind.map, isTemporary]
  | _ => simp only [ClauseKind.map, isTemporary]

@[simp] theorem preservesRows_map : (k.map f).preservesRows = k.preservesRows := by
  cases k <;> simp [ClauseKind.map, preservesRows]

end ClauseKind

@[simp] theorem Clause.kind_map (f : σ → τ) (c : Clause σ) : (c.map f).kind = c.kind.map f := by
  cases c; rfl

/-! ## The clauses in force -/

namespace Clauses

variable (f : σ → τ) (component : Component) (engine : Option Dialect) (cs : List (Clause σ))

@[simp] theorem has_map : has component engine (Clauses.map f cs) = has component engine cs := by
  simp [has, ofComponent_map]

end Clauses

/-- Removing the clauses of a component leaves those of another. -/
theorem Clauses.ofComponent_clear {c c' : Component} (h : c ≠ c') (engine : Option Dialect)
    (cs : List (Clause σ)) : ofComponent c engine (clear c' cs) = ofComponent c engine cs := by
  rw [ofComponent, clear, List.filter_filter, ofComponent]
  refine List.filter_congr fun clause _ => ?_
  by_cases hc : clause.component = c
  · simp [hc, h]
  · simp [hc]

theorem Clauses.ofComponent_clear_self (c : Component) (engine : Option Dialect)
    (cs : List (Clause σ)) : ofComponent c engine (clear c cs) = [] := by
  rw [ofComponent, clear, List.filter_filter, List.filter_eq_nil_iff]
  intro clause _
  by_cases hc : clause.component = c
  · simp [hc]
  · simp [hc]

/-! ## Joins -/

/-- What a join says to a dialect, where subqueries are replaced. -/
theorem JoinSections.of_map (f : σ → τ) (d : Dialect) (j : Join σ) :
    JoinSections.of d (j.map f) = (JoinSections.of d j).map f := by
  obtain ⟨kind, clauses, index, state⟩ := j
  simp only [JoinSections.of, JoinSections.map, Join.map, Clauses.ofComponent_map,
    Clauses.pick?_map, List.filterMap_map, List.map_filterMap, Option.map_bind, Option.bind_map,
    Function.comp_def, Clause.kind_map, ClauseKind.source?_map, ClauseKind.condition?_map]

namespace Sections

/-- Replaces the subqueries. -/
def map (f : σ → τ) (s : Sections σ) : Sections τ where
  method := s.method
  distinct := s.distinct
  columns := s.columns.map (Column.map f)
  aggregate := s.aggregate
  source := s.source.map (Source.map f)
  joins := s.joins.map (JoinSections.map f)
  filters := s.filters.map (Condition.map f)
  groups := s.groups.map (Column.map f)
  havings := s.havings.map (Condition.map f)
  orders := s.orders
  limit := s.limit
  offset := s.offset
  combines := s.combines.map (Combine.map f)
  lock := s.lock
  ctes := s.ctes.map (Source.map f)
  inserts := s.inserts.map (InsertClause.map f)
  update := s.update
  tableColumns := s.tableColumns
  isTemporary := s.isTemporary
  preservesRows := s.preservesRows
  tableSource := s.tableSource.map (Source.map f)
  hasColumns := s.hasColumns
  hasSource := s.hasSource
  hasJoins := s.hasJoins
  hasFilters := s.hasFilters
  hasHavings := s.hasHavings
  hasOrders := s.hasOrders
  aliasName := s.aliasName
  scope := s.scope
  pending := s.pending
  accepts := s.accepts

/-! ## Statements -/

/-- What a query says to a dialect, where subqueries are replaced. -/
theorem of_map (f : σ → τ) (d : Dialect) (q : QueryOver σ) :
    of d (q.map f) = (of d q).map f := by
  simp [of, map, QueryOver.map, QueryOver.limitFor, QueryOver.offsetFor, QueryOver.scope,
    Clauses.ofComponent_map, Clauses.pick?_map, List.filterMap_map, List.map_filterMap,
    Option.map_bind, Option.bind_map, Option.any_map, Function.comp_def, JoinSections.of_map]

/-! ## Transformed selects -/

section Transformed

variable (f : σ → τ) (s : Sections σ)

@[simp] theorem trimmed_map : (s.map f).trimmed = s.trimmed.map f := rfl

@[simp] theorem unpaged_map : (s.map f).unpaged = s.unpaged.map f := rfl

@[simp] theorem unordered_map : (s.map f).unordered = s.unordered.map f := rfl

theorem presenceTests_map (pending : Pending) (columns : List String) :
    (presenceTests pending columns).map (Condition.map f) = presenceTests pending columns := by
  induction columns generalizing pending with
  | nil => rfl
  | cons c cs ih => simp [presenceTests, ih, Condition.map, ConditionKind.map]

/-- Replaces the subqueries of the select that an aggregate statement stands for. -/
def AggregateForm.map (f : σ → τ) : AggregateForm σ → AggregateForm τ
  | .flat select => .flat (select.map f)
  | .wrapped function rows => .wrapped function (rows.map f)
  | .hollow => .hollow

/-- The select that an aggregate statement stands for, where subqueries are replaced. -/
theorem aggregateForm_map : (s.map f).aggregateForm = s.aggregateForm.map f := by
  have haggregate : (s.map f).aggregate = s.aggregate := rfl
  have hdistinct : (s.map f).distinct = s.distinct := rfl
  have haccepts : (s.map f).accepts = s.accepts := rfl
  simp only [aggregateForm, haggregate, hdistinct, haccepts]
  cases s.aggregate with
  | none => rfl
  | some a =>
    by_cases hone : a.columns.length = 1 ∧ !s.distinct
    · simp only [if_pos hone]
      rfl
    · simp only [if_neg hone]
      by_cases haccepts : !s.accepts
      · simp only [if_pos haccepts, AggregateForm.map]
      · simp only [if_neg haccepts]
        by_cases hdistinct : s.distinct
        · simp only [if_pos hdistinct, AggregateForm.map]
          simp [map, unpaged, unordered, Column.map]
        · simp only [if_neg hdistinct, AggregateForm.map]
          simp [map, unpaged, unordered, presenceTests_map]

/-- The select that an aggregate stands for drops its paging.  It has the conditions of the
aggregate, and maybe tests of its columns. -/
theorem of_aggregateForm {s rows : Sections σ}
    (h : s.aggregateForm = .flat rows ∨ ∃ function, s.aggregateForm = .wrapped function rows) :
    (rows.limit = 0 ∧ rows.offset = 0) ∧ (∃ tests, rows.filters = s.filters ++ tests) ∧
      rows.havings = s.havings ∧ rows.joins = s.joins := by
  have hsame : ∃ tests, s.filters = s.filters ++ tests := ⟨[], (List.append_nil _).symm⟩
  unfold aggregateForm at h
  cases haggregate : s.aggregate with
  | none =>
    simp only [haggregate, AggregateForm.flat.injEq, reduceCtorEq, exists_false, or_false] at h
    subst h
    exact ⟨⟨rfl, rfl⟩, hsame, rfl, rfl⟩
  | some a =>
    simp only [haggregate] at h
    split at h
    case isTrue =>
      simp only [AggregateForm.flat.injEq, reduceCtorEq, exists_false, or_false] at h
      subst h
      exact ⟨⟨rfl, rfl⟩, hsame, rfl, rfl⟩
    case isFalse =>
      split at h
      case isTrue => simp at h
      case isFalse =>
        split at h <;>
          simp only [reduceCtorEq, AggregateForm.wrapped.injEq, exists_eq_left', false_or] at h <;>
          subst h
        · exact ⟨⟨rfl, rfl⟩, hsame, rfl, rfl⟩
        · exact ⟨⟨rfl, rfl⟩, ⟨presenceTests s.pending a.columns, rfl⟩, rfl, rfl⟩

end Transformed

end Sections

/-! ## Lists of clauses that agree -/

/-- The components that are filled once. -/
def Component.single : List Component :=
  [.source, .limit, .offset, .aggregate, .update, .lock, .tableKind, .tableExtension, .tableSource]

/-- A question to the content of a clause that does not look into joins. -/
def ClauseKind.IgnoresJoins {α : Type} (content : ClauseKind σ → α) : Prop :=
  ∀ j j', content (.join j) = content (.join j')

namespace Clauses

/-- A clause is chosen as soon as one applies. -/
theorem has_eq_isSome_pick? (d : Dialect) (component : Component) (cs : List (Clause σ)) :
    has component (some d) cs = (pick? component (some d) cs).isSome := by
  have happlies : ∀ c ∈ ofComponent component (some d) cs,
      c.engine = some d ∨ c.engine = none := by
    intro c hc
    have h := (List.mem_filter.mp hc).2
    simp only [Clause.applies, Bool.and_eq_true, Bool.or_eq_true, beq_iff_eq] at h
    obtain ⟨-, (h | h) | h⟩ := h
    · simp at h
    · exact .inr h
    · exact .inl h
  rw [has, pick?]
  cases hfound : ofComponent component (some d) cs with
  | nil => rfl
  | cons c found =>
    have hc : c.engine = some d ∨ c.engine = none := happlies c (by simp [hfound])
    rcases hc with hc | hc
    · simp [hc]
    · cases hd : (c :: found).find? (·.engine == some d) <;> simp [hc]

/-- Two lists of clauses that say the same to a dialect, joins apart: the clauses of a component
have the same contents, and so have the clauses that are chosen. -/
structure Agree (d : Dialect) (xs ys : List (Clause σ)) : Prop where
  contents : ∀ component ∉ Component.single, ∀ {α : Type} (content : ClauseKind σ → α),
    ClauseKind.IgnoresJoins content →
      (ofComponent component (some d) xs).map (fun c => content c.kind) =
        (ofComponent component (some d) ys).map (fun c => content c.kind)
  chosen : ∀ component {α : Type} (content : ClauseKind σ → α),
    ClauseKind.IgnoresJoins content →
      (pick? component (some d) xs).map (fun c => content c.kind) =
        (pick? component (some d) ys).map (fun c => content c.kind)

namespace Agree

variable {d : Dialect} {xs ys : List (Clause σ)} {component : Component} {α : Type}

theorem filterMap (h : Agree d xs ys) (hsingle : component ∉ Component.single)
    {content : ClauseKind σ → Option α} (hcontent : ClauseKind.IgnoresJoins content) :
    (ofComponent component (some d) xs).filterMap (fun c => content c.kind) =
      (ofComponent component (some d) ys).filterMap (fun c => content c.kind) := by
  have hmap := congrArg (List.filterMap id) (h.contents component hsingle content hcontent)
  simpa only [List.filterMap_map, Function.id_comp] using hmap

theorem bind (h : Agree d xs ys) {content : ClauseKind σ → Option α}
    (hcontent : ClauseKind.IgnoresJoins content) :
    (pick? component (some d) xs).bind (fun c => content c.kind) =
      (pick? component (some d) ys).bind (fun c => content c.kind) := by
  have hmap := congrArg (Option.bind · id) (h.chosen component content hcontent)
  simpa only [Option.bind_map, Function.id_comp] using hmap

theorem any (h : Agree d xs ys) {test : ClauseKind σ → Bool}
    (htest : ClauseKind.IgnoresJoins test) :
    (pick? component (some d) xs).any (fun c => test c.kind) =
      (pick? component (some d) ys).any (fun c => test c.kind) := by
  have hmap := congrArg (Option.any id) (h.chosen component test htest)
  simpa only [Option.any_map, id_eq] using hmap

/-- Whether there is a clause of a component can be told from either list. -/
theorem has (h : Agree d xs ys) (component : Component) :
    Clauses.has component (some d) xs = Clauses.has component (some d) ys := by
  by_cases hsingle : component ∈ Component.single
  · have hmap := congrArg Option.isSome (h.chosen component (fun _ => ()) fun _ _ => rfl)
    simpa only [has_eq_isSome_pick?, Option.isSome_map] using hmap
  · have hmap := congrArg List.isEmpty (h.contents component hsingle (fun _ => ()) fun _ _ => rfl)
    simpa only [Clauses.has, List.isEmpty_map, Bool.not_inj_iff] using hmap

end Agree

end Clauses

/-- Joins whose clauses agree say the same, whatever their states are. -/
theorem JoinSections.of_congr {d : Dialect} {xs ys : List (Clause σ)} (h : Clauses.Agree d xs ys)
    (kind : JoinKind) (index : Option String) (state state' : JoinState) :
    JoinSections.of d ⟨kind, xs, index, state⟩ = JoinSections.of d ⟨kind, ys, index, state'⟩ := by
  have htarget : (Clauses.pick? .source (some d) xs).bind (·.kind.source?) = _ :=
    h.bind fun _ _ => rfl
  have hconstraints :
      (Clauses.ofComponent .filter (some d) xs).filterMap (·.kind.condition?) = _ :=
    h.filterMap (by decide) fun _ _ => rfl
  simp only [JoinSections.of, htarget, hconstraints]

/-- What the joins of a list of clauses say to a dialect. -/
def Clauses.joinSections (d : Dialect) (cs : List (Clause σ)) : List (JoinSections σ) :=
  ((ofComponent .join (some d) cs).filterMap fun c => c.kind.join?).map (JoinSections.of d)

/-- Queries whose clauses agree, whose joins say the same, and that do not differ otherwise, say the
same. -/
theorem Sections.of_congr {d : Dialect} {q : QueryOver σ} {cs : List (Clause σ)}
    (h : Clauses.Agree d cs q.clauses)
    (hjoins : Clauses.joinSections d cs = Clauses.joinSections d q.clauses) :
    Sections.of d { q with clauses := cs } = Sections.of d q := by
  have hlimit : QueryOver.limitFor { q with clauses := cs } (some d) = q.limitFor (some d) :=
    congrArg (Option.getD · 0) (h.bind fun _ _ => rfl)
  have hoffset : QueryOver.offsetFor { q with clauses := cs } (some d) = q.offsetFor (some d) :=
    congrArg (Option.getD · 0) (h.bind fun _ _ => rfl)
  simp only [Sections.of, Sections.mk.injEq]
  refine ⟨trivial, trivial, ?columns, ?aggregate, ?source, hjoins, ?filters, ?groups, ?havings,
    ?orders, hlimit, hoffset, ?combines, ?lock, ?ctes, ?inserts, ?update, ?tableColumns,
    ?isTemporary, ?preservesRows, ?tableSource, h.has _, h.has _, h.has _, h.has _, h.has _,
    h.has _, trivial, rfl, trivial, trivial⟩
  case aggregate | source | lock | update | tableSource => exact h.bind fun _ _ => rfl
  case isTemporary | preservesRows => exact h.any fun _ _ => rfl
  all_goals exact h.filterMap (by decide) fun _ _ => rfl

end SqlBuilder
