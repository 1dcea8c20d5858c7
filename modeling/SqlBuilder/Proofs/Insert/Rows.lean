import SqlBuilder.Proofs.Markup.Mutation
import SqlBuilder.Proofs.Query.Actions

/-!
# Rows with a value for each column

The builders of inserts turn down rows that are too short or too long, so that every row that they
leave has a value for each of its columns (`InsertClause.Full`).  Clauses that a step is handed as
they are (`insertsHandedIn`) are not looked at.  If those are full, a step adds full rows only
(`Step.actions_full`), and a run leaves none but full ones (`runAll_full`).
-/

namespace SqlBuilder

/-! ## Clauses -/

/-- A row has a value for each of its columns. -/
def InsertClause.Full {σ : Type} : InsertClause σ → Prop
  | row columns values _ => values.length = columns.length
  | query _ _ => True

theorem InsertClause.full_map {σ τ : Type} {f : σ → τ} {i : InsertClause σ} :
    (i.map f).Full ↔ i.Full := by
  cases i <;> rfl

/-- The rows of a list of inserts have the columns of the first one. -/
theorem InsertRows.of_collect? {σ : Type} {columns : List String} {inserts : List (InsertClause σ)}
    {insert : InsertRows} (h : collect? columns inserts = .ok insert) :
    insert.columns = columns ∧
      ∀ row ∈ insert.rows, ∃ returnId, .row columns row returnId ∈ inserts := by
  fun_induction collect? columns inserts generalizing insert with
  | case1 =>
    obtain rfl := Except.ok.inj h
    exact ⟨rfl, List.forall_mem_nil _⟩
  | case2 => cases h
  | case3 values returnId rest rows hrows ih =>
    obtain rfl := Except.ok.inj h
    obtain ⟨-, hrest⟩ := ih hrows
    refine ⟨rfl, List.forall_mem_cons.mpr ⟨⟨returnId, List.mem_cons_self⟩, fun row hrow => ?_⟩⟩
    obtain ⟨returnId', hmem⟩ := hrest row hrow
    exact ⟨returnId', List.mem_cons_of_mem _ hmem⟩
  | case4 => cases h
  | case5 => cases h

/-- A row that the clause holds is full. -/
def ClauseKind.Full {σ : Type} (k : ClauseKind σ) : Prop :=
  ∀ i ∈ k.insert?, i.Full

theorem ClauseKind.Full.of_none {σ : Type} {k : ClauseKind σ} (hk : k.insert? = none) : k.Full := by
  rw [ClauseKind.Full, hk]
  exact fun i hi => absurd hi (Option.not_mem_none i)

/-! ## Steps -/

/-- The rows that the action adds are full. -/
def Action.Full : Action → Prop
  | .add c | .replace c | .refill c | .push c => c.kind.Full
  | .clear _ | .remove _ _ | .record _ | .restart => True

/-- The rows of the query are full. -/
def Draft.Full (s : Draft) : Prop :=
  ∀ c ∈ s.clauses, c.kind.Full

namespace Draft.Full

variable {s : Draft}

theorem empty : Draft.Full {} :=
  fun _ hc => absurd hc List.not_mem_nil

theorem push (hs : s.Full) {c : Clause Subquery} (hc : c.kind.Full) :
    ∀ c' ∈ s.clauses ++ [c], c'.kind.Full :=
  List.forall_mem_append.mpr ⟨hs, List.forall_mem_singleton.mpr hc⟩

theorem add (hs : s.Full) {c : Clause Subquery} (hc : c.kind.Full) :
    (s.add c).Full := by
  unfold Draft.add
  split
  · exact hs
  · exact hs.push hc

theorem filter (hs : s.Full) (p : Clause Subquery → Bool) :
    Draft.Full { s with clauses := s.clauses.filter p } :=
  fun c hc => hs c (List.mem_of_mem_filter hc)

theorem perform (hs : s.Full) {a : Action} (ha : a.Full) : (s.perform a).Full := by
  cases a with
  | add c => exact hs.add ha
  | replace c =>
    unfold Draft.perform Clauses.addOrReplace
    dsimp only
    split
    · exact hs
    · split
      · rename_i clauses hclauses
        split at hclauses <;> cases hclauses
        exact (hs.filter _).push ha
      · exact hs
  | refill c => exact (hs.filter _).add ha
  | push c => exact hs.push ha
  | clear _ | remove _ _ => exact hs.filter _
  | record _ => exact hs
  | restart => exact empty

theorem performAll (hs : s.Full) {as : List Action} (has : ∀ a ∈ as, a.Full) :
    (s.performAll as).Full := by
  induction as generalizing s with
  | nil => exact hs
  | cons a as ih =>
    obtain ⟨ha, has⟩ := List.forall_mem_cons.mp has
    exact ih (hs.perform ha) has

end Draft.Full

mutual

/-- The inserts that a step is handed as clauses. -/
def Step.givenInserts : Step → List (InsertClause Subquery)
  | .addComponent _ k | .replaceComponent _ k => k.insert?.toList
  | .pushClause c => c.kind.insert?.toList
  | .forEngine _ body => insertsHandedIn body
  | _ => []

/-- The inserts that a list of steps is handed as clauses. -/
def insertsHandedIn : List Step → List (InsertClause Subquery)
  | [] => []
  | s :: ss => s.givenInserts ++ insertsHandedIn ss

end

namespace Action

variable {q : Query}

theorem full_inherited (e : Option Error) : ∀ a ∈ inherited e, a.Full := by
  intro a ha
  obtain ⟨e, -, rfl⟩ := mem_inherited.mp ha
  trivial

/-- Actions that are only taken if nothing is wrong. -/
theorem full_ifSound {wrong : Option Error} {as : List Action}
    (has : wrong = none → ∀ a ∈ as, a.Full) : ∀ a ∈ ifSound wrong as, a.Full := by
  cases wrong with
  | none => exact has rfl
  | some e => exact List.forall_mem_singleton.mpr trivial

end Action

/-- Rows with which nothing is wrong have a value for each column. -/
theorem length_of_rowsFault? {empty : Error} {columns : List String} {rows : List (List Value)}
    (h : rowsFault? empty columns rows = none) : ∀ row ∈ rows, row.length = columns.length := by
  unfold rowsFault? at h
  split at h
  · cases h
  · split at h
    · cases h
    · rename_i hany
      intro row hrow
      by_contra hne
      exact hany (List.any_eq_true.mpr ⟨row, hrow, by simpa using hne⟩)

mutual

/-- **Step.**  A step adds full rows only, if the ones that it is handed are full. -/
theorem Step.actions_full (s : Step) (hs : ∀ i ∈ s.givenInserts, i.Full) (q : Query) :
    ∀ a ∈ s.actions q, a.Full := by
  cases s with
  | named _ | define _ _ | setMethod _ | distinctRows | asDelete | dropTable | truncateTable =>
    simp only [Step.actions]
    exact List.forall_mem_nil _
  | child | clearComponent _ | removeClauses _ _ =>
    simp only [Step.actions]
    exact List.forall_mem_singleton.mpr trivial
  | forEngine engine body =>
    simp only [Step.actions]
    simp only [Step.givenInserts] at hs
    exact actionsOf_full body hs _
  | addComponent c k | replaceComponent c k =>
    simp only [Step.actions]
    exact List.forall_mem_singleton.mpr fun i hi => hs i (by simpa [Step.givenInserts] using hi)
  | pushClause c =>
    simp only [Step.actions]
    exact List.forall_mem_singleton.mpr fun i hi => hs i (by simpa [Step.givenInserts] using hi)
  | fromTable _ | fromRaw _ | limit _ | offset _ | lock _ | asIncrement _ _ | asDecrement _ _
  | temporary | onCommitPreserveRows _ | selectRaw _ | selectAggregate _ _ | groupByRaw _
  | having _ _ _ | havingRaw _ | havingBetween _ _ _ | havingIn _ _ | orderBy _ _ | orderByRaw _
  | orderByRandom _ | withRaw _ _ | asAggregate _ _ | asCount _ =>
    simp only [Step.actions]
    exact List.forall_mem_singleton.mpr (.of_none rfl)
  | fromQuery _ | createTableAs _ | selectQuery _ _ | selectAggregateWhere _ _ _ =>
    simp only [Step.actions]
    exact List.forall_mem_append.mpr
      ⟨Action.full_inherited _, List.forall_mem_singleton.mpr (.of_none rfl)⟩
  | asInsertQuery _ _ =>
    simp only [Step.actions]
    refine List.forall_mem_append.mpr
      ⟨Action.full_inherited _, List.forall_mem_singleton.mpr fun i hi => ?_⟩
    obtain rfl := Option.some.inj hi
    trivial
  | select _ | groupBy _ =>
    simp only [Step.actions]
    exact List.forall_mem_map.mpr fun _ _ => .of_none rfl
  | condition call =>
    simp only [Step.actions, ConditionCall.actions]
    exact List.forall_mem_append.mpr
      ⟨Action.full_inherited _, List.forall_mem_map.mpr fun _ _ => .of_none rfl⟩
  | forPage _ _ =>
    simp only [Step.actions]
    split
    · rename_i n _
      have hoffset : (q.replacing .offset (.offset n)).Full := .of_none rfl
      exact List.forall_mem_cons.mpr
        ⟨hoffset, List.forall_mem_singleton.mpr (.of_none rfl)⟩
    · exact List.forall_mem_singleton.mpr trivial
  | joinTable _ _ _ | joinQuery _ _ _ =>
    simp only [Step.actions]
    unfold JoinBuilder.actions
    split
    · exact List.forall_mem_singleton.mpr trivial
    · exact List.forall_mem_singleton.mpr (.of_none rfl)
  | combine _ _ _ =>
    simp only [Step.actions]
    split
    · exact List.forall_mem_append.mpr
        ⟨Action.full_inherited _, List.forall_mem_singleton.mpr (.of_none rfl)⟩
    · exact List.forall_mem_singleton.mpr trivial
  | withQuery _ =>
    simp only [Step.actions]
    split
    · exact List.forall_mem_singleton.mpr trivial
    · exact List.forall_mem_append.mpr
        ⟨Action.full_inherited _, List.forall_mem_singleton.mpr (.of_none rfl)⟩
  | combineRaw _ =>
    simp only [Step.actions]
    split
    · exact List.forall_mem_singleton.mpr (.of_none rfl)
    · exact List.forall_mem_singleton.mpr trivial
  | withValues _ _ _ | asUpdate _ _ =>
    simp only [Step.actions]
    exact Action.full_ifSound fun _ => List.forall_mem_singleton.mpr (.of_none rfl)
  | asInsert columns rows =>
    simp only [Step.actions]
    refine Action.full_ifSound fun hrows => List.forall_mem_cons.mpr
      ⟨trivial, List.forall_mem_map.mpr fun row hrow i hi => ?_⟩
    obtain rfl := Option.some.inj hi
    exact length_of_rowsFault? hrows row hrow
  | asInsertRow pairs returnId =>
    simp only [Step.actions]
    refine Action.full_ifSound fun _ => List.forall_mem_singleton.mpr fun i hi => ?_
    obtain rfl := Option.some.inj hi
    exact (List.length_map _).trans (List.length_map _).symm
  | createTable _ =>
    simp only [Step.actions]
    exact Action.full_ifSound fun _ => List.forall_mem_cons.mpr
      ⟨trivial, List.forall_mem_map.mpr fun _ _ => .of_none rfl⟩

/-- Steps add full rows only, if the ones that they are handed are full. -/
theorem actionsOf_full (ss : List Step) (hss : ∀ i ∈ insertsHandedIn ss, i.Full) (q : Query) :
    ∀ a ∈ actionsOf ss q, a.Full := by
  cases ss with
  | nil =>
    simp only [actionsOf]
    exact List.forall_mem_nil _
  | cons s ss =>
    simp only [insertsHandedIn, List.forall_mem_append] at hss
    simp only [actionsOf, List.forall_mem_append]
    exact ⟨s.actions_full hss.1 q, actionsOf_full ss hss.2 _⟩

end

/-- **Run.**  A run leaves none but full rows, if there were no others and the ones that it is
handed are full. -/
theorem runAll_full {ss : List Step} (hss : ∀ i ∈ insertsHandedIn ss, i.Full) {q : Query}
    (hq : q.draft.Full) : (runAll ss q).draft.Full := by
  rw [draft_runAll]
  exact hq.performAll (actionsOf_full ss hss q)

/-- The rows that a dialect sees of a query with full rows. -/
theorem Query.inserts_full {q : Query} (hq : q.draft.Full) (t : Target) :
    ∀ i ∈ (q.sections t).inserts, i.Full := by
  have hinserts : (q.sections t).inserts =
      (Sections.of t.dialect q).inserts.map (InsertClause.map (Subquery.rendered t)) := by
    rw [Query.sections, Sections.of_map]
    rfl
  rw [hinserts, List.forall_mem_map]
  intro i hi
  obtain ⟨c, hc, hinsert⟩ := List.mem_filterMap.mp hi
  exact InsertClause.full_map.mpr (hq c (List.mem_of_mem_filter hc) i hinsert)

end SqlBuilder
