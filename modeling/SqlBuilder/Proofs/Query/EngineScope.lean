import SqlBuilder.Compiler
import SqlBuilder.Proofs.Query.Sections
import SqlBuilder.Query.Step

/-!
# Steps in the scope of another dialect

`QueryOver.forEngine` carries out steps of construction with every clause that they add scoped to
one dialect.  To a second dialect the query should be the same afterwards, and it is
(`compile_forEngine`) as long as the steps take nothing away from what the second dialect sees.

Three kinds of steps do not keep to the scope that they are carried out in.  A step that empties a
component (`Step.cleared?`) empties it for every dialect, so that inside of `forEngine` it also takes
the clauses that are meant for the others (`forEngine_clears`).  A `forEngine` inside of another one
opens a scope of its own.  And clauses can be put into the list of a query, or taken out of it, as
they are.  `Step.Spares` says of a step that it does none of this to what a dialect sees.

## The argument

What a dialect sees of the clauses (`Clauses.seenBy`) is kept by every step that adds or replaces in
the scope of another dialect, and so it is kept by every run of steps that spare it
(`runAll_unseen`), by induction over the steps with the scopes that are opened inside.  The sections
of a statement are read off what is seen, so that only the pending modifiers are left to tell the
two queries apart, and nothing but the tests for several aggregated columns takes those up
(`renderMethod_pending`).
-/

namespace SqlBuilder

variable {σ : Type} {d : Dialect}

/-! ## What a dialect sees -/

/-- The clauses that apply to a dialect. -/
def Clauses.seenBy (d : Dialect) (cs : List (Clause σ)) : List (Clause σ) :=
  cs.filter (·.applies (some d))

namespace Clauses

theorem seenBy_append (xs ys : List (Clause σ)) :
    seenBy d (xs ++ ys) = seenBy d xs ++ seenBy d ys :=
  List.filter_append xs ys

/-- The clauses of a component that apply are found among those that are seen. -/
theorem ofComponent_seenBy (component : Component) (cs : List (Clause σ)) :
    ofComponent component (some d) (seenBy d cs) = ofComponent component (some d) cs := by
  rw [ofComponent, seenBy, List.filter_filter, ofComponent]
  refine List.filter_congr fun c _ => ?_
  cases c.applies (some d) <;> simp

/-- Lists of which the dialect sees the same say the same. -/
theorem agree_of_seenBy {xs ys : List (Clause σ)} (h : seenBy d xs = seenBy d ys) :
    Agree d xs ys := by
  have hcomponent : ∀ component,
      ofComponent component (some d) xs = ofComponent component (some d) ys := by
    intro component
    rw [← ofComponent_seenBy component xs, h, ofComponent_seenBy]
  constructor
  · intro component _ α content _
    rw [hcomponent]
  · intro component α content _
    rw [pick?, hcomponent, ← pick?]

theorem joinSections_of_seenBy {xs ys : List (Clause σ)} (h : seenBy d xs = seenBy d ys) :
    joinSections d xs = joinSections d ys := by
  rw [joinSections, ← ofComponent_seenBy .join xs, h, ofComponent_seenBy, ← joinSections]

end Clauses

/-- The second query is to the dialect what the first one is, its method, names and pending
modifiers apart: the dialect sees the same clauses, the queries around are the same, and new clauses
are scoped alike. -/
structure Query.Unseen (d : Dialect) (q q' : Query) : Prop where
  clauses : Clauses.seenBy d q'.clauses = Clauses.seenBy d q.clauses
  parent : q'.parent = q.parent
  engineScope : q'.engineScope = q.engineScope

namespace Query.Unseen

variable {q q' q'' : Query} {e : Dialect}

theorem refl (q : Query) : Unseen d q q :=
  ⟨rfl, rfl, rfl⟩

theorem trans (h : Unseen d q q') (h' : Unseen d q' q'') : Unseen d q q'' :=
  ⟨h'.clauses.trans h.clauses, h'.parent.trans h.parent, h'.engineScope.trans h.engineScope⟩

/-! ## Adding, replacing and emptying -/

/-- A clause that is added in the scope of another dialect is not seen. -/
theorem addComponent (hscope : q.engineScope = some e) (he : e ≠ d) (c : Component)
    (k : ClauseKind Subquery) : Unseen d q (q.addComponent c k) := by
  unfold QueryOver.addComponent
  split
  · exact refl q
  · refine ⟨?_, rfl, rfl⟩
    have hclause : Clauses.seenBy d [(⟨c, q.engineScope, k⟩ : Clause Subquery)] = [] := by
      simp [Clauses.seenBy, Clause.applies, hscope, he]
    rw [Clauses.seenBy_append, hclause, List.append_nil]

/-- A clause that takes the place of another one in the scope of another dialect is not seen, and
neither was the other one. -/
theorem replaceComponent (hscope : q.engineScope = some e) (he : e ≠ d) (c : Component)
    (k : ClauseKind Subquery) : Unseen d q (q.replaceComponent c k) := by
  have hremove : Clauses.seenBy d (Clauses.remove c (some e) q.clauses) =
      Clauses.seenBy d q.clauses := by
    rw [Clauses.seenBy, Clauses.remove, List.filter_filter, Clauses.seenBy]
    refine List.filter_congr fun clause _ => ?_
    by_cases hengine : clause.engine = some e
    · simp [Clause.applies, hengine, he]
    · simp [Clause.isFiled, hengine]
  have hclause : Clauses.seenBy d [(⟨c, some e, k⟩ : Clause Subquery)] = [] := by
    simp [Clauses.seenBy, Clause.applies, he]
  unfold QueryOver.replaceComponent
  split
  · exact refl q
  · rw [hscope]
    dsimp only [Clauses.addOrReplace]
    split
    case h_1 clauses hclauses =>
      split at hclauses
      · cases hclauses
      · obtain rfl := Except.ok.inj hclauses
        refine ⟨?_, rfl, hscope.symm⟩
        change Clauses.seenBy d (Clauses.remove c (some e) q.clauses ++ [⟨c, some e, k⟩]) = _
        rw [Clauses.seenBy_append, hremove, hclause, List.append_nil]
    case h_2 => exact ⟨rfl, rfl, rfl⟩

/-- Emptying a component of which nothing is seen takes away nothing that is seen. -/
theorem clearComponent {c : Component} (hc : ∀ clause ∈ Clauses.seenBy d q.clauses,
    clause.component ≠ c) : Unseen d q (q.clearComponent c) := by
  refine ⟨?_, rfl, rfl⟩
  change (Clauses.clear c q.clauses).filter (·.applies (some d)) = _
  rw [Clauses.clear, List.filter_filter, Clauses.seenBy]
  refine List.filter_congr fun clause hclause => ?_
  by_cases happlies : clause.applies (some d) = true
  · have hne : clause.component ≠ c := hc clause (List.mem_filter.mpr ⟨hclause, happlies⟩)
    simp [happlies, hne]
  · simp [happlies]

/-- A sequence of steps, each of which adds something in the scope of another dialect. -/
theorem foldl {α : Type} {f : Query → α → Query}
    (hf : ∀ (q : Query) (a : α), q.engineScope = some e → Unseen d q (f q a)) (as : List α)
    (hscope : q.engineScope = some e) : Unseen d q (as.foldl f q) := by
  induction as generalizing q with
  | nil => exact refl q
  | cons a as ih =>
    have hstep : Unseen d q (f q a) := hf q a hscope
    exact hstep.trans (ih (hstep.engineScope.trans hscope))

/-- One step after another. -/
theorem andThen (h : Unseen d q q') (hscope : q.engineScope = some e)
    (hnext : q'.engineScope = some e → Unseen d q' q'') : Unseen d q q'' :=
  h.trans (hnext (h.engineScope.trans hscope))

theorem fail (q : Query) (err : Error) : Unseen d q (q.fail err) :=
  ⟨rfl, rfl, rfl⟩

theorem absorb (q : Query) (err : Option Error) : Unseen d q (q.absorb err) :=
  ⟨rfl, rfl, rfl⟩

theorem setMethod (q : Query) (m : Method) : Unseen d q { q with method := m } :=
  ⟨rfl, rfl, rfl⟩

theorem resetPending (q : Query) : Unseen d q q.resetPending :=
  ⟨rfl, rfl, rfl⟩

end Query.Unseen

/-! ## Steps with conditions and joins -/

section Steps

variable {q : Query} {e : Dialect} (hscope : q.engineScope = some e) (he : e ≠ d)

include hscope he

/-- A condition that is added in the scope of another dialect is not seen. -/
theorem QueryOver.pushCondition_unseen (c : Component) (k : ConditionKind Subquery) :
    Query.Unseen d q (q.pushCondition c k) :=
  (Query.Unseen.resetPending q).andThen hscope fun h => .addComponent h he c _

omit hscope he in
theorem Conditions.inheritError_unseen (sub q : Query) :
    Query.Unseen d q (Conditions.inheritError sub q) := by
  unfold Conditions.inheritError
  split
  · exact .fail q _
  · exact .refl q

theorem Conditions.filter_unseen (column : String) (operator : Operator) (value : Value) :
    Query.Unseen d q (Conditions.filter column operator value q) := by
  have hadd : ∀ k, Query.Unseen d q (ConditionBuilder.addCondition k q) :=
    fun k => QueryOver.pushCondition_unseen hscope he .filter k
  have htest : ∀ k, Query.Unseen d q
      (ConditionBuilder.addCondition k (if operator = .eq then q else Conditions.not q)) := by
    intro k
    split
    · exact hadd k
    · have hnot : Query.Unseen d q (Conditions.not q) := ⟨rfl, rfl, rfl⟩
      exact hnot.andThen hscope fun h => QueryOver.pushCondition_unseen h he .filter k
  unfold Conditions.filter
  cases value with
  | null => exact htest _
  | bool b =>
    dsimp only
    split
    · exact htest _
    · exact hadd _
  | _ => exact hadd _

/-- No condition that is added in the scope of another dialect is seen. -/
theorem ConditionCall.apply_unseen (call : ConditionCall Query) :
    Query.Unseen d q (call.apply q) := by
  have hadd : ∀ k, Query.Unseen d q (ConditionBuilder.addCondition k q) :=
    fun k => QueryOver.pushCondition_unseen hscope he .filter k
  have hquery : ∀ (sub : Query) k, Query.Unseen d q
      (ConditionBuilder.addCondition k (Conditions.inheritError sub q)) := fun sub k =>
    (Conditions.inheritError_unseen sub q).andThen hscope fun h =>
      QueryOver.pushCondition_unseen h he .filter k
  cases call with
  | or | not | resetPending => exact ⟨rfl, rfl, rfl⟩
  | filter c o v => exact Conditions.filter_unseen hscope he c o v
  | inQuery _ sub | queryCompare sub _ _ | columnQuery _ _ sub => exact hquery sub _
  | existsIn sub =>
    change Query.Unseen d q (Conditions.existsIn sub q)
    unfold Conditions.existsIn
    split
    · exact hquery sub _
    · exact ⟨rfl, rfl, rfl⟩
  | group sub =>
    change Query.Unseen d q (Conditions.group sub q)
    unfold Conditions.group
    split
    · exact hquery sub _
    · exact (Conditions.inheritError_unseen sub q).trans (.resetPending _)
  | columns _ _ _ | null _ | boolean _ _ | pattern _ _ _ _ _ | between _ _ _ | inList _ _
  | raw _ | datePart _ _ _ _ => exact hadd _

/-- No join that is added in the scope of another dialect is seen. -/
theorem Query.pushJoin_unseen (b : JoinBuilder) : Query.Unseen d q (q.pushJoin b) := by
  unfold Query.pushJoin
  split
  · exact .fail q _
  · exact (Query.Unseen.resetPending q).andThen hscope fun h => .addComponent h he .join _

/-! ## Steps with several clauses -/

theorem QueryOver.select_unseen (columns : List String) :
    Query.Unseen d q (q.select columns) :=
  (Query.Unseen.setMethod q .select).andThen hscope fun h =>
    .foldl (fun _ _ h => .addComponent h he _ _) _ h

theorem QueryOver.forPage_unseen (page perPage : UInt64) :
    Query.Unseen d q (q.forPage page perPage) := by
  unfold QueryOver.forPage
  dsimp only
  split
  · have hoffset : ∀ n, Query.Unseen d q (q.offset n) := fun n =>
      .replaceComponent hscope he .offset _
    exact (hoffset _).andThen hscope fun h => .replaceComponent h he .limit _
  · exact .fail q _

theorem Query.combine_unseen (operation : SetOp) (all : Bool) (other : Query) :
    Query.Unseen d q (q.combine operation all other) := by
  unfold Query.combine
  split
  · exact (Query.Unseen.absorb q _).andThen hscope fun h => .addComponent h he _ _
  · exact .fail q _

theorem QueryOver.withValues_unseen (aliasName : String) (columns : List String)
    (rows : List (List Value)) : Query.Unseen d q (q.withValues aliasName columns rows) := by
  unfold QueryOver.withValues
  split
  · exact .fail q _
  · split
    · exact .fail q _
    · exact .addComponent hscope he _ _

theorem Query.withQuery_unseen (sub : Query) : Query.Unseen d q (q.withQuery sub) := by
  unfold Query.withQuery
  split
  · exact .fail q _
  · exact (Query.Unseen.absorb q _).andThen hscope fun h => .addComponent h he _ _

theorem QueryOver.asUpdate_unseen (columns : List String) (values : List Value) :
    Query.Unseen d q (q.asUpdate columns values) := by
  unfold QueryOver.asUpdate
  split
  · exact .fail q _
  · split
    · exact .fail q _
    · exact (Query.Unseen.setMethod q _).andThen hscope fun h => .replaceComponent h he _ _

/-! ## Steps that empty a component first -/

section Clearing

variable {c : Component}
  (hc : ∀ clause ∈ Clauses.seenBy d q.clauses, clause.component ≠ c)

include hc

/-- A component of which nothing is seen is emptied and filled again in the scope of another
dialect. -/
theorem Query.Unseen.refill {α : Type} (m : Method) (content : α → ClauseKind Subquery)
    (as : List α) : Query.Unseen d q
      (as.foldl (fun q a => q.addComponent c (content a))
        ({ q with method := m }.clearComponent c)) := by
  have hclear : Query.Unseen d q ({ q with method := m }.clearComponent c) :=
    (Query.Unseen.setMethod q m).trans (.clearComponent hc)
  exact hclear.andThen hscope fun h => .foldl (fun _ _ h => .addComponent h he _ _) as h

end Clearing

theorem QueryOver.asAggregate_unseen
    (hc : ∀ clause ∈ Clauses.seenBy d q.clauses, clause.component ≠ .aggregate)
    (function : AggregateFunc) (columns : List String) :
    Query.Unseen d q (q.asAggregate function columns) :=
  .refill hscope he hc .aggregate ClauseKind.aggregate [⟨function, columns⟩]

theorem QueryOver.asInsert_unseen
    (hc : ∀ clause ∈ Clauses.seenBy d q.clauses, clause.component ≠ .insert)
    (columns : List String) (rows : List (List Value)) :
    Query.Unseen d q (q.asInsert columns rows) := by
  unfold QueryOver.asInsert
  split
  · exact .fail q _
  · split
    · exact .fail q _
    · exact .refill hscope he hc .insert (fun row => .insert (.row columns row false)) rows

theorem QueryOver.asInsertRow_unseen
    (hc : ∀ clause ∈ Clauses.seenBy d q.clauses, clause.component ≠ .insert)
    (pairs : List (String × Value)) (returnId : Bool) :
    Query.Unseen d q (q.asInsertRow pairs returnId) := by
  unfold QueryOver.asInsertRow
  split
  · exact .fail q _
  · exact .refill hscope he hc .insert ClauseKind.insert [_]

theorem Query.asInsertQuery_unseen
    (hc : ∀ clause ∈ Clauses.seenBy d q.clauses, clause.component ≠ .insert)
    (columns : List String) (sub : Query) : Query.Unseen d q (q.asInsertQuery columns sub) := by
  have habsorb : Query.Unseen d q ({ q with method := .insert }.absorb sub.error) := ⟨rfl, rfl, rfl⟩
  have hclear : Query.Unseen d q
      (({ q with method := .insert }.absorb sub.error).clearComponent .insert) :=
    habsorb.trans (.clearComponent hc)
  exact hclear.andThen hscope fun h => .addComponent h he _ _

theorem QueryOver.createTable_unseen
    (hc : ∀ clause ∈ Clauses.seenBy d q.clauses, clause.component ≠ .tableColumn)
    (columns : List TableColumn) : Query.Unseen d q (q.createTable columns) := by
  unfold QueryOver.createTable
  split
  · exact .fail q _
  · exact .refill hscope he hc .createTable ClauseKind.tableColumn columns

end Steps

/-! ## Steps that spare what is seen -/

/-- The component that a step empties, for every dialect, before it adds anything. -/
def Step.cleared? : Step → Option Component
  | .clearComponent c => some c
  | .asAggregate _ _ | .asCount _ => some .aggregate
  | .asInsert _ _ | .asInsertRow _ _ | .asInsertQuery _ _ => some .insert
  | .createTable _ => some .tableColumn
  | _ => none

mutual

/-- The step takes nothing away from the clauses `seen` by a dialect and adds nothing to them, when
it is carried out in the scope of another dialect: it does not begin a new query, scopes no clauses
to the dialect itself, puts in or takes out no clause that the dialect sees, and empties no component
of which it sees one. -/
def Step.Spares (d : Dialect) (seen : List (Clause Subquery)) : Step → Prop
  | .child => False
  | .forEngine engine body => engine ≠ d ∧ SparedBy d seen body
  | .pushClause clause => clause.applies (some d) = false
  | .removeClauses c engine => ∀ clause ∈ seen, clause.isFiled c engine = false
  | s => ∀ c ∈ s.cleared?, ∀ clause ∈ seen, clause.component ≠ c

/-- All steps of a list spare the clauses. -/
def SparedBy (d : Dialect) (seen : List (Clause Subquery)) : List Step → Prop
  | [] => True
  | s :: ss => s.Spares d seen ∧ SparedBy d seen ss

end

mutual

/-- **Step.** In the scope of another dialect, a step that spares what a dialect sees keeps it. -/
theorem Step.run_unseen {e : Dialect} (he : e ≠ d) :
    ∀ (s : Step) (q : Query), q.engineScope = some e →
      s.Spares d (Clauses.seenBy d q.clauses) → Query.Unseen d q (s.run q)
  | .child, _, _, hs => by
    simp only [Step.Spares] at hs
  | .forEngine engine body, q, _, hs => by
    simp only [Step.Spares] at hs
    simp only [Step.run]
    have hbody := runAll_unseen hs.1 body { q with engineScope := some engine } rfl hs.2
    exact ⟨hbody.clauses, hbody.parent, rfl⟩
  | .pushClause clause, q, _, hs => by
    simp only [Step.Spares] at hs
    simp only [Step.run]
    refine ⟨?_, rfl, rfl⟩
    have hclause : Clauses.seenBy d [clause] = [] := by simp [Clauses.seenBy, hs]
    change Clauses.seenBy d (q.clauses ++ [clause]) = _
    rw [Clauses.seenBy_append, hclause, List.append_nil]
  | .removeClauses c engine, q, _, hs => by
    simp only [Step.Spares] at hs
    simp only [Step.run]
    refine ⟨?_, rfl, rfl⟩
    change (Clauses.remove c engine q.clauses).filter (·.applies (some d)) = _
    rw [Clauses.remove, List.filter_filter, Clauses.seenBy]
    refine List.filter_congr fun clause hclause => ?_
    by_cases happlies : clause.applies (some d) = true
    · have hfiled : clause.isFiled c engine = false :=
        hs clause (List.mem_filter.mpr ⟨hclause, happlies⟩)
      simp [happlies, hfiled]
    · simp [happlies]
  | .clearComponent c, q, _, hs => by
    simp only [Step.Spares, Step.cleared?, Option.mem_def, Option.some.injEq] at hs
    simp only [Step.run]
    exact .clearComponent (hs c rfl)
  | .asAggregate f columns, q, hscope, hs => by
    simp only [Step.Spares, Step.cleared?, Option.mem_def, Option.some.injEq] at hs
    simp only [Step.run]
    exact QueryOver.asAggregate_unseen hscope he (hs _ rfl) f columns
  | .asCount columns, q, hscope, hs => by
    simp only [Step.Spares, Step.cleared?, Option.mem_def, Option.some.injEq] at hs
    simp only [Step.run]
    exact QueryOver.asAggregate_unseen hscope he (hs _ rfl) _ _
  | .asInsert columns rows, q, hscope, hs => by
    simp only [Step.Spares, Step.cleared?, Option.mem_def, Option.some.injEq] at hs
    simp only [Step.run]
    exact QueryOver.asInsert_unseen hscope he (hs _ rfl) columns rows
  | .asInsertRow pairs returnId, q, hscope, hs => by
    simp only [Step.Spares, Step.cleared?, Option.mem_def, Option.some.injEq] at hs
    simp only [Step.run]
    exact QueryOver.asInsertRow_unseen hscope he (hs _ rfl) pairs returnId
  | .asInsertQuery columns sub, q, hscope, hs => by
    simp only [Step.Spares, Step.cleared?, Option.mem_def, Option.some.injEq] at hs
    simp only [Step.run]
    exact Query.asInsertQuery_unseen hscope he (hs _ rfl) columns _
  | .createTable columns, q, hscope, hs => by
    simp only [Step.Spares, Step.cleared?, Option.mem_def, Option.some.injEq] at hs
    simp only [Step.run]
    exact QueryOver.createTable_unseen hscope he (hs _ rfl) columns
  | .named _, q, _, _ | .define _ _, q, _, _ | .setMethod _, q, _, _ | .distinctRows, q, _, _
  | .asDelete, q, _, _ | .dropTable, q, _, _ | .truncateTable, q, _, _ => by
    simp only [Step.run]
    exact ⟨rfl, rfl, rfl⟩
  | .fromTable _, q, hscope, _ | .fromRaw _, q, hscope, _ | .replaceComponent _ _, q, hscope, _
  | .limit _, q, hscope, _ | .offset _, q, hscope, _ | .lock _, q, hscope, _
  | .temporary, q, hscope, _ | .onCommitPreserveRows _, q, hscope, _ => by
    simp only [Step.run]
    exact .replaceComponent hscope he _ _
  | .addComponent _ _, q, hscope, _ | .groupByRaw _, q, hscope, _ | .orderBy _ _, q, hscope, _
  | .orderByRaw _, q, hscope, _ | .orderByRandom _, q, hscope, _ | .withRaw _ _, q, hscope, _ => by
    simp only [Step.run]
    exact .addComponent hscope he _ _
  | .having _ _ _, q, hscope, _ | .havingRaw _, q, hscope, _ | .havingBetween _ _ _, q, hscope, _
  | .havingIn _ _, q, hscope, _ => by
    simp only [Step.run]
    exact QueryOver.pushCondition_unseen hscope he _ _
  | .selectRaw _, q, hscope, _ | .selectAggregate _ _, q, hscope, _ => by
    simp only [Step.run]
    exact (Query.Unseen.setMethod q .select).andThen hscope fun h => .addComponent h he _ _
  | .selectQuery _ _, q, hscope, _ | .selectAggregateWhere _ _ _, q, hscope, _ => by
    simp only [Step.run]
    have habsorb : ∀ err, Query.Unseen d q ({ q with method := .select }.absorb err) :=
      fun err => ⟨rfl, rfl, rfl⟩
    exact (habsorb _).andThen hscope fun h => .addComponent h he _ _
  | .asIncrement _ _, q, hscope, _ | .asDecrement _ _, q, hscope, _ => by
    simp only [Step.run]
    exact (Query.Unseen.setMethod q .update).andThen hscope fun h => .replaceComponent h he _ _
  | .fromQuery _, q, hscope, _ => by
    simp only [Step.run]
    exact (Query.Unseen.absorb q _).andThen hscope fun h => .replaceComponent h he _ _
  | .createTableAs _, q, hscope, _ => by
    simp only [Step.run]
    have habsorb : ∀ err, Query.Unseen d q ({ q with method := .createTableAs }.absorb err) :=
      fun err => ⟨rfl, rfl, rfl⟩
    exact (habsorb _).andThen hscope fun h => .replaceComponent h he _ _
  | .condition call, q, hscope, _ => by
    simp only [Step.run]
    exact ConditionCall.apply_unseen hscope he _
  | .joinTable _ _ _, q, hscope, _ | .joinQuery _ _ _, q, hscope, _ => by
    simp only [Step.run]
    exact Query.pushJoin_unseen hscope he _
  | .select columns, q, hscope, _ => by
    simp only [Step.run]
    exact QueryOver.select_unseen hscope he columns
  | .groupBy columns, q, hscope, _ => by
    simp only [Step.run]
    exact .foldl (fun _ _ h => .addComponent h he _ _) columns hscope
  | .forPage page perPage, q, hscope, _ => by
    simp only [Step.run]
    exact QueryOver.forPage_unseen hscope he page perPage
  | .combine operation all _, q, hscope, _ => by
    simp only [Step.run]
    exact Query.combine_unseen hscope he operation all _
  | .combineRaw _, q, hscope, _ => by
    simp only [Step.run]
    unfold QueryOver.combineRaw
    split
    · exact .addComponent hscope he _ _
    · exact .fail q _
  | .withQuery _, q, hscope, _ => by
    simp only [Step.run]
    exact Query.withQuery_unseen hscope he _
  | .withValues aliasName columns rows, q, hscope, _ => by
    simp only [Step.run]
    exact QueryOver.withValues_unseen hscope he aliasName columns rows
  | .asUpdate columns values, q, hscope, _ => by
    simp only [Step.run]
    exact QueryOver.asUpdate_unseen hscope he columns values

/-- **Run.** In the scope of another dialect, a run of steps that spare what a dialect sees keeps
it. -/
theorem runAll_unseen {e : Dialect} (he : e ≠ d) :
    ∀ (ss : List Step) (q : Query), q.engineScope = some e →
      SparedBy d (Clauses.seenBy d q.clauses) ss → Query.Unseen d q (runAll ss q)
  | [], q, _, _ => by
    simp only [runAll]
    exact .refl q
  | s :: ss, q, hscope, hss => by
    simp only [SparedBy] at hss
    simp only [runAll]
    have hstep := Step.run_unseen he s q hscope hss.1
    have hrest := runAll_unseen he ss (s.run q) (hstep.engineScope.trans hscope)
      (by rw [hstep.clauses]; exact hss.2)
    exact hstep.trans hrest

end

/-! ## Statements and pending modifiers -/

section Pending

variable {t : Target} {env : Env}

theorem renderPlain_pending (s : Sections Rendered) (p : Pending) :
    renderPlain t env { s with pending := p } = renderPlain t env s := by
  unfold renderPlain
  cases t.pagination with
  | topRowNumber =>
    dsimp only
    split
    · simp only [numberedRows, bind_assoc, pure_bind]
      rfl
    · rfl
  | _ => rfl

/-- The select that an aggregate statement stands for, with other pending modifiers. -/
def Sections.AggregateForm.withPending (p : Pending) :
    Sections.AggregateForm Rendered → Sections.AggregateForm Rendered
  | .flat select => .flat { select with pending := p }
  | .wrapped function rows => .wrapped function { rows with pending := p }
  | .hollow => .hollow

/-- The select that an aggregate statement stands for takes up the pending modifiers only in the
tests of several columns. -/
theorem Sections.aggregateForm_pending (s : Sections Rendered) (p : Pending)
    (hp : s.distinct = false → ∀ a, s.aggregate = some a → a.columns.length ≤ 1) :
    { s with pending := p }.aggregateForm = s.aggregateForm.withPending p := by
  cases s with
  | mk method distinct columns aggregate =>
    unfold aggregateForm
    cases aggregate with
    | none => rfl
    | some a =>
      dsimp only
      split
      case isTrue => rfl
      case isFalse hone =>
        split
        case isTrue => rfl
        case isFalse =>
          split
          case isTrue => rfl
          case isFalse hdistinct =>
            -- Of no column there is no test that could take the modifiers up.
            have hlength : a.columns.length ≤ 1 := hp (Bool.eq_false_iff.mpr hdistinct) a rfl
            have hne : a.columns.length ≠ 1 := fun h => hone ⟨h, by simpa using hdistinct⟩
            have hnone : a.columns = [] := List.length_eq_zero_iff.mp (by omega)
            rw [hnone]
            rfl

/-- A select or an aggregate does not depend on the pending modifiers, unless it is an aggregate of
several columns. -/
theorem renderBody_pending (s : Sections Rendered) (p : Pending)
    (hp : s.method = .aggregate → s.distinct = false → ∀ a, s.aggregate = some a →
      a.columns.length ≤ 1) :
    renderBody t env { s with pending := p } = renderBody t env s := by
  unfold renderBody
  by_cases hmethod : s.method = .aggregate
  · rw [if_pos hmethod, if_pos hmethod, Sections.aggregateForm_pending s p (hp hmethod)]
    cases s.aggregateForm with
    | flat select => rfl
    | wrapped function rows =>
      simp only [Sections.AggregateForm.withPending, renderPlain_pending]
    | hollow => rfl
  · rw [if_neg hmethod, if_neg hmethod]
    exact renderPlain_pending s p

/-- A statement does not depend on the pending modifiers, unless it is an aggregate of several
columns. -/
theorem renderMethod_pending (s : Sections Rendered) (p : Pending)
    (hp : s.method = .aggregate → s.distinct = false → ∀ a, s.aggregate = some a →
      a.columns.length ≤ 1) :
    renderMethod t env { s with pending := p } = renderMethod t env s := by
  have hdata : ∀ env, renderData t env { s with pending := p } = renderData t env s := by
    intro env
    have hbody := @renderBody_pending t env s p hp
    unfold renderData
    dsimp only
    split
    · exact hbody
    · exact hbody
    all_goals rfl
  have hstatement :
      renderStatement t env { s with pending := p } = renderStatement t env s := by
    unfold renderStatement
    simp only [hdata]
    rfl
  unfold renderMethod
  dsimp only
  split
  all_goals first | rfl | exact hstatement

end Pending

/-! ## Queries -/

/-- The query is an aggregate of several columns to the dialect: the test of the first column takes
up the pending modifiers. -/
def Query.TakesPending (d : Dialect) (q : Query) : Prop :=
  q.method = .aggregate ∧ q.distinct = false ∧
    ∃ a, (Sections.of d q).aggregate = some a ∧ 1 < a.columns.length

/-- The second query differs from the first one at most in its clauses and in how further steps are
taken up. -/
structure Query.SameHead (q q' : Query) : Prop where
  method : q'.method = q.method
  distinct : q'.distinct = q.distinct
  aliasName : q'.aliasName = q.aliasName
  definitions : q'.definitions = q.definitions
  error : q'.error = q.error

/-- A query of which a dialect sees the same says the same to it, pending modifiers apart. -/
theorem Sections.of_unseen {q q' : Query} (h : Query.Unseen d q q')
    (hhead : Query.SameHead q q') :
    Sections.of d q' = { Sections.of d q with pending := q'.pending } := by
  have hq' : q' = { { q with pending := q'.pending } with clauses := q'.clauses } := by
    cases q'
    cases h
    cases hhead
    simp_all
  rw [hq']
  exact Sections.of_congr (Clauses.agree_of_seenBy h.clauses)
    (Clauses.joinSections_of_seenBy h.clauses)

/-- **Isolation of engine scopes.** Steps that are carried out in the scope of a dialect and spare
what another dialect sees do not change what the query compiles to for the other one, whatever the
options.  Apart from clauses the steps leave the query as it was, including its pending modifiers if
these are to be taken up. -/
theorem compile_forEngine (t : Target) (q : Query) (e : Dialect) (f : List Step)
    (he : e ≠ t.dialect)
    (hspared : SparedBy t.dialect (Clauses.seenBy t.dialect q.clauses) f)
    (hhead : Query.SameHead q (q.forEngine e (runAll f)))
    (hpending : Query.TakesPending t.dialect q →
      (q.forEngine e (runAll f)).pending = q.pending) :
    compile t (q.forEngine e (runAll f)) = compile t q := by
  have hrun : Query.Unseen t.dialect { q with engineScope := some e }
      (runAll f { q with engineScope := some e }) := runAll_unseen he f _ rfl hspared
  have hunseen : Query.Unseen t.dialect q (q.forEngine e (runAll f)) :=
    ⟨hrun.clauses, hrun.parent, rfl⟩
  have hsections : Query.sections t (q.forEngine e (runAll f)) =
      { q.sections t with pending := (q.forEngine e (runAll f)).pending } := by
    rw [Query.sections, Sections.of_map, Sections.of_unseen hunseen hhead, Query.sections,
      Sections.of_map]
    rfl
  have hrendered : renderMethod t {} (Query.sections t (q.forEngine e (runAll f))) =
      renderMethod t {} (q.sections t) := by
    rw [hsections]
    by_cases htakes : Query.TakesPending t.dialect q
    · rw [hpending htakes]
      rfl
    · refine renderMethod_pending _ _ fun hmethod hdistinct a ha => ?_
      rw [Query.sections, Sections.of_map] at ha
      exact Nat.le_of_not_lt fun hlength => htakes ⟨hmethod, hdistinct, a, ha, hlength⟩
  rw [compile, compile, hhead.error, hrendered]

/-- A limit and a condition for one dialect, and inside of that a lock for a third, add nothing to
the statement of another one. -/
theorem compile_forEngine_limit :
    let t : Target := { dialect := .postgres }
    let q : Query := { clauses := [⟨.source, none, .source (.table "users")⟩] }
    let f : List Step :=
      [.limit 3, .condition (.filter "id" .gt (.int 5)), .forEngine .sqlite [.lock .share]]
    compile t (q.forEngine .mySql (runAll f)) = compile t q ∧
      (compile t q).toOption.map (·.rawSql) = some "SELECT * FROM \"users\"" ∧
      (compile { dialect := .mySql } (q.forEngine .mySql (runAll f))).toOption.map (·.rawSql) =
        some "SELECT * FROM `users` WHERE `id` > ? LIMIT ?" := by
  intro t q f
  have hne : Dialect.mySql ≠ t.dialect := by decide
  have hlimit : (Step.limit 3).Spares t.dialect (Clauses.seenBy t.dialect q.clauses) := by
    simp [Step.Spares, Step.cleared?]
  have hcondition : (Step.condition (.filter "id" .gt (.int 5))).Spares t.dialect
      (Clauses.seenBy t.dialect q.clauses) := by
    simp [Step.Spares, Step.cleared?]
  have hlock : (Step.forEngine .sqlite [.lock .share]).Spares t.dialect
      (Clauses.seenBy t.dialect q.clauses) := by
    simp [Step.Spares, SparedBy, Step.cleared?, t]
  have hspared : SparedBy t.dialect (Clauses.seenBy t.dialect q.clauses) f := by
    simp only [f, SparedBy]
    exact ⟨hlimit, hcondition, hlock, trivial⟩
  have hhead : Query.SameHead q (q.forEngine .mySql (runAll f)) :=
    ⟨rfl, rfl, rfl, rfl, rfl⟩
  have hpending : Query.TakesPending t.dialect q →
      (q.forEngine .mySql (runAll f)).pending = q.pending :=
    fun htakes => absurd htakes.1 (by decide)
  refine ⟨compile_forEngine t q .mySql f hne hspared hhead hpending, ?_, ?_⟩
  · decide +kernel
  · decide +kernel

/-- Emptying a component in the scope of one dialect takes the limit that another one had. -/
theorem forEngine_clears :
    let t : Target := { dialect := .postgres }
    let q : Query :=
      { clauses := [⟨.source, none, .source (.table "users")⟩, ⟨.limit, none, .limit 10⟩] }
    let f : List Step := [.clearComponent .limit]
    q.error = none ∧ Dialect.mySql ≠ t.dialect ∧
      Query.SameHead q (q.forEngine .mySql (runAll f)) ∧
      (compile t q).toOption.map (·.rawSql) = some "SELECT * FROM \"users\" LIMIT ?" ∧
      (compile t (q.forEngine .mySql (runAll f))).toOption.map (·.rawSql) =
        some "SELECT * FROM \"users\"" := by
  intro t q f
  refine ⟨rfl, by decide, ⟨rfl, rfl, rfl, rfl, rfl⟩, ?_, ?_⟩
  · decide +kernel
  · decide +kernel

end SqlBuilder
