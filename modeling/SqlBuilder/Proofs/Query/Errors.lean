import SqlBuilder.Compiler
import SqlBuilder.Proofs.Query.Actions

/-!
# The first error

A query keeps the first error that any step reports.  `Draft.fault?` is the error that an action
reports in the state in which it is carried out, `Step.fault?` the first one of a step, and
`firstError?` the first one of a list of steps.  This is what a run leaves on the query
(`runAll_error`): whatever comes later changes nothing about it, and every statement that is asked
of the query is that error (`first_error_kept`).

What is built inside of a step has found its errors in the same way, and the step hands on the one
that is left: a subquery is the result of a run of its own, and a join keeps the first error of its
own steps (`runJoin_error`).  A subquery without an alias, where one is needed, and a test of a
subquery without a source of rows are errors of the step itself, which come before those of the
subquery.

Only `child` goes on with a query that knows nothing of earlier errors (`childless`).
-/

namespace SqlBuilder

/-! ## Actions -/

namespace Draft

variable {s : Draft} {a : Action} {as : List Action}

/-- The error that an action reports. -/
def fault? (s : Draft) : Action → Option Error
  | .record e => some e
  | .replace clause =>
    match Clauses.addOrReplace clause s.clauses with
    | .ok _ => none
    | .error e => some e
  | _ => none

/-- The first error that an action of a list reports. -/
def firstFault? (s : Draft) : List Action → Option Error
  | [] => none
  | a :: as => s.fault? a <|> (s.perform a).firstFault? as

@[simp] theorem error_add (s : Draft) (clause : Clause Subquery) :
    (s.add clause).error = s.error := by
  unfold add
  split <;> rfl

/-- An action records what it reports, unless there is an error already. -/
theorem error_perform (ha : a ≠ .restart) : (s.perform a).error = (s.error <|> s.fault? a) := by
  cases a with
  | restart => exact absurd rfl ha
  | add clause | refill clause => simp [perform, fault?]
  | replace clause =>
    cases herror : s.error with
    | some e => simp [perform, herror]
    | none =>
      simp only [perform, fault?, herror, Option.isSome_none, Bool.false_eq_true, ↓reduceIte]
      cases Clauses.addOrReplace clause s.clauses <;> simp
  | record e => rfl
  | clear _ | remove _ _ | push _ => simp [perform, fault?]

/-- A list of actions leaves the first error that one of them reports. -/
theorem error_performAll (has : ∀ a ∈ as, a ≠ .restart) :
    (s.performAll as).error = (s.error <|> s.firstFault? as) := by
  induction as generalizing s with
  | nil => simp [firstFault?]
  | cons a as ih =>
    obtain ⟨ha, has⟩ := List.forall_mem_cons.mp has
    rw [performAll_cons, ih has, error_perform ha, firstFault?]
    cases s.error <;> rfl

end Draft

/-! ## Steps that go on with their query -/

mutual

/-- The step goes on with the query that it is given, and so do the steps in its engine scope. -/
def Step.isChildless : Step → Bool
  | .child => false
  | .forEngine _ body => childless body
  | _ => true

/-- All steps of a list go on with their query. -/
def childless : List Step → Bool
  | [] => true
  | s :: ss => s.isChildless && childless ss

end

theorem ne_restart_of_mem_inherited {e : Option Error} {a : Action} (h : a ∈ inherited e) :
    a ≠ .restart := by
  obtain ⟨e, -, rfl⟩ := mem_inherited.mp h
  exact Action.noConfusion

theorem JoinBuilder.ne_restart_of_mem_actions {b : JoinBuilder} {q : Query} {a : Action}
    (h : a ∈ b.actions q) : a ≠ .restart := by
  unfold JoinBuilder.actions at h
  split at h <;> obtain rfl := List.mem_singleton.mp h <;> exact Action.noConfusion

mutual

theorem Step.actions_ne_restart (s : Step) (q : Query) (h : s.isChildless = true) :
    ∀ a ∈ s.actions q, a ≠ .restart := by
  intro a ha
  obtain hpassed | hplain := s.plain_or_handedOn q a ha
  · cases s with
    | child => nomatch h
    | forEngine engine body =>
      simp only [Step.isChildless] at h
      exact actionsOf_ne_restart body _ h a hpassed
    | fromQuery _ | selectQuery _ _ | selectAggregateWhere _ _ _ | combine _ _ _ | withQuery _
    | asInsertQuery _ _ | createTableAs _ | condition _ =>
      exact ne_restart_of_mem_inherited hpassed
    | joinTable _ _ _ | joinQuery _ _ _ => exact JoinBuilder.ne_restart_of_mem_actions hpassed
    | addComponent _ _ | replaceComponent _ _ | pushClause _ =>
      obtain rfl := List.mem_singleton.mp hpassed
      exact Action.noConfusion
    | _ => nomatch hpassed
  · rintro rfl
    nomatch hplain

theorem actionsOf_ne_restart (ss : List Step) (q : Query) (h : childless ss = true) :
    ∀ a ∈ actionsOf ss q, a ≠ .restart := by
  cases ss with
  | nil => simp [actionsOf]
  | cons s ss =>
    simp only [childless, Bool.and_eq_true] at h
    simp only [actionsOf, List.forall_mem_append]
    exact ⟨Step.actions_ne_restart s q h.1, actionsOf_ne_restart ss _ h.2⟩

end

/-! ## Joins -/

/-- The error that putting a target in its place reports. -/
def JoinBuilder.targetFault? (b : JoinBuilder) (s : Source Subquery) : Option Error :=
  match Clauses.addOrReplace ⟨.source, b.engineScope, .source s⟩ b.join.clauses with
  | .ok _ => none
  | .error e => some e

/-- The error that a step reports on a join. -/
def JoinStep.fault? : JoinStep → JoinBuilder → Option Error
  | .condition call, b => (buildCall call (ConditionBuilder.childQuery b)).fault?
  | .table name, b => b.targetFault? (.table name)
  | .query sub, b =>
    let sub := sub.build (ConditionBuilder.childQuery b)
    (if sub.aliasName.isNone then some .joinWithoutAlias else sub.error) <|>
      b.targetFault? (.query ⟨sub⟩)
  | _, _ => none

/-- The first error that a step of a list reports on a join. -/
def firstJoinError? : List JoinStep → JoinBuilder → Option Error
  | [], _ => none
  | s :: ss, b => s.fault? b <|> firstJoinError? ss (s.run b)

namespace JoinBuilder

variable (b : JoinBuilder)

theorem error_target (s : Source Subquery) :
    (b.target s).error = (b.error <|> b.targetFault? s) := by
  unfold target targetFault?
  split <;> simp_all

theorem error_inheritError (sub : Query) :
    (Conditions.inheritError sub b).error = (b.error <|> sub.error) := by
  unfold Conditions.inheritError
  cases h : sub.error with
  | none => simp
  | some e => rfl

theorem error_filter (column : String) (operator : Operator) (value : Value) :
    (Conditions.filter column operator value b).error = b.error := by
  have htest : ∀ k : ConditionKind Subquery,
      (ConditionBuilder.addCondition k (if operator = .eq then b else Conditions.not b)).error =
        b.error := by
    intro k
    split <;> rfl
  unfold Conditions.filter
  cases value with
  | null => exact htest _
  | bool t =>
    dsimp only
    split
    · exact htest _
    · rfl
  | _ => rfl

/-- A condition on a join records what it reports, unless there is an error. -/
theorem error_apply (call : ConditionCall Query) :
    (call.apply b).error = (b.error <|> call.fault?) := by
  have hquery : ∀ (sub : Query) (k : ConditionKind Subquery),
      (ConditionBuilder.addCondition k (Conditions.inheritError sub b)).error =
        (b.error <|> sub.error) :=
    fun sub _ => b.error_inheritError sub
  have hkept : b.error = (b.error <|> none) := by simp
  cases call with
  | filter c o v =>
    exact (b.error_filter c o v).trans hkept
  | inQuery _ sub | queryCompare sub _ _ | columnQuery _ _ sub => exact hquery sub _
  | existsIn sub =>
    change (Conditions.existsIn sub b).error = _
    simp only [Conditions.existsIn, ConditionCall.fault?]
    split
    · exact hquery sub _
    · rfl
  | group sub =>
    change (Conditions.group sub b).error = _
    simp only [Conditions.group, ConditionCall.fault?]
    split
    · exact hquery sub _
    · exact b.error_inheritError sub
  | _ => exact hkept

end JoinBuilder

/-- **Step on a join.**  The join records what the step reports, unless there is an error. -/
theorem JoinStep.error_run (s : JoinStep) (b : JoinBuilder) :
    (s.run b).error = (b.error <|> s.fault? b) := by
  cases s with
  | condition call =>
    simp only [JoinStep.run]
    exact b.error_apply _
  | table name =>
    simp only [JoinStep.run]
    exact b.error_target _
  | query sub =>
    simp only [JoinStep.run, JoinBuilder.query, JoinBuilder.error_target]
    cases b.error <;> rfl
  | kind _ | on _ _ _ | useIndex _ | pushClause _ =>
    simp only [JoinStep.run]
    have hkept : b.error = (b.error <|> none) := by simp
    exact hkept

/-- **Run on a join.**  A list of steps leaves the first error that one of them reports. -/
theorem runJoin_error (ss : List JoinStep) (b : JoinBuilder) :
    (runJoin ss b).error = (b.error <|> firstJoinError? ss b) := by
  induction ss generalizing b with
  | nil => simp [runJoin, firstJoinError?]
  | cons s ss ih =>
    simp only [runJoin, firstJoinError?]
    rw [ih, s.error_run]
    simp only [Option.orElse_eq_orElse, Option.orElse_eq_or, Option.or_assoc]

/-! ## Queries -/

/-- The first error that a step reports on a query. -/
def Step.fault? (s : Step) (q : Query) : Option Error :=
  q.draft.firstFault? (s.actions q)

/-- The first error that a step of a list reports. -/
def firstError? : List Step → Query → Option Error
  | [], _ => none
  | s :: ss, q => s.fault? q <|> firstError? ss (s.run q)

/-- **Step.**  A query records what a step reports, unless there is an error. -/
theorem Step.error_run {s : Step} (hs : s.isChildless = true) (q : Query) :
    (s.run q).error = (q.error <|> s.fault? q) := by
  calc (s.run q).error
      = (q.draft.performAll (s.actions q)).error := congrArg Draft.error (s.draft_run q)
    _ = (q.error <|> s.fault? q) := Draft.error_performAll (s.actions_ne_restart q hs)

/-- **Run.**  A list of steps leaves the first error that one of them reports. -/
theorem runAll_error {ss : List Step} (hss : childless ss = true) (q : Query) :
    (runAll ss q).error = (q.error <|> firstError? ss q) := by
  induction ss generalizing q with
  | nil => simp [runAll, firstError?]
  | cons s ss ih =>
    simp only [childless, Bool.and_eq_true] at hss
    simp only [runAll, firstError?]
    rw [ih hss.2, Step.error_run hss.1]
    simp only [Option.orElse_eq_orElse, Option.orElse_eq_or, Option.or_assoc]

theorem childless_append (ss ss' : List Step) :
    childless (ss ++ ss') = (childless ss && childless ss') := by
  induction ss with
  | nil => rfl
  | cons s ss ih => simp only [List.cons_append, childless, ih, Bool.and_assoc]

theorem runAll_append (ss ss' : List Step) (q : Query) :
    runAll (ss ++ ss') q = runAll ss' (runAll ss q) := by
  induction ss generalizing q with
  | nil => rfl
  | cons s ss ih => simp only [List.cons_append, runAll, ih]

/-- Every statement that is asked of a query with an error is that error. -/
theorem compile_of_error {q : Query} {e : Error} (he : q.error = some e) (t : Target) :
    compile t q = .error e := by
  simp only [compile, he]

/-- **Errors.**  The error of a query is the first one that a step reported; no later step changes
it, and every statement that is asked of the query is that error.  The errors of joins are found in
the same way. -/
theorem first_error_kept :
    (∀ ss q, childless ss = true → (runAll ss q).error = (q.error <|> firstError? ss q)) ∧
    (∀ ss ss' q e, childless (ss ++ ss') = true → (runAll ss q).error = some e →
      (runAll (ss ++ ss') q).error = some e) ∧
    (∀ ss b, (runJoin ss b).error = (b.error <|> firstJoinError? ss b)) ∧
    (∀ (q : Query) e, q.error = some e → ∀ t,
      compile t q = .error e ∧ ∀ method, compileAs t method q = .error e) := by
  refine ⟨fun ss q hss => runAll_error hss q, ?kept, runJoin_error, ?compiled⟩
  case kept =>
    intro ss ss' q e hss he
    rw [childless_append, Bool.and_eq_true] at hss
    rw [runAll_append, runAll_error hss.2, he]
    rfl
  case compiled =>
    intro q e he t
    exact ⟨compile_of_error he t, fun method => compile_of_error (q := { q with method }) he t⟩

/-- An insert without rows, and then an update without values. -/
theorem first_error_kept_of_two :
    let ss : List Step := [.asInsert ["a"] [], .limit 3]
    let later : List Step := [.forEngine .mySql [.asUpdate ["a"] []]]
    childless (ss ++ later) = true ∧ (runAll ss {}).error = some .emptyInsert ∧
      (runAll (ss ++ later) {}).error = some .emptyInsert ∧
      compile ⟨.mySql, {}⟩ (runAll (ss ++ later) {}) = .error .emptyInsert := by
  obtain ⟨hfirst, hkept, -, hcompiled⟩ := first_error_kept
  have hfault : (runAll [.asInsert ["a"] [], .limit 3] {}).error = some .emptyInsert :=
    hfirst _ _ rfl
  have hlater := hkept _ [.forEngine .mySql [.asUpdate ["a"] []]] _ _ rfl hfault
  exact ⟨rfl, hfault, hlater, (hcompiled _ _ hlater ⟨.mySql, {}⟩).1⟩

end SqlBuilder
