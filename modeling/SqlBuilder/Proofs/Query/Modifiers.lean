import SqlBuilder.Proofs.Query.Turns
import SqlBuilder.Query.Method

/-!
# The modifiers that a condition takes up

What happens to the modifiers in a run of steps is its list of turns (`turnsOf`, `joinTurnsOf`).  A
method that joins with OR or negates is an `or` or a `not` before the plain one (`Step.modified`).

A step changes what is pending as its turns say (`Step.pending_run`), and so does a run
(`runAll_pending`); a run that ends with a condition leaves one that carries just the modifiers that
are pending before it (`runAll_endWith`).  The steps that use the modifiers up are listed apart from
their turns (`Step.UsesUp`), and `Step.usesUp_iff` says that there are no others.
-/

namespace SqlBuilder

/-! ## Steps -/

/-- What a finished join comes to on the modifiers of its query: it drops them if it is added. -/
def JoinBuilder.turns (b : JoinBuilder) : List Turn :=
  if b.error.isNone then [.drop] else [.none]

mutual

/-- What a step comes to on the modifiers. -/
def Step.turns : Step → Query → List Turn
  | .condition call, q => (buildCall call q.child).turns
  | .having _ _ _, _ | .havingRaw _, _ | .havingBetween _ _ _, _ | .havingIn _ _, _ =>
    [.condition .having]
  | .joinTable kind table body, q =>
    (runJoin body ((JoinBuilder.within q kind).table table)).turns
  | .joinQuery kind sub body, q =>
    (runJoin body ((JoinBuilder.within q kind).query (sub.build q.child))).turns
  | .forEngine engine body, q => .none :: turnsOf body { q with engineScope := some engine }
  | .child, _ => [.begin]
  | _, _ => [.none]

/-- What a list of steps comes to on the modifiers. -/
def turnsOf : List Step → Query → List Turn
  | [], _ => []
  | s :: ss, q => s.turns q ++ turnsOf ss (s.run q)

end

/-- What a step comes to on the modifiers of a join. -/
def JoinStep.turns : JoinStep → JoinBuilder → List Turn
  | .condition call, b => (buildCall call (ConditionBuilder.childQuery b)).turns
  | .on _ _ _, _ => [.condition .filter]
  | _, _ => [.none]

/-- What a list of steps comes to on the modifiers of a join. -/
def joinTurnsOf : List JoinStep → JoinBuilder → List Turn
  | [], _ => []
  | s :: ss, b => s.turns b ++ joinTurnsOf ss (s.run b)

/-! ### Modified steps -/

/-- The methods for conditions that join with OR or negate are modified steps of a query. -/
theorem ConditionCall.map_modified (or not : Bool) (call : ConditionCall Nested) :
    (call.modified or not).map Step.condition = (Step.condition call).modified or not := by
  cases or <;> cases not <;> rfl

/-- The methods for conditions that join with OR or negate are modified steps on a join. -/
theorem ConditionCall.map_modified_join (or not : Bool) (call : ConditionCall Nested) :
    (call.modified or not).map JoinStep.condition = (JoinStep.condition call).modified or not := by
  cases or <;> cases not <;> rfl

/-- The modifiers of a modified step come before what the plain step comes to. -/
theorem Step.turnsOf_modified (or not : Bool) (s : Step) (q : Query)
    (hengine : ∀ engine body, s ≠ .forEngine engine body) :
    turnsOf (s.modified or not) q =
      (if or then [.or] else []) ++ (if not then [.not] else []) ++ s.turns q := by
  have hkept (p : Pending) : s.turns { q with pending := p } = s.turns q := by
    cases s with
    | forEngine engine body => exact absurd rfl (hengine engine body)
    | condition _ | joinTable _ _ _ | joinQuery _ _ _ =>
      simp only [Step.turns]
      rfl
    | _ => simp only [Step.turns]
  have hgiven (q : Query) : turnsOf [.condition .or, s] q = .or :: s.turns q.or ∧
      turnsOf [.condition .not, s] q = .not :: s.turns q.not := by
    simp only [turnsOf, List.append_nil]
    exact ⟨rfl, rfl⟩
  cases or <;> cases not
  · simp only [modified]
    exact List.append_nil _
  · exact (hgiven q).2.trans (congrArg _ (hkept _))
  · exact (hgiven q).1.trans (congrArg _ (hkept _))
  · have hboth : turnsOf [.condition .or, .condition .not, s] q =
        .or :: turnsOf [.condition .not, s] q.or := by
      rw [turnsOf]
      rfl
    exact hboth.trans (congrArg _ ((hgiven q.or).2.trans (congrArg _ (hkept _))))

/-- The modifiers of a modified step on a join come before what the plain step comes to. -/
theorem JoinStep.turnsOf_modified (or not : Bool) (s : JoinStep) (b : JoinBuilder) :
    joinTurnsOf (s.modified or not) b =
      (if or then [.or] else []) ++ (if not then [.not] else []) ++ s.turns b := by
  have hkept (p : Pending) : s.turns { b with pending := p } = s.turns b := by
    cases s <;> rfl
  cases or <;> cases not
  · exact List.append_nil _
  · exact congrArg _ ((List.append_nil _).trans (hkept _))
  · exact congrArg _ ((List.append_nil _).trans (hkept _))
  · exact congrArg (fun turns => .or :: .not :: turns) ((List.append_nil _).trans (hkept _))

/-! ### What is pending -/

namespace QueryOver

variable {σ : Type} (q : QueryOver σ)

theorem pending_replaceComponent (c : Component) (k : ClauseKind σ) :
    (q.replaceComponent c k).pending = q.pending := by
  unfold replaceComponent
  split
  · rfl
  · split <;> rfl

theorem pending_foldl_addComponent {α : Type} (c : Component) (content : α → ClauseKind σ)
    (as : List α) :
    (as.foldl (fun q a => q.addComponent c (content a)) q).pending = q.pending := by
  induction as generalizing q with
  | nil => rfl
  | cons a as ih => rw [List.foldl_cons, ih, pending_addComponent]

theorem pending_forPage (page perPage : UInt64) : (q.forPage page perPage).pending = q.pending := by
  unfold forPage
  dsimp only
  split
  · rw [limit, pending_replaceComponent, offset, pending_replaceComponent]
  · rfl

theorem pending_combineRaw (f : Fragment) : (q.combineRaw f).pending = q.pending := by
  unfold combineRaw
  split
  · exact pending_addComponent ..
  · rfl

theorem pending_withValues (aliasName : String) (columns : List String)
    (rows : List (List Value)) : (q.withValues aliasName columns rows).pending = q.pending := by
  unfold withValues
  split
  · rfl
  · split
    · rfl
    · exact pending_addComponent ..

theorem pending_asInsert (columns : List String) (rows : List (List Value)) :
    (q.asInsert columns rows).pending = q.pending := by
  unfold asInsert
  split
  · rfl
  · split
    · rfl
    · exact pending_foldl_addComponent ..

theorem pending_asInsertRow (pairs : List (String × Value)) (returnId : Bool) :
    (q.asInsertRow pairs returnId).pending = q.pending := by
  unfold asInsertRow
  split
  · rfl
  · exact pending_addComponent ..

theorem pending_asUpdate (columns : List String) (values : List Value) :
    (q.asUpdate columns values).pending = q.pending := by
  unfold asUpdate
  split
  · rfl
  · split
    · rfl
    · exact pending_replaceComponent ..

theorem pending_createTable (columns : List TableColumn) :
    (q.createTable columns).pending = q.pending := by
  unfold createTable
  split
  · rfl
  · exact pending_foldl_addComponent ..

end QueryOver

namespace Query

variable (q : Query)

theorem pending_combine (operation : SetOp) (all : Bool) (other : Query) :
    (q.combine operation all other).pending = q.pending := by
  unfold combine
  split
  · exact QueryOver.pending_addComponent ..
  · rfl

theorem pending_withQuery (sub : Query) : (q.withQuery sub).pending = q.pending := by
  unfold withQuery
  split
  · rfl
  · exact QueryOver.pending_addComponent ..

theorem pending_pushJoin (b : JoinBuilder) :
    (q.pushJoin b).pending = b.turns.foldl Turn.after q.pending := by
  unfold pushJoin JoinBuilder.turns
  cases b.error with
  | some e => rfl
  | none => exact QueryOver.pending_addComponent ..

end Query

mutual

/-- **Step.**  A step changes what is pending as its turns say. -/
theorem Step.pending_run : ∀ (s : Step) (q : Query),
    (s.run q).pending = (s.turns q).foldl Turn.after q.pending
  | .condition call, q => by
    simp only [Step.run, Step.turns]
    exact ConditionCall.pending_apply q _
  | .having _ _ _, q | .havingRaw _, q | .havingBetween _ _ _, q | .havingIn _ _, q => by
    simp only [Step.run, Step.turns]
    exact QueryOver.pending_addComponent ..
  | .joinTable _ _ _, q | .joinQuery _ _ _, q => by
    simp only [Step.run, Step.turns]
    exact q.pending_pushJoin _
  | .forEngine engine body, q => by
    simp only [Step.run, Step.turns]
    exact runAll_pending body { q with engineScope := some engine }
  | .named _, _ | .define _ _, _ | .child, _ | .clearComponent _, _ | .pushClause _, _
  | .removeClauses _ _, _ | .setMethod _, _ | .distinctRows, _ | .asDelete, _ | .dropTable, _
  | .truncateTable, _ => by
    simp only [Step.run, Step.turns]
    rfl
  | .fromTable _, _ | .fromQuery _, _ | .fromRaw _, _ | .replaceComponent _ _, _ | .limit _, _
  | .offset _, _ | .lock _, _ | .asIncrement _ _, _ | .asDecrement _ _, _ | .createTableAs _, _
  | .temporary, _ | .onCommitPreserveRows _, _ => by
    simp only [Step.run, Step.turns]
    exact QueryOver.pending_replaceComponent ..
  | .addComponent _ _, _ | .selectRaw _, _ | .selectQuery _ _, _ | .selectAggregate _ _, _
  | .selectAggregateWhere _ _ _, _ | .asAggregate _ _, _ | .asCount _, _ | .groupByRaw _, _
  | .orderBy _ _, _ | .orderByRaw _, _ | .orderByRandom _, _ | .withRaw _ _, _
  | .asInsertQuery _ _, _ => by
    simp only [Step.run, Step.turns]
    exact QueryOver.pending_addComponent ..
  | .select _, _ | .groupBy _, _ => by
    simp only [Step.run, Step.turns]
    exact QueryOver.pending_foldl_addComponent ..
  | .forPage _ _, q => by
    simp only [Step.run, Step.turns]
    exact q.pending_forPage _ _
  | .combine _ _ _, q => by
    simp only [Step.run, Step.turns]
    exact q.pending_combine _ _ _
  | .combineRaw _, q => by
    simp only [Step.run, Step.turns]
    exact q.pending_combineRaw _
  | .withQuery _, q => by
    simp only [Step.run, Step.turns]
    exact q.pending_withQuery _
  | .withValues _ _ _, q => by
    simp only [Step.run, Step.turns]
    exact q.pending_withValues _ _ _
  | .asInsert _ _, q => by
    simp only [Step.run, Step.turns]
    exact q.pending_asInsert _ _
  | .asInsertRow _ _, q => by
    simp only [Step.run, Step.turns]
    exact q.pending_asInsertRow _ _
  | .asUpdate _ _, q => by
    simp only [Step.run, Step.turns]
    exact q.pending_asUpdate _ _
  | .createTable _, q => by
    simp only [Step.run, Step.turns]
    exact q.pending_createTable _

/-- **Run.**  What is pending after a list of steps is what their turns leave, one after another. -/
theorem runAll_pending : ∀ (ss : List Step) (q : Query),
    (runAll ss q).pending = (turnsOf ss q).foldl Turn.after q.pending
  | [], q => by
    simp only [runAll, turnsOf]
    rfl
  | s :: ss, q => by
    simp only [runAll, turnsOf]
    rw [runAll_pending ss (s.run q), Step.pending_run s q, List.foldl_append]

end

namespace JoinBuilder

theorem pending_target (b : JoinBuilder) (s : Source Subquery) :
    (b.target s).pending = b.pending := by
  unfold target
  split <;> rfl

end JoinBuilder

/-- **Step.**  A step changes what is pending on a join as its turns say. -/
theorem JoinStep.pending_run (s : JoinStep) (b : JoinBuilder) :
    (s.run b).pending = (s.turns b).foldl Turn.after b.pending := by
  cases s with
  | condition call =>
    simp only [run, turns]
    exact ConditionCall.pending_apply b _
  | table _ | query _ =>
    simp only [run, turns]
    exact JoinBuilder.pending_target ..
  | kind _ | on _ _ _ | useIndex _ | pushClause _ =>
    simp only [run, turns]
    rfl

/-- **Run.**  What is pending on a join after a list of steps is what their turns leave, one after
another. -/
theorem runJoin_pending (ss : List JoinStep) (b : JoinBuilder) :
    (runJoin ss b).pending = (joinTurnsOf ss b).foldl Turn.after b.pending := by
  induction ss generalizing b with
  | nil =>
    simp only [runJoin, joinTurnsOf]
    rfl
  | cons s ss ih =>
    simp only [runJoin, joinTurnsOf]
    rw [ih, s.pending_run, List.foldl_append]

/-! ### The last condition -/

section Last

variable {turns : List Turn} {component : Component}

theorem ConditionCall.turns_ne_nil (call : ConditionCall Query) : call.turns ≠ [] := by
  unfold turns
  split
  · exact List.cons_ne_nil _ _
  · exact List.cons_ne_nil _ _
  · split
    · exact List.append_ne_nil_of_right_ne_nil _ (List.cons_ne_nil _ _)
    · exact List.cons_ne_nil _ _

theorem Step.turns_ne_nil (s : Step) (q : Query) : s.turns q ≠ [] := by
  cases s with
  | condition call =>
    simp only [turns]
    exact ConditionCall.turns_ne_nil _
  | joinTable _ _ _ | joinQuery _ _ _ =>
    simp only [turns, JoinBuilder.turns]
    split <;> exact List.cons_ne_nil _ _
  | _ =>
    simp only [turns]
    exact List.cons_ne_nil _ _

theorem JoinStep.turns_ne_nil (s : JoinStep) (b : JoinBuilder) : s.turns b ≠ [] := by
  cases s with
  | condition call => exact ConditionCall.turns_ne_nil _
  | _ => exact List.cons_ne_nil _ _

/-- The last of some turns is in their second part, unless that is empty. -/
theorem Turn.append_eq_concat {turn : Turn} {first second : List Turn}
    (h : first ++ second = turns ++ [turn]) (hsecond : second ≠ []) :
    ∃ rest, second = rest ++ [turn] ∧ turns = first ++ rest := by
  obtain ⟨rest, last, rfl⟩ := (List.eq_nil_or_concat second).resolve_left hsecond
  rw [List.concat_eq_append] at h ⊢
  rw [← List.append_assoc] at h
  obtain ⟨hturns, hlast⟩ := List.append_inj' h rfl
  exact ⟨rest, by rw [hlast], hturns.symm⟩

/-- A single turn comes after no others. -/
theorem Turn.eq_of_singleton {turn last : Turn} (h : [turn] = turns ++ [last]) :
    turns = [] ∧ turn = last := by
  have h : [] ++ [turn] = turns ++ [last] := h
  obtain ⟨hturns, hlast⟩ := List.append_inj' h rfl
  exact ⟨hturns.symm, List.singleton_inj.mp hlast⟩

/-- A condition on groups that is added without an error is the last clause. -/
theorem QueryOver.endWith_pushCondition {q : Query} {c : Component} {k : ConditionKind Subquery}
    (h : (q.pushCondition c k).error = none) :
    Clauses.EndWith c q.pending (q.pushCondition c k).clauses := by
  have herror : q.resetPending.error = none := by
    rw [← h]
    exact (q.resetPending.error_addComponent c _).symm
  have hclauses : (q.pushCondition c k).clauses = q.clauses ++
      [⟨c, q.engineScope, .condition ⟨q.pending.or, q.pending.not, k⟩⟩] :=
    QueryOver.clauses_addComponent herror c _
  rw [hclauses]
  exact ⟨_, k, List.getLast?_concat⟩

mutual

/-- **Step.**  A step that leaves no error and ends with a condition leaves it as the last clause,
with the modifiers that were pending and those that the step itself gives before it. -/
theorem Step.endWith_run {turns : List Turn} {component : Component} : ∀ (s : Step) (q : Query),
    (s.run q).error = none → s.turns q = turns ++ [.condition component] →
    Clauses.EndWith component (turns.foldl Turn.after q.pending) (s.run q).clauses
  | .condition call, q => by
    simp only [Step.run, Step.turns]
    exact fun herror hturns => ConditionCall.clauses_apply q hturns herror
  | .having _ _ _, q | .havingRaw _, q | .havingBetween _ _ _, q | .havingIn _ _, q => by
    simp only [Step.run, Step.turns]
    intro herror hturns
    obtain ⟨rfl, hcomponent⟩ := Turn.eq_of_singleton hturns
    obtain rfl : Component.having = component := Turn.condition.inj hcomponent
    exact QueryOver.endWith_pushCondition herror
  | .forEngine engine body, q => by
    simp only [Step.run, Step.turns]
    intro herror hturns
    rw [← List.singleton_append] at hturns
    cases hbody : turnsOf body { q with engineScope := some engine } with
    | nil =>
      rw [hbody] at hturns
      exact nomatch (Turn.eq_of_singleton hturns).2
    | cons turn rest =>
      obtain ⟨turns', hinside, rfl⟩ :=
        Turn.append_eq_concat hturns (hbody ▸ List.cons_ne_nil _ _)
      rw [List.foldl_append]
      exact runAll_endWith body { q with engineScope := some engine } herror hinside
  | .joinTable _ _ _, q | .joinQuery _ _ _, q => by
    simp only [Step.turns, JoinBuilder.turns]
    intro _ hturns
    split at hturns <;> exact nomatch (Turn.eq_of_singleton hturns).2
  | .named _, _ | .define _ _, _ | .child, _ | .clearComponent _, _ | .pushClause _, _
  | .removeClauses _ _, _ | .setMethod _, _ | .distinctRows, _ | .asDelete, _ | .dropTable, _
  | .truncateTable, _ | .fromTable _, _ | .fromQuery _, _ | .fromRaw _, _
  | .replaceComponent _ _, _ | .limit _, _ | .offset _, _ | .lock _, _ | .asIncrement _ _, _
  | .asDecrement _ _, _ | .createTableAs _, _ | .temporary, _ | .onCommitPreserveRows _, _
  | .addComponent _ _, _ | .selectRaw _, _ | .selectQuery _ _, _ | .selectAggregate _ _, _
  | .selectAggregateWhere _ _ _, _ | .asAggregate _ _, _ | .asCount _, _ | .groupByRaw _, _
  | .orderBy _ _, _ | .orderByRaw _, _ | .orderByRandom _, _ | .withRaw _ _, _
  | .asInsertQuery _ _, _ | .select _, _ | .groupBy _, _ | .forPage _ _, _ | .combine _ _ _, _
  | .combineRaw _, _ | .withQuery _, _ | .withValues _ _ _, _ | .asInsert _ _, _
  | .asInsertRow _ _, _ | .asUpdate _ _, _ | .createTable _, _ => by
    simp only [Step.turns]
    exact fun _ hturns => nomatch (Turn.eq_of_singleton hturns).2

/-- **Run.**  The same of a list of steps: what was pending is what the turns before the last one
leave. -/
theorem runAll_endWith {turns : List Turn} {component : Component} : ∀ (ss : List Step) (q : Query),
    (runAll ss q).error = none → turnsOf ss q = turns ++ [.condition component] →
    Clauses.EndWith component (turns.foldl Turn.after q.pending) (runAll ss q).clauses
  | [], q => by
    simp only [turnsOf]
    exact fun _ hturns => absurd hturns.symm (List.append_ne_nil_of_right_ne_nil _ (by simp))
  | [s], q => by
    simp only [runAll, turnsOf, List.append_nil]
    exact Step.endWith_run s q
  | s :: s' :: ss, q => by
    intro herror hturns
    rw [turnsOf] at hturns
    have hrest : turnsOf (s' :: ss) (s.run q) ≠ [] := by
      rw [turnsOf]
      exact List.append_ne_nil_of_left_ne_nil (s'.turns_ne_nil _) _
    obtain ⟨turns', hlast, rfl⟩ := Turn.append_eq_concat hturns hrest
    rw [List.foldl_append, ← Step.pending_run]
    rw [runAll] at herror ⊢
    exact runAll_endWith (s' :: ss) (s.run q) herror hlast

end

/-- **Step.**  A step on a join that leaves no error and ends with a condition leaves it as the last
clause, with the modifiers that were pending and those that the step itself gives before it. -/
theorem JoinStep.endWith_run {s : JoinStep} {b : JoinBuilder} (herror : (s.run b).error = none)
    (hturns : s.turns b = turns ++ [.condition component]) :
    Clauses.EndWith component (turns.foldl Turn.after b.pending) (s.run b).join.clauses := by
  cases s with
  | condition call =>
    simp only [run, JoinStep.turns] at herror hturns ⊢
    exact ConditionCall.clauses_apply b hturns herror
  | on first o second =>
    obtain ⟨rfl, hcomponent⟩ := Turn.eq_of_singleton hturns
    obtain rfl : Component.filter = component := Turn.condition.inj hcomponent
    exact ⟨_, _, List.getLast?_concat⟩
  | _ => exact nomatch (Turn.eq_of_singleton hturns).2

/-- **Run.**  The same of a list of steps: what was pending is what the turns before the last one
leave. -/
theorem runJoin_endWith {ss : List JoinStep} {b : JoinBuilder}
    (herror : (runJoin ss b).error = none)
    (hturns : joinTurnsOf ss b = turns ++ [.condition component]) :
    Clauses.EndWith component (turns.foldl Turn.after b.pending) (runJoin ss b).join.clauses := by
  induction ss generalizing b turns with
  | nil => exact absurd hturns.symm (List.append_ne_nil_of_right_ne_nil _ (by simp))
  | cons s ss ih =>
    rw [joinTurnsOf] at hturns
    cases ss with
    | nil =>
      rw [joinTurnsOf, List.append_nil] at hturns
      exact JoinStep.endWith_run herror hturns
    | cons s' ss =>
      have hrest : joinTurnsOf (s' :: ss) (s.run b) ≠ [] :=
        List.append_ne_nil_of_left_ne_nil (s'.turns_ne_nil _) _
      obtain ⟨turns', hlast, rfl⟩ := Turn.append_eq_concat hturns hrest
      rw [List.foldl_append, ← JoinStep.pending_run]
      exact ih herror hlast

end Last

/-! ## The steps that use the modifiers up -/

/-- The steps that use up the modifiers of a query. -/
inductive Step.UsesUp (q : Query) : Step → Prop
  | condition {call : ConditionCall Nested} (h : (buildCall call q.child).UsesUp) :
      UsesUp q (.condition call)
  | having (column : String) (operator : Operator) (value : Value) :
      UsesUp q (.having column operator value)
  | havingRaw (f : Fragment) : UsesUp q (.havingRaw f)
  | havingBetween (column : String) (lower higher : Value) :
      UsesUp q (.havingBetween column lower higher)
  | havingIn (column : String) (values : List Value) : UsesUp q (.havingIn column values)
  /-- A join is added. -/
  | joinTable {kind : JoinKind} {table : String} {body : List JoinStep}
      (h : (runJoin body ((JoinBuilder.within q kind).table table)).error = none) :
      UsesUp q (.joinTable kind table body)
  /-- A join of a derived table is added. -/
  | joinQuery {kind : JoinKind} {sub : Nested} {body : List JoinStep}
      (h : (runJoin body ((JoinBuilder.within q kind).query (sub.build q.child))).error = none) :
      UsesUp q (.joinQuery kind sub body)

/-- The steps that use up the modifiers of a join. -/
inductive JoinStep.UsesUp (b : JoinBuilder) : JoinStep → Prop
  | condition {call : ConditionCall Nested}
      (h : (buildCall call (ConditionBuilder.childQuery b)).UsesUp) : UsesUp b (.condition call)
  | on (first : String) (operator : Operator) (second : String) :
      UsesUp b (.on first operator second)

/-- To do nothing is not to use the modifiers up. -/
theorem Turn.not_forall_none : ¬∀ p, [Turn.none].foldl Turn.after p = {} :=
  fun h => absurd (h { or := true }) (by decide)

theorem ConditionCall.usesUp_iff (call : ConditionCall Query) :
    (∀ p, call.turns.foldl Turn.after p = {}) ↔ call.UsesUp := by
  cases hdemand : call.demand? with
  | some demand =>
    refine iff_of_true (fun p => ?_) (.condition hdemand)
    rw [turns_of_demand hdemand, List.foldl_append]
    rfl
  | none =>
    by_cases hor : call = .or
    · subst hor
      exact iff_of_false (fun h => absurd (h {}) (by decide)) fun | .condition h => nomatch h
    by_cases hnot : call = .not
    · subst hnot
      exact iff_of_false (fun h => absurd (h {}) (by decide)) fun | .condition h => nomatch h
    refine iff_of_true (fun p => ?_) ?_
    · rw [turns_of_none hdemand hor hnot]
      rfl
    · cases call with
      | or => exact absurd rfl hor
      | not => exact absurd rfl hnot
      | resetPending => exact .resetPending
      | existsIn sub =>
        refine .refusedExists (Bool.eq_false_iff.mpr fun hsource => ?_)
        simp [demand?, hsource] at hdemand
      | group sub =>
        refine .emptyGroup (Bool.eq_false_iff.mpr fun hfilter => ?_)
        simp [demand?, hfilter] at hdemand
      | _ => exact absurd hdemand (Option.some_ne_none _)

theorem JoinBuilder.turns_clear_iff (b : JoinBuilder) :
    (∀ p, b.turns.foldl Turn.after p = {}) ↔ b.error = none := by
  unfold turns
  cases b.error with
  | none => exact iff_of_true (fun _ => rfl) rfl
  | some e => exact iff_of_false Turn.not_forall_none nofun

/-- Nothing is pending after a step, whatever was before, if and only if the step uses it up. -/
theorem Step.usesUp_iff (s : Step) (q : Query) (hengine : ∀ engine body, s ≠ .forEngine engine body)
    (hchild : s ≠ .child) :
    (∀ p, (s.run { q with pending := p }).pending = {}) ↔ s.UsesUp q := by
  simp only [Step.pending_run]
  cases s with
  | forEngine engine body => exact absurd rfl (hengine engine body)
  | child => exact absurd rfl hchild
  | condition call =>
    simp only [turns]
    exact (ConditionCall.usesUp_iff _).trans ⟨UsesUp.condition, fun | .condition h => h⟩
  | having c o v =>
    simp only [turns]
    exact iff_of_true (fun _ => rfl) (.having c o v)
  | havingRaw f =>
    simp only [turns]
    exact iff_of_true (fun _ => rfl) (.havingRaw f)
  | havingBetween c l h =>
    simp only [turns]
    exact iff_of_true (fun _ => rfl) (.havingBetween c l h)
  | havingIn c vs =>
    simp only [turns]
    exact iff_of_true (fun _ => rfl) (.havingIn c vs)
  | joinTable _ _ _ =>
    simp only [turns]
    exact (JoinBuilder.turns_clear_iff _).trans ⟨UsesUp.joinTable, fun | .joinTable h => h⟩
  | joinQuery _ _ _ =>
    simp only [turns]
    exact (JoinBuilder.turns_clear_iff _).trans ⟨UsesUp.joinQuery, fun | .joinQuery h => h⟩
  | _ =>
    simp only [turns]
    exact iff_of_false Turn.not_forall_none nofun

/-- Nothing is pending on a join after a step, whatever was before, if and only if the step uses it
up. -/
theorem JoinStep.usesUp_iff (s : JoinStep) (b : JoinBuilder) :
    (∀ p, (s.run { b with pending := p }).pending = {}) ↔ s.UsesUp b := by
  simp only [JoinStep.pending_run]
  cases s with
  | condition call =>
    exact (ConditionCall.usesUp_iff _).trans ⟨UsesUp.condition, fun | .condition h => h⟩
  | on first o second => exact iff_of_true (fun _ => rfl) (.on first o second)
  | _ => exact iff_of_false Turn.not_forall_none nofun

/-! ## Groups -/

/-- What a group comes to: a condition with the modifiers, or nothing if it holds no conditions. -/
def groupClauses (engine : Option Dialect) (p : Pending) (inner : Query) :
    List (Clause Subquery) :=
  if inner.hasComponent .filter none then
    [⟨.filter, engine, .condition ⟨p.or, p.not, .group ⟨inner⟩⟩⟩]
  else []

theorem Conditions.inheritError_of_none {β : Type} [ConditionBuilder β] {sub : Query} (b : β)
    (h : sub.error = none) : Conditions.inheritError sub b = b := by
  rw [Conditions.inheritError, h]

/-- A group changes the clauses of its query and uses the modifiers up. -/
theorem Step.run_group {sub : Nested} {q : Query} (herror : q.error = none)
    (hinner : (sub.build q.child).error = none) :
    (Step.condition (.group sub)).run q =
      { q with
        clauses := q.clauses ++ groupClauses q.engineScope q.pending (sub.build q.child)
        pending := {} } := by
  simp only [Step.run, buildCall, ConditionCall.apply, Conditions.group, groupClauses]
  rw [Conditions.inheritError_of_none q hinner]
  split
  · change q.resetPending.addComponent _ _ = _
    have hsound : ¬q.resetPending.error.isSome = true := by simp [QueryOver.resetPending, herror]
    rw [QueryOver.addComponent, if_neg hsound]
    rfl
  · rw [List.append_nil]
    rfl

/-- A group changes the clauses of its join and uses the modifiers up. -/
theorem JoinStep.run_group {sub : Nested} {b : JoinBuilder}
    (hinner : (sub.build (ConditionBuilder.childQuery b)).error = none) :
    (JoinStep.condition (.group sub)).run b =
      { b with
        join := { b.join with
          clauses := b.join.clauses ++
            groupClauses b.engineScope b.pending (sub.build (ConditionBuilder.childQuery b)) }
        pending := {} } := by
  simp only [JoinStep.run, buildCall, ConditionCall.apply, Conditions.group, groupClauses]
  rw [Conditions.inheritError_of_none b hinner]
  split
  · rfl
  · rw [List.append_nil]
    obtain ⟨⟨kind, clauses, index, state⟩, scope, engine, p, e⟩ := b
    rfl

/-! ## The theorem -/

/-- **Modifiers.**  If a query or a join is built without an error and its steps end with a
condition, then that is its last clause: it is joined with OR if an `or` was given since the
modifiers were last used up, and negated if a `not` was given an odd number of times.  A method that
joins with OR or negates gives its modifiers right before its condition.  The modifiers are used up
by the steps of `Step.UsesUp` and `JoinStep.UsesUp` and by no others.  A group begins with none,
whatever is pending around it, and nothing of it but its conditions gets out. -/
theorem modifiers_taken_up :
    (∀ (ss : List Step) (q : Query) turns component, q.pending = {} → (runAll ss q).error = none →
      turnsOf ss q = turns ++ [.condition component] →
      Clauses.TakeUp component turns (runAll ss q).clauses ∧ (runAll ss q).pending = {}) ∧
    (∀ (ss : List JoinStep) (b : JoinBuilder) turns component, b.pending = {} →
      (runJoin ss b).error = none → joinTurnsOf ss b = turns ++ [.condition component] →
      Clauses.TakeUp component turns (runJoin ss b).join.clauses ∧
        (runJoin ss b).pending = {}) ∧
    (∀ or not (s : Step) (q : Query), (∀ engine body, s ≠ .forEngine engine body) →
      turnsOf (s.modified or not) q =
        (if or then [.or] else []) ++ (if not then [.not] else []) ++ s.turns q) ∧
    (∀ or not (s : JoinStep) (b : JoinBuilder), joinTurnsOf (s.modified or not) b =
      (if or then [.or] else []) ++ (if not then [.not] else []) ++ s.turns b) ∧
    (∀ or not (call : ConditionCall Nested),
      (call.modified or not).map Step.condition = (Step.condition call).modified or not ∧
        (call.modified or not).map JoinStep.condition =
          (JoinStep.condition call).modified or not) ∧
    (∀ (s : Step) (q : Query), (∀ engine body, s ≠ .forEngine engine body) → s ≠ .child →
      ((∀ p, (s.run { q with pending := p }).pending = {}) ↔ s.UsesUp q)) ∧
    (∀ (s : JoinStep) (b : JoinBuilder),
      (∀ p, (s.run { b with pending := p }).pending = {}) ↔ s.UsesUp b) ∧
    (∀ (sub : Nested) (q : Query) (p : Pending), let inner := sub.build q.child
      sub.build { q with pending := p }.child = inner ∧ q.child.pending = {} ∧
      (q.error = none → inner.error = none → (Step.condition (.group sub)).run q =
        { q with
          clauses := q.clauses ++ groupClauses q.engineScope q.pending inner
          pending := {} })) ∧
    (∀ (sub : Nested) (b : JoinBuilder) (p : Pending),
      let inner := sub.build (ConditionBuilder.childQuery b)
      sub.build (ConditionBuilder.childQuery { b with pending := p }) = inner ∧
      (ConditionBuilder.childQuery b).pending = {} ∧
      (inner.error = none → (JoinStep.condition (.group sub)).run b =
        { b with
          join := { b.join with
            clauses := b.join.clauses ++ groupClauses b.engineScope b.pending inner }
          pending := {} })) := by
  refine ⟨?queries, ?joins, fun or not s q => s.turnsOf_modified or not q,
    fun or not s b => s.turnsOf_modified or not b,
    fun or not call => ⟨call.map_modified or not, call.map_modified_join or not⟩,
    fun s q => s.usesUp_iff q, fun s b => s.usesUp_iff b, fun _ _ _ => ⟨rfl, rfl, Step.run_group⟩,
    fun _ _ _ => ⟨rfl, rfl, JoinStep.run_group⟩⟩
  case queries =>
    intro ss q turns component hpending herror hturns
    refine ⟨Clauses.EndWith.takeUp (hpending ▸ runAll_endWith ss q herror hturns), ?_⟩
    rw [runAll_pending, hturns, List.foldl_append]
    rfl
  case joins =>
    intro ss b turns component hpending herror hturns
    refine ⟨Clauses.EndWith.takeUp (hpending ▸ runJoin_endWith herror hturns), ?_⟩
    rw [runJoin_pending, hturns, List.foldl_append]
    rfl

/-- An `or`, a `not` and a comparison with null by `<>` on a query, and a `not` in the constraint of
a join; and a method that gives both modifiers. -/
theorem modifiers_taken_up_twice :
    let ss : List Step :=
      [.fromTable "t", .condition .or,
        .forEngine .mySql [.condition .not, .condition (.filter "b" .ne .null)]]
    let b : JoinBuilder := { join := { kind := .inner, clauses := [], index := none } }
    let js : List JoinStep := [.condition .not, .on "a" .eq "b"]
    Clauses.TakeUp .filter [.none, .or, .none, .not, .not] (runAll ss {}).clauses ∧
      Clauses.TakeUp .filter [.not] (runJoin js b).join.clauses ∧
      (Step.condition (.group (.fresh []))).run {} = ({} : Query) ∧
      (JoinStep.condition (.group (.fresh []))).run b = b ∧
      turnsOf ((Step.having "a" .eq .null).modified true true) {} =
        [.or, .not, .condition .having] ∧
      turnsOf ((ConditionCall.orWhereNotNull "a").map .condition) {} =
        [.or, .not, .condition .filter] ∧
      ¬∀ p, ((Step.fromTable "t").run { pending := p }).pending = {} := by
  intro ss b js
  obtain ⟨hqueries, hjoins, hmodified, -, hmethods, hsteps, -, hgroups, hjoinGroups⟩ :=
    modifiers_taken_up
  refine ⟨(hqueries ss {} _ _ rfl (by decide) (by decide)).1,
    (hjoins js b _ _ rfl (by decide) (by decide)).1, ?_, ?_,
    hmodified true true (.having "a" .eq .null) {} nofun, ?_, ?_⟩
  · exact (hgroups (.fresh []) {} {}).2.2 (by decide) (by decide)
  · exact (hjoinGroups (.fresh []) b {}).2.2 (by decide)
  · rw [ConditionCall.orWhereNotNull, (hmethods true true (.null "a")).1]
    exact hmodified true true (.condition (.null "a")) {} nofun
  · rw [hsteps (.fromTable "t") {} nofun nofun]
    nofun

end SqlBuilder
