import Mathlib.Algebra.Ring.Parity
import Mathlib.Data.List.Induction
import SqlBuilder.Proofs.Query.Actions

/-!
# Turns of the modifiers

An `or` or a `not` waits on a query, or on a join, for the next condition.  What happens to the
modifiers is a list of turns: a modifier is given, a condition takes up what is there, or it is
dropped.  The modifiers that are pending are those that were given since they were last used up
(`Turn.foldl_after`).

Queries and joins take conditions by the same calls.  `ConditionState` is what the calls see and
change of either, so that each of them is looked at once: a call changes what is pending as its
turns say (`ConditionCall.pending_apply`), and if it ends with a condition, it leaves that as the
last clause (`ConditionCall.clauses_apply`).  A comparison with null or with a truth value is a `not`
before the test that takes its place, unless it compares by `=`.
-/

namespace SqlBuilder

/-! ## Turns -/

/-- What happens to the modifiers. -/
inductive Turn where
  /-- The next condition is to be joined with OR. -/
  | or
  /-- The next condition is to be negated, once more. -/
  | not
  /-- A condition of the component takes the modifiers up. -/
  | condition (component : Component)
  /-- The modifiers are dropped. -/
  | drop
  /-- Another query is begun. -/
  | begin
  /-- Nothing. -/
  | none
deriving DecidableEq

namespace Turn

/-- Is nothing pending after the turn, whatever was before? -/
def clears : Turn → Bool
  | condition _ | drop | begin => true
  | or | not | none => false

/-- What is pending after a turn. -/
def after (p : Pending) : Turn → Pending
  | or => { p with or := true }
  | not => { p with not := !p.not }
  | none => p
  | condition _ | drop | begin => {}

/-- The turns since nothing was pending, the latest first. -/
def sinceCleared (turns : List Turn) : List Turn :=
  turns.reverse.takeWhile fun turn => !turn.clears

theorem sinceCleared_concat (turns : List Turn) (turn : Turn) :
    sinceCleared (turns ++ [turn]) =
      if turn.clears then [] else turn :: sinceCleared turns := by
  unfold sinceCleared
  rw [List.reverse_append, List.reverse_singleton, List.singleton_append, List.takeWhile_cons]
  cases turn.clears <;> rfl

/-- **What is pending** after some turns has been given since nothing was pending: an `or` at all,
and a `not` an odd number of times. -/
theorem foldl_after (turns : List Turn) :
    ((turns.foldl after {}).or = true ↔ Turn.or ∈ sinceCleared turns) ∧
      ((turns.foldl after {}).not = true ↔ Odd ((sinceCleared turns).count .not)) := by
  induction turns using List.reverseRecOn with
  | nil => simp [sinceCleared]
  | append_singleton turns turn ih =>
    obtain ⟨hor, hnot⟩ := ih
    rw [List.foldl_append, List.foldl_cons, List.foldl_nil, sinceCleared_concat]
    cases turn with
    | or => simpa [after, clears] using hnot
    | not => simp [after, clears, hor, Nat.odd_add_one, ← hnot]
    | none => simpa [after, clears] using ⟨hor, hnot⟩
    | condition component | drop | begin => simp [after, clears]

end Turn

namespace Clauses

variable {component : Component} {cs : List (Clause Subquery)}

/-- The last clause is a condition of the component with the modifiers. -/
def EndWith (component : Component) (p : Pending) (cs : List (Clause Subquery)) : Prop :=
  ∃ engine kind, cs.getLast? = some ⟨component, engine, .condition ⟨p.or, p.not, kind⟩⟩

/-- The last clause is a condition of the component.  It is joined with OR if an `or` was among the
turns since nothing was pending, and negated if a `not` was among them an odd number of times. -/
def TakeUp (component : Component) (turns : List Turn) (cs : List (Clause Subquery)) : Prop :=
  ∃ engine condition, cs.getLast? = some ⟨component, engine, .condition condition⟩ ∧
    (condition.isOr = true ↔ Turn.or ∈ Turn.sinceCleared turns) ∧
    (condition.isNot = true ↔ Odd ((Turn.sinceCleared turns).count .not))

theorem EndWith.takeUp {turns : List Turn} (h : EndWith component (turns.foldl Turn.after {}) cs) :
    TakeUp component turns cs := by
  obtain ⟨engine, kind, hlast⟩ := h
  exact ⟨engine, _, hlast, Turn.foldl_after turns⟩

end Clauses

/-! ## Calls -/

/-- What a call comes to on the modifiers. -/
def ConditionCall.turns : ConditionCall Query → List Turn
  | or => [.or]
  | not => [.not]
  | call =>
    match call.demand? with
    | some (negated, _) => (if negated then [.not] else []) ++ [.condition .filter]
    | none => [.drop]

/-- The calls that use up the modifiers. -/
inductive ConditionCall.UsesUp : ConditionCall Query → Prop
  /-- A condition is added. -/
  | condition {call : ConditionCall Query} {demand : Bool × ConditionKind Subquery}
      (h : call.demand? = some demand) : UsesUp call
  /-- A group without conditions is left out. -/
  | emptyGroup {sub : Query} (h : sub.hasComponent .filter none = false) : UsesUp (.group sub)
  /-- A test for rows of a query without a source is refused. -/
  | refusedExists {sub : Query} (h : sub.hasComponent .source none = false) :
    UsesUp (.existsIn sub)
  | resetPending : UsesUp .resetPending

theorem ConditionCall.turns_of_demand {call : ConditionCall Query} {negated : Bool}
    {k : ConditionKind Subquery} (h : call.demand? = some (negated, k)) :
    call.turns = (if negated then [.not] else []) ++ [.condition .filter] := by
  unfold turns
  split
  · nomatch h
  · nomatch h
  · rw [h]

theorem ConditionCall.turns_of_none {call : ConditionCall Query} (h : call.demand? = none)
    (hor : call ≠ .or) (hnot : call ≠ .not) : call.turns = [.drop] := by
  unfold turns
  split
  · exact absurd rfl hor
  · exact absurd rfl hnot
  · rw [h]

/-- What the calls see of a query or of a join. -/
structure ConditionState where
  clauses : List (Clause Subquery)
  engineScope : Option Dialect
  pending : Pending
  error : Option Error

/-- Conditions are added to queries and to joins in the same way, as long as there is no error. -/
class ConditionHolder (β : Type) [ConditionBuilder β] where
  state : β → ConditionState
  state_or (b : β) :
    state (ConditionBuilder.or b) = { state b with pending := Turn.after (state b).pending .or }
  state_not (b : β) :
    state (ConditionBuilder.not b) = { state b with pending := Turn.after (state b).pending .not }
  state_resetPending (b : β) :
    state (ConditionBuilder.resetPending b) = { state b with pending := {} }
  state_recordError (e : Error) (b : β) :
    state (ConditionBuilder.recordError e b) = { state b with error := (state b).error <|> some e }
  pending_addCondition (k : ConditionKind Subquery) (b : β) :
    (state (ConditionBuilder.addCondition k b)).pending = {}
  error_addCondition (k : ConditionKind Subquery) (b : β) :
    (state (ConditionBuilder.addCondition k b)).error = (state b).error
  clauses_addCondition (k : ConditionKind Subquery) (b : β) (h : (state b).error = none) :
    (state (ConditionBuilder.addCondition k b)).clauses = (state b).clauses ++
      [⟨.filter, (state b).engineScope,
        .condition ⟨(state b).pending.or, (state b).pending.not, k⟩⟩]

theorem QueryOver.pending_addComponent {σ : Type} (q : QueryOver σ) (c : Component)
    (k : ClauseKind σ) : (q.addComponent c k).pending = q.pending := by
  unfold addComponent
  split <;> rfl

theorem QueryOver.error_addComponent {σ : Type} (q : QueryOver σ) (c : Component)
    (k : ClauseKind σ) : (q.addComponent c k).error = q.error := by
  unfold addComponent
  split <;> rfl

theorem QueryOver.clauses_addComponent {σ : Type} {q : QueryOver σ} (h : q.error = none)
    (c : Component) (k : ClauseKind σ) :
    (q.addComponent c k).clauses = q.clauses ++ [⟨c, q.engineScope, k⟩] := by
  simp [addComponent, h]

instance : ConditionHolder Query where
  state q := ⟨q.clauses, q.engineScope, q.pending, q.error⟩
  state_or _ := rfl
  state_not _ := rfl
  state_resetPending _ := rfl
  state_recordError _ _ := rfl
  pending_addCondition _ q := q.resetPending.pending_addComponent _ _
  error_addCondition _ q := q.resetPending.error_addComponent _ _
  clauses_addCondition _ q h := QueryOver.clauses_addComponent (q := q.resetPending) h _ _

instance : ConditionHolder JoinBuilder where
  state b := ⟨b.join.clauses, b.engineScope, b.pending, b.error⟩
  state_or _ := rfl
  state_not _ := rfl
  state_resetPending _ := rfl
  state_recordError _ _ := rfl
  pending_addCondition _ _ := rfl
  error_addCondition _ _ := rfl
  clauses_addCondition _ _ _ := rfl

namespace ConditionCall

open ConditionHolder

section Apply

variable {β : Type} [ConditionBuilder β] [ConditionHolder β] {call : ConditionCall Query} (b : β)

theorem state_inheritError (sub : Query) :
    state (Conditions.inheritError sub b) =
      { state b with error := (state b).error <|> sub.error } := by
  unfold Conditions.inheritError
  cases sub.error with
  | none => simp
  | some e => exact state_recordError e b

/-- A call that adds a condition hands on an error and then adds it, after a `not` if the call
negates it. -/
theorem apply_of_demand {negated : Bool} {k : ConditionKind Subquery}
    (h : call.demand? = some (negated, k)) :
    ∃ b' : β, call.apply b =
        ConditionBuilder.addCondition k (if negated then Conditions.not b' else b') ∧
      state b' = { state b with error := (state b).error <|> call.fault? } := by
  have hquery (sub : Query) : state (Conditions.inheritError sub b) =
      { state b with error := (state b).error <|> sub.error } := state_inheritError b sub
  have hplain : state b = { state b with error := (state b).error <|> none } := by simp
  cases call with
  | or | not | resetPending => exact nomatch h
  | filter c o v =>
    refine ⟨b, ?_, hplain⟩
    have htest : (if o = .eq then b else Conditions.not b) =
        if (o != .eq) = true then Conditions.not b else b := by
      by_cases ho : o = .eq <;> simp [ho]
    simp only [demand?, Option.some.injEq] at h
    unfold comparisonTest at h
    change Conditions.filter c o v b = _
    unfold Conditions.filter
    cases v with
    | null =>
      obtain ⟨rfl, rfl⟩ := Prod.mk.inj h
      exact congrArg (ConditionBuilder.addCondition _) htest
    | bool t =>
      dsimp only at h ⊢
      split at h
      · obtain ⟨rfl, rfl⟩ := Prod.mk.inj h
        rw [if_pos (by assumption)]
        exact congrArg (ConditionBuilder.addCondition _) htest
      · obtain ⟨rfl, rfl⟩ := Prod.mk.inj h
        rw [if_neg (by assumption)]
        rfl
    | _ =>
      obtain ⟨rfl, rfl⟩ := Prod.mk.inj h
      rfl
  | inQuery _ sub | queryCompare sub _ _ | columnQuery _ _ sub =>
    obtain ⟨rfl, rfl⟩ := Prod.mk.inj (Option.some.inj h)
    exact ⟨Conditions.inheritError sub b, rfl, hquery sub⟩
  | existsIn sub =>
    by_cases hsource : sub.hasComponent .source none = true
    · simp only [demand?, if_pos hsource] at h
      obtain ⟨rfl, rfl⟩ := Prod.mk.inj (Option.some.inj h)
      refine ⟨Conditions.inheritError sub b, if_pos hsource, ?_⟩
      rw [fault?, if_pos hsource, hquery sub]
    · simp [demand?, if_neg hsource] at h
  | group sub =>
    by_cases hfilter : sub.hasComponent .filter none = true
    · simp only [demand?, if_pos hfilter] at h
      obtain ⟨rfl, rfl⟩ := Prod.mk.inj (Option.some.inj h)
      exact ⟨Conditions.inheritError sub b, if_pos hfilter, hquery sub⟩
    · simp [demand?, if_neg hfilter] at h
  | columns _ _ _ | null _ | boolean _ _ | pattern _ _ _ _ _ | between _ _ _ | inList _ _
  | raw _ | datePart _ _ _ _ =>
    obtain ⟨rfl, rfl⟩ := Prod.mk.inj (Option.some.inj h)
    exact ⟨b, rfl, hplain⟩

/-- A call that adds no condition drops the modifiers, if it does not give one. -/
theorem state_apply_of_none (h : call.demand? = none) (hor : call ≠ .or) (hnot : call ≠ .not) :
    state (call.apply b) =
      { state b with pending := {}, error := (state b).error <|> call.fault? } := by
  cases call with
  | or => exact absurd rfl hor
  | not => exact absurd rfl hnot
  | resetPending =>
    have hfault : (resetPending : ConditionCall Query).fault? = none := rfl
    change state (ConditionBuilder.resetPending b) = _
    simp [state_resetPending, hfault]
  | existsIn sub =>
    by_cases hsource : sub.hasComponent .source none = true
    · simp [demand?, if_pos hsource] at h
    · have hrefused : (existsIn sub).apply b =
          ConditionBuilder.recordError .existsWithoutSource (ConditionBuilder.resetPending b) :=
        if_neg hsource
      rw [hrefused, state_recordError, state_resetPending, fault?, if_neg hsource]
  | group sub =>
    by_cases hfilter : sub.hasComponent .filter none = true
    · simp [demand?, if_pos hfilter] at h
    · have hempty : (group sub).apply b =
          ConditionBuilder.resetPending (Conditions.inheritError sub b) :=
        if_neg hfilter
      rw [hempty, state_resetPending, state_inheritError]
      rfl
  | _ => exact absurd h (Option.some_ne_none _)

/-- **Calls.**  A call changes what is pending as its turns say. -/
theorem pending_apply (call : ConditionCall Query) :
    (state (call.apply b)).pending = call.turns.foldl Turn.after (state b).pending := by
  cases hdemand : call.demand? with
  | some demand =>
    obtain ⟨negated, k⟩ := demand
    obtain ⟨b', happly, -⟩ := apply_of_demand b hdemand
    rw [happly, pending_addCondition, turns_of_demand hdemand, List.foldl_append]
    rfl
  | none =>
    by_cases hor : call = .or
    · subst hor
      exact congrArg ConditionState.pending (state_or b)
    by_cases hnot : call = .not
    · subst hnot
      exact congrArg ConditionState.pending (state_not b)
    rw [state_apply_of_none b hdemand hor hnot, turns_of_none hdemand hor hnot]
    rfl

/-- Only a call that adds a condition ends with one. -/
theorem demand?_of_turns {given : List Turn} {component : Component}
    (h : call.turns = given ++ [.condition component]) :
    component = .filter ∧ ∃ negated k, call.demand? = some (negated, k) ∧
      given = if negated then [.not] else [] := by
  cases hdemand : call.demand? with
  | some demand =>
    obtain ⟨negated, k⟩ := demand
    rw [turns_of_demand hdemand] at h
    obtain ⟨hgiven, hcomponent⟩ := List.append_inj' h rfl
    have hcomponent : Component.filter = component := by simpa using hcomponent
    exact ⟨hcomponent.symm, negated, k, rfl, hgiven.symm⟩
  | none =>
    have hlast := congrArg List.getLast? h
    rw [List.getLast?_concat] at hlast
    by_cases hor : call = .or
    · subst hor
      exact nomatch hlast
    by_cases hnot : call = .not
    · subst hnot
      exact nomatch hlast
    rw [turns_of_none hdemand hor hnot] at hlast
    exact nomatch hlast

/-- A call that leaves no error and ends with a condition leaves it as the last clause, with the
modifiers that were pending and those of the call itself. -/
theorem clauses_apply {given : List Turn} {component : Component}
    (hturns : call.turns = given ++ [.condition component])
    (herror : (state (call.apply b)).error = none) :
    Clauses.EndWith component (given.foldl Turn.after (state b).pending)
      (state (call.apply b)).clauses := by
  obtain ⟨rfl, negated, k, hdemand, rfl⟩ := demand?_of_turns hturns
  obtain ⟨b', happly, hstate⟩ := apply_of_demand b hdemand
  have hpending : (state (if negated then Conditions.not b' else b')).pending =
      (if negated then [Turn.not] else []).foldl Turn.after (state b).pending := by
    have hkept : (state b').pending = (state b).pending := congrArg (·.pending) hstate
    cases negated with
    | false => exact hkept
    | true =>
      rw [← hkept]
      exact congrArg (·.pending) (state_not b')
  rw [happly, error_addCondition] at herror
  rw [happly, clauses_addCondition k _ herror, hpending]
  exact ⟨_, k, List.getLast?_concat⟩

end Apply

end ConditionCall

end SqlBuilder
