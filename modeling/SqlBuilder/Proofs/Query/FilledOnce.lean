import SqlBuilder.Proofs.Query.Errors
import SqlBuilder.Proofs.Query.InForce

/-!
# Components that are filled once

Of a component that is filled once there is at most one clause for each engine
(`Clauses.Singular`), and a join has at most one target for each.  Every action of a fluent step
keeps this (`Draft.Sound.perform`): such a step puts clauses of these components in their place or
empties the component first, and never adds one to others.  Hence no fluent step ever fails because
it is not clear which clause it should replace, and what a query says is what was set last
(`Draft.slot_performAll`).

Fluent steps are all but those that add a clause as it is given, to the query or to a join, at any
depth.  Joins that are themselves given as clauses (`handedIn`) stay as they are.
-/

namespace SqlBuilder

variable {σ : Type}

/-! ## Lists of clauses -/

/-- The clauses that are filed under a component and an engine. -/
def Clauses.slot (c : Component) (engine : Option Dialect) (cs : List (Clause σ)) :
    List (Clause σ) :=
  cs.filter (·.isFiled c engine)

/-- There is at most one clause of a component for each engine. -/
def Clauses.FilledOnce (c : Component) (cs : List (Clause σ)) : Prop :=
  ∀ engine, (slot c engine cs).length ≤ 1

/-- The components that are filled once have at most one clause for each engine. -/
def Clauses.Singular (cs : List (Clause σ)) : Prop :=
  ∀ c ∈ Component.single, FilledOnce c cs

namespace Clauses

variable {c c' : Component} {engine engine' : Option Dialect} {cs cs' : List (Clause σ)}
  {k : Clause σ}

theorem slot_append : slot c engine (cs ++ cs') = slot c engine cs ++ slot c engine cs' :=
  List.filter_append ..

theorem slot_singleton :
    slot c engine [k] = if k.component = c ∧ k.engine = engine then [k] else [] := by
  simp [slot, List.filter_cons, Clause.isFiled_iff]

theorem slot_clear : slot c engine (clear c' cs) = if c' = c then [] else slot c engine cs := by
  unfold slot clear
  rw [List.filter_filter]
  split
  case isTrue heq =>
    refine List.filter_eq_nil_iff.mpr fun k _ hk => ?_
    rw [Bool.and_eq_true, Clause.isFiled_iff, bne_iff_ne, heq] at hk
    exact hk.2 hk.1.1
  case isFalse hne =>
    refine List.filter_congr fun k _ => ?_
    by_cases hk : k.component = c
    · simp [hk, Ne.symm hne]
    · simp [Clause.isFiled, hk]

theorem slot_remove :
    slot c engine (remove c' engine' cs) =
      if c' = c ∧ engine' = engine then [] else slot c engine cs := by
  unfold slot remove
  rw [List.filter_filter]
  split
  case isTrue heq => simp [heq]
  case isFalse hne =>
    refine List.filter_congr fun k _ => ?_
    cases hk : k.isFiled c engine with
    | false => rfl
    | true =>
      obtain ⟨rfl, rfl⟩ := Clause.isFiled_iff.mp hk
      have hother : k.isFiled c' engine' = false := by
        rw [Bool.eq_false_iff, Ne, Clause.isFiled_iff]
        exact fun h => hne ⟨h.1.symm, h.2.symm⟩
      simp [hother]

/-- The clause that is chosen for a dialect comes from its own slot, or else from the common one. -/
theorem pick?_eq_slot (d : Dialect) :
    pick? c (some d) cs = ((slot c (some d) cs).head? <|> (slot c none cs).head?) := by
  rw [pick?_eq, slot, slot, List.head?_filter, List.head?_filter]

/-- Replacing fails exactly if there are several clauses to replace. -/
theorem addOrReplace_eq_error_iff {e : Error} :
    addOrReplace k cs = .error e ↔
      1 < (slot k.component k.engine cs).length ∧
        e = .ambiguousReplacement k.component (slot k.component k.engine cs).length k.engine := by
  unfold addOrReplace slot
  by_cases h : 1 < (cs.filter (·.isFiled k.component k.engine)).length
  · simp [h, eq_comm]
  · simp [h]

theorem addOrReplace_eq_ok {cs' : List (Clause σ)} (h : addOrReplace k cs = .ok cs') :
    cs' = remove k.component k.engine cs ++ [k] := by
  unfold addOrReplace at h
  dsimp only at h
  split at h
  · nomatch h
  · exact (Except.ok.inj h).symm

theorem FilledOnce.addOrReplace (h : FilledOnce k.component cs) :
    addOrReplace k cs = .ok (remove k.component k.engine cs ++ [k]) := by
  unfold Clauses.addOrReplace
  exact if_neg (Nat.not_lt.mpr (h k.engine))

/-! ### What keeps components filled once -/

theorem FilledOnce.clear (h : FilledOnce c cs) : FilledOnce c (clear c' cs) := by
  intro engine
  rw [slot_clear]
  split
  · exact Nat.zero_le 1
  · exact h engine

theorem FilledOnce.remove (h : FilledOnce c cs) : FilledOnce c (remove c' engine' cs) := by
  intro engine
  rw [slot_remove]
  split
  · exact Nat.zero_le 1
  · exact h engine

/-- Adding a clause of another component. -/
theorem FilledOnce.append_of_ne (h : FilledOnce c cs) (hk : k.component ≠ c) :
    FilledOnce c (cs ++ [k]) := by
  intro engine
  rw [slot_append, slot_singleton, if_neg (fun hfiled => hk hfiled.1), List.append_nil]
  exact h engine

/-- Adding a clause where there is none. -/
theorem FilledOnce.append_of_slot_eq_nil (h : FilledOnce c cs)
    (hslot : slot k.component k.engine cs = []) : FilledOnce c (cs ++ [k]) := by
  intro engine
  rw [slot_append, slot_singleton]
  split
  case isTrue hfiled =>
    obtain ⟨rfl, rfl⟩ := hfiled
    simp [hslot]
  case isFalse =>
    rw [List.append_nil]
    exact h engine

theorem Singular.replaced (h : Singular cs) (k : Clause σ) :
    Singular (Clauses.remove k.component k.engine cs ++ [k]) := by
  intro c hc
  refine (h c hc).remove.append_of_slot_eq_nil ?_
  rw [slot_remove, if_pos ⟨rfl, rfl⟩]

theorem Singular.refilled (h : Singular cs) (k : Clause σ) :
    Singular (Clauses.clear k.component cs ++ [k]) := by
  intro c hc
  refine (h c hc).clear.append_of_slot_eq_nil ?_
  rw [slot_clear, if_pos rfl]

end Clauses

/-! ## Actions -/

/-- The error is not about clauses of a component that is filled once. -/
def Error.SparesSingle (e : Error) : Prop :=
  ∀ c ∈ Component.single, ∀ n engine, e ≠ .ambiguousReplacement c n engine

/-- An error that is handed on, unless there is one. -/
theorem spares_orElse {e₁ e₂ : Option Error} (h₁ : ∀ e ∈ e₁, e.SparesSingle)
    (h₂ : ∀ e ∈ e₂, e.SparesSingle) : ∀ e ∈ (e₁ <|> e₂), e.SparesSingle := by
  cases e₁ with
  | some e => exact h₁
  | none => exact h₂

/-- The join that a clause carries has a property. -/
def ClauseKind.JoinHas (known : Join Subquery → Prop) (k : ClauseKind Subquery) : Prop :=
  ∀ j, k.join? = some j → known j

/-- The components that are filled once are, no error says otherwise, and all joins have a
property. -/
structure Draft.Sound (known : Join Subquery → Prop) (s : Draft) : Prop where
  singular : Clauses.Singular s.clauses
  joins : ∀ clause ∈ s.clauses, clause.kind.JoinHas known
  error : ∀ e ∈ s.error, e.SparesSingle

/-- An action after which the components that are filled once are still so. -/
def Action.Sound (known : Join Subquery → Prop) : Action → Prop
  | .add clause => clause.component ∉ Component.single ∧ clause.kind.JoinHas known
  | .replace clause | .refill clause => clause.kind.JoinHas known
  | .push _ => False
  | .record e => e.SparesSingle
  | .clear _ | .remove _ _ | .restart => True

theorem ClauseKind.JoinHas.of_none {known : Join Subquery → Prop} {k : ClauseKind Subquery}
    (h : k.join? = none) : k.JoinHas known := by
  intro j hj
  rw [h] at hj
  nomatch hj

/-- What a step does of its own accord is sound. -/
theorem Action.Plain.sound {known : Join Subquery → Prop} {a : Action} (h : a.Plain) :
    a.Sound known := by
  cases h with
  | add hc hk => exact ⟨hc, .of_none hk⟩
  | replace hk | refill hk => exact .of_none hk
  | clear | remove => trivial
  | record he => exact fun c _ n engine => he c n engine

namespace Draft.Sound

variable {known : Join Subquery → Prop} {s : Draft} {a : Action} {as : List Action}

theorem empty : ({} : Draft).Sound known where
  singular _ _ _ := Nat.zero_le 1
  joins := List.forall_mem_nil _
  error _ he := nomatch he

/-- Other clauses with the same error. -/
theorem of_clauses (hs : s.Sound known) {cs : List (Clause Subquery)}
    (hsingular : Clauses.Singular cs) (hjoins : ∀ clause ∈ cs, clause.kind.JoinHas known) :
    Draft.Sound known { s with clauses := cs } :=
  ⟨hsingular, hjoins, hs.error⟩

theorem clear (hs : s.Sound known) (c : Component) :
    Draft.Sound known { s with clauses := Clauses.clear c s.clauses } :=
  hs.of_clauses (fun c hc => (hs.singular c hc).clear) fun clause h =>
    hs.joins clause (List.mem_filter.mp h).1

theorem add (hs : s.Sound known) {k : Clause Subquery}
    (hsingular : Clauses.Singular (s.clauses ++ [k])) (hk : k.kind.JoinHas known) :
    (s.add k).Sound known := by
  unfold Draft.add
  split
  · exact hs
  · refine hs.of_clauses hsingular ?_
    rw [List.forall_mem_append, List.forall_mem_singleton]
    exact ⟨hs.joins, hk⟩

theorem replace (hs : s.Sound known) {k : Clause Subquery} (hk : k.kind.JoinHas known) :
    (s.perform (.replace k)).Sound known := by
  unfold Draft.perform
  dsimp only
  split
  · exact hs
  · cases hreplaced : Clauses.addOrReplace k s.clauses with
    | ok cs =>
      obtain rfl := Clauses.addOrReplace_eq_ok hreplaced
      refine hs.of_clauses (hs.singular.replaced k) ?_
      rw [List.forall_mem_append, List.forall_mem_singleton]
      exact ⟨fun clause h => hs.joins clause (List.mem_filter.mp h).1, hk⟩
    | error e =>
      refine ⟨hs.singular, hs.joins, fun e' he' => ?_⟩
      obtain rfl := Option.mem_some_iff.mp he'
      obtain ⟨hseveral, rfl⟩ := Clauses.addOrReplace_eq_error_iff.mp hreplaced
      intro c hc n engine heq
      -- only a component with several clauses can be at fault
      obtain ⟨rfl, -, -⟩ := Error.ambiguousReplacement.inj heq
      exact absurd (hs.singular _ hc _) (Nat.not_le.mpr hseveral)

/-- **Action.**  The components that are filled once stay so. -/
theorem perform (hs : s.Sound known) (ha : a.Sound known) : (s.perform a).Sound known := by
  cases a with
  | add k =>
    refine hs.add (fun c hc => (hs.singular c hc).append_of_ne ?_) ha.2
    rintro rfl
    exact ha.1 hc
  | replace k => exact hs.replace ha
  | refill k => exact (hs.clear k.component).add (hs.singular.refilled k) ha
  | clear c => exact hs.clear c
  | remove c engine =>
    exact hs.of_clauses (fun c hc => (hs.singular c hc).remove) fun clause h =>
      hs.joins clause (List.mem_filter.mp h).1
  | push k => exact ha.elim
  | record e =>
    refine ⟨hs.singular, hs.joins, spares_orElse hs.error fun e' he' => ?_⟩
    obtain rfl := Option.mem_some_iff.mp he'
    exact ha
  | restart => exact empty

/-- **Run.** -/
theorem performAll (hs : s.Sound known) (has : ∀ a ∈ as, a.Sound known) :
    (s.performAll as).Sound known := by
  induction as generalizing s with
  | nil => exact hs
  | cons a as ih =>
    obtain ⟨ha, has⟩ := List.forall_mem_cons.mp has
    exact ih (hs.perform ha) has

end Draft.Sound

/-! ## What was set last -/

/-- What an action makes of the clause of a component and an engine, if it sets or removes it.
After an error nothing is set any more, but clauses are still removed. -/
def Action.setting? (c : Component) (engine : Option Dialect) (failed : Bool) :
    Action → Option (Option (Clause Subquery))
  | .replace k => if !failed && k.isFiled c engine then some (some k) else none
  | .refill k =>
    if k.component = c then some (if !failed && k.engine == engine then some k else none)
    else none
  | .clear c' => if c' = c then some none else none
  | .remove c' engine' => if c' = c ∧ engine' = engine then some none else none
  | .restart => some none
  | .add _ | .push _ | .record _ => none

/-- The settings of a component and an engine, one after another. -/
def Draft.settings (c : Component) (engine : Option Dialect) :
    Draft → List Action → List (Option (Clause Subquery))
  | _, [] => []
  | s, a :: as => (a.setting? c engine s.error.isSome).toList ++ settings c engine (s.perform a) as

/-- The last setting of a component and an engine. -/
def Draft.lastSetting (c : Component) (engine : Option Dialect) (s : Draft) (as : List Action) :
    Option (Clause Subquery) :=
  (s.settings c engine as).getLast?.join

namespace Draft

open Clauses

variable {known : Join Subquery → Prop} {s : Draft} {a : Action} {as : List Action}
  {c : Component} {engine : Option Dialect}

theorem slot_add (s : Draft) (k : Clause Subquery) :
    slot c engine (s.add k).clauses =
      slot c engine s.clauses ++
        if s.error.isSome = false ∧ k.component = c ∧ k.engine = engine then [k] else [] := by
  unfold add
  cases s.error.isSome <;> simp [slot_append, slot_singleton]

/-- A slot after a clause has been put in its place. -/
theorem slot_replace (hs : s.Sound known) (hc : c ∈ Component.single) (k : Clause Subquery) :
    slot c engine (s.perform (.replace k)).clauses =
      if s.error.isSome = false ∧ k.component = c ∧ k.engine = engine then [k]
      else slot c engine s.clauses := by
  unfold perform
  dsimp only
  cases s.error.isSome with
  | true => simp
  | false =>
    simp only [Bool.false_eq_true, ↓reduceIte, true_and]
    cases hreplaced : Clauses.addOrReplace k s.clauses with
    | ok cs =>
      obtain rfl := addOrReplace_eq_ok hreplaced
      dsimp only
      rw [slot_append, slot_remove, slot_singleton]
      split <;> simp
    | error e =>
      have hne : k.component ≠ c := by
        rintro rfl
        exact absurd (hs.singular _ hc _) (Nat.not_le.mpr (addOrReplace_eq_error_iff.mp hreplaced).1)
      rw [if_neg fun h => hne h.1]

/-- **Action.**  A slot holds what an action sets, and is left alone by the others. -/
theorem slot_perform (hs : s.Sound known) (ha : a.Sound known) (hc : c ∈ Component.single) :
    slot c engine (s.perform a).clauses =
      ((a.setting? c engine s.error.isSome).map Option.toList).getD (slot c engine s.clauses) := by
  cases a with
  | add k =>
    have hne : k.component ≠ c := by
      rintro rfl
      exact ha.1 hc
    exact (slot_add s k).trans (by simp [hne, Action.setting?])
  | replace k =>
    rw [slot_replace hs hc]
    unfold Action.setting?
    cases s.error.isSome
    · by_cases hk : k.component = c ∧ k.engine = engine
      · simp [hk, Clause.isFiled]
      · simp [hk, Clause.isFiled]
    · simp
  | refill k =>
    refine (slot_add _ k).trans ?_
    rw [slot_clear]
    unfold Action.setting?
    by_cases hk : k.component = c
    · cases s.error.isSome <;> by_cases hengine : k.engine = engine <;> simp [hk, hengine]
    · simp [hk]
  | clear c' =>
    refine slot_clear.trans ?_
    simp only [Action.setting?]
    split <;> rfl
  | remove c' engine' =>
    refine slot_remove.trans ?_
    simp only [Action.setting?]
    split <;> rfl
  | push k => exact ha.elim
  | record e => rfl
  | restart => rfl

/-- **Run.**  A slot holds what was set last. -/
theorem slot_performAll (hs : s.Sound known) (has : ∀ a ∈ as, a.Sound known)
    (hc : c ∈ Component.single) :
    slot c engine (s.performAll as).clauses =
      ((s.settings c engine as).getLast?.map Option.toList).getD (slot c engine s.clauses) := by
  induction as generalizing s with
  | nil => rfl
  | cons a as ih =>
    obtain ⟨ha, has⟩ := List.forall_mem_cons.mp has
    rw [performAll_cons, ih (hs.perform ha) has, slot_perform hs ha hc, settings,
      List.getLast?_append]
    cases (settings c engine (s.perform a) as).getLast? <;>
      cases a.setting? c engine s.error.isSome <;> rfl

end Draft

/-! ## Fluent steps -/

mutual

/-- The step adds no clause as it is given, and neither do the steps inside of it. -/
def Step.isFluent : Step → Bool
  | .addComponent _ _ | .pushClause _ => false
  | .forEngine _ body => fluent body
  | .condition call => fluentCall call
  | .fromQuery sub | .selectQuery sub _ | .selectAggregateWhere _ _ sub | .combine _ _ sub
  | .withQuery sub | .asInsertQuery _ sub | .createTableAs sub => sub.isFluent
  | .joinTable _ _ body => fluentJoin body
  | .joinQuery _ sub body => sub.isFluent && fluentJoin body
  | _ => true

/-- All steps of a list are fluent. -/
def fluent : List Step → Bool
  | [] => true
  | s :: ss => s.isFluent && fluent ss

/-- The step on a join is fluent. -/
def JoinStep.isFluent : JoinStep → Bool
  | .pushClause _ => false
  | .condition call => fluentCall call
  | .query sub => sub.isFluent
  | _ => true

/-- All steps on a join are fluent. -/
def fluentJoin : List JoinStep → Bool
  | [] => true
  | s :: ss => s.isFluent && fluentJoin ss

/-- The steps of a subquery are fluent. -/
def Nested.isFluent : Nested → Bool
  | .fresh body | .child body => fluent body
  | .aliased sub _ => sub.isFluent

/-- The steps of the subquery of a condition are fluent. -/
def fluentCall : ConditionCall Nested → Bool
  | .inQuery _ sub | .queryCompare sub _ _ | .columnQuery _ _ sub | .existsIn sub | .group sub =>
    sub.isFluent
  | _ => true

end

mutual

/-- The joins that a step is given as clauses. -/
def Step.handedIn : Step → List (Join Subquery)
  | .replaceComponent _ k => k.join?.toList
  | .forEngine _ body => joinsHandedIn body
  | _ => []

/-- The joins that a list of steps is given as clauses. -/
def joinsHandedIn : List Step → List (Join Subquery)
  | [] => []
  | s :: ss => s.handedIn ++ joinsHandedIn ss

end

/-! ### Joins -/

/-- A join with at most one target for each engine, where no error says otherwise. -/
structure JoinBuilder.Sound (b : JoinBuilder) : Prop where
  target : Clauses.FilledOnce .source b.join.clauses
  error : ∀ e ∈ b.error, e.SparesSingle

namespace JoinBuilder

variable {b : JoinBuilder}

theorem Sound.within (q : Query) (kind : JoinKind) : (JoinBuilder.within q kind).Sound where
  target _ := Nat.zero_le 1
  error _ he := nomatch he

/-- Setting the target of a join puts it in its place. -/
theorem Sound.setTarget (hb : b.Sound) (s : Source Subquery) : (b.target s).Sound := by
  have hreplaced := Clauses.FilledOnce.addOrReplace
    (k := ⟨.source, b.engineScope, .source s⟩) hb.target
  unfold JoinBuilder.target
  rw [hreplaced]
  refine ⟨?_, hb.error⟩
  refine hb.target.remove.append_of_slot_eq_nil ?_
  rw [Clauses.slot_remove, if_pos ⟨rfl, rfl⟩]

/-- Setting a subquery as the target, whose error is handed on. -/
theorem Sound.setQuery (hb : b.Sound) {sub : Query} (hsub : ∀ e ∈ sub.error, e.SparesSingle) :
    (b.query sub).Sound := by
  let reported := if sub.aliasName.isNone then some .joinWithoutAlias else sub.error
  have hreported : ∀ e ∈ reported, e.SparesSingle := by
    unfold reported
    split
    · rintro e he c - n engine rfl
      nomatch he
    · exact hsub
  have hfailed : JoinBuilder.Sound { b with error := b.error <|> reported } :=
    ⟨hb.target, spares_orElse hb.error hreported⟩
  exact hfailed.setTarget _

theorem join_inheritError (sub : Query) (b : JoinBuilder) :
    (Conditions.inheritError sub b).join = b.join := by
  unfold Conditions.inheritError
  split <;> rfl

/-- Conditions are filed apart from the target. -/
theorem target_apply (hb : Clauses.FilledOnce .source b.join.clauses)
    (call : ConditionCall Query) : Clauses.FilledOnce .source (call.apply b).join.clauses := by
  have hadd : ∀ (b' : JoinBuilder) (k : ConditionKind Subquery), b'.join = b.join →
      Clauses.FilledOnce .source (ConditionBuilder.addCondition k b').join.clauses := by
    intro b' k hjoin
    rw [← hjoin] at hb
    exact hb.append_of_ne Component.noConfusion
  have hquery : ∀ (sub : Query) (k : ConditionKind Subquery), Clauses.FilledOnce .source
      (ConditionBuilder.addCondition k (Conditions.inheritError sub b)).join.clauses :=
    fun sub k => hadd _ k (join_inheritError sub b)
  cases call with
  | or | not | resetPending => exact hb
  | filter c o v =>
    have htest : ∀ k : ConditionKind Subquery, Clauses.FilledOnce .source
        (ConditionBuilder.addCondition k
          (if o = .eq then b else Conditions.not b)).join.clauses := by
      intro k
      split <;> exact hadd _ k rfl
    change Clauses.FilledOnce .source (Conditions.filter c o v b).join.clauses
    unfold Conditions.filter
    cases v with
    | null => exact htest _
    | bool t =>
      dsimp only
      split
      · exact htest _
      · exact hadd b _ rfl
    | _ => exact hadd b _ rfl
  | inQuery _ sub | queryCompare sub _ _ | columnQuery _ _ sub => exact hquery sub _
  | existsIn sub =>
    change Clauses.FilledOnce .source (Conditions.existsIn sub b).join.clauses
    unfold Conditions.existsIn
    split
    · exact hquery sub _
    · exact hb
  | group sub =>
    change Clauses.FilledOnce .source (Conditions.group sub b).join.clauses
    unfold Conditions.group
    split
    · exact hquery sub _
    · change Clauses.FilledOnce .source (Conditions.inheritError sub b).join.clauses
      rw [join_inheritError]
      exact hb
  | columns _ _ _ | null _ | boolean _ _ | pattern _ _ _ _ _ | between _ _ _ | inList _ _
  | raw _ | datePart _ _ _ _ => exact hadd b _ rfl

/-- A condition whose subquery has no error about clauses that are filled once. -/
theorem Sound.apply (hb : b.Sound) {call : ConditionCall Query}
    (hcall : ∀ e ∈ call.fault?, e.SparesSingle) : (call.apply b).Sound where
  target := target_apply hb.target call
  error := by
    rw [error_apply]
    exact spares_orElse hb.error hcall

/-- The join is handed on, or its error. -/
theorem Sound.actions {known : Join Subquery → Prop} (hb : b.Sound)
    (hknown : ∀ j, Clauses.FilledOnce .source j.clauses → known j) (q : Query) :
    ∀ a ∈ b.actions q, a.Sound known := by
  unfold JoinBuilder.actions
  split
  case h_1 e herror => exact List.forall_mem_singleton.mpr (hb.error e herror)
  case h_2 =>
    have hjoin : Component.join ∉ Component.single := by decide
    refine List.forall_mem_singleton.mpr ⟨hjoin, fun j hj => ?_⟩
    obtain rfl := Option.some.inj hj
    exact hknown _ hb.target

end JoinBuilder

/-! ### Runs -/

/-- The errors of a subquery without errors about clauses that are filled once. -/
theorem sound_inherited {known : Join Subquery → Prop} {e : Option Error}
    (he : ∀ err ∈ e, err.SparesSingle) : ∀ a ∈ inherited e, a.Sound known := by
  intro a ha
  obtain ⟨err, herr, rfl⟩ := mem_inherited.mp ha
  exact he err herr

mutual

/-- **Step.**  The actions of a fluent step are sound. -/
theorem Step.actions_sound {known : Join Subquery → Prop}
    (hsources : ∀ j : Join Subquery, Clauses.FilledOnce .source j.clauses → known j) (s : Step)
    (hs : s.isFluent = true) (hknown : ∀ j ∈ s.handedIn, known j) (q : Query) :
    ∀ a ∈ s.actions q, a.Sound known := by
  intro a ha
  obtain hpassed | hplain := s.plain_or_handedOn q a ha
  · cases s with
    | addComponent _ _ | pushClause _ => nomatch hs
    | child =>
      obtain rfl := List.mem_singleton.mp hpassed
      trivial
    | forEngine engine body =>
      simp only [Step.isFluent] at hs
      simp only [Step.handedIn] at hknown
      exact actionsOf_sound hsources body hs hknown _ a hpassed
    | replaceComponent c k =>
      obtain rfl := List.mem_singleton.mp hpassed
      exact fun j hj => hknown j (by simp [Step.handedIn, hj])
    | fromQuery sub | selectQuery sub _ | selectAggregateWhere _ _ sub | combine _ _ sub
    | withQuery sub | asInsertQuery _ sub | createTableAs sub =>
      simp only [Step.isFluent] at hs
      exact sound_inherited (sub.build_spares hs rfl) a hpassed
    | condition call =>
      simp only [Step.isFluent] at hs
      exact sound_inherited (buildCall_spares call hs rfl) a hpassed
    | joinTable kind table body =>
      simp only [Step.isFluent] at hs
      exact (runJoin_sound body hs ((JoinBuilder.Sound.within q kind).setTarget _)).actions
        hsources q a hpassed
    | joinQuery kind sub body =>
      simp only [Step.isFluent, Bool.and_eq_true] at hs
      have hsub : ∀ e ∈ (sub.build q.child).error, e.SparesSingle := sub.build_spares hs.1 rfl
      exact (runJoin_sound body hs.2 ((JoinBuilder.Sound.within q kind).setQuery hsub)).actions
        hsources q a hpassed
    | _ => nomatch hpassed
  · exact hplain.sound

/-- **Run.**  The actions of fluent steps are sound. -/
theorem actionsOf_sound {known : Join Subquery → Prop}
    (hsources : ∀ j : Join Subquery, Clauses.FilledOnce .source j.clauses → known j)
    (ss : List Step) (hss : fluent ss = true) (hknown : ∀ j ∈ joinsHandedIn ss, known j)
    (q : Query) : ∀ a ∈ actionsOf ss q, a.Sound known := by
  cases ss with
  | nil => simp [actionsOf]
  | cons s ss =>
    simp only [fluent, Bool.and_eq_true] at hss
    simp only [joinsHandedIn, List.forall_mem_append] at hknown
    simp only [actionsOf, List.forall_mem_append]
    exact ⟨s.actions_sound hsources hss.1 hknown.1 q, actionsOf_sound hsources ss hss.2 hknown.2 _⟩

/-- **Step on a join.** -/
theorem JoinStep.run_sound (s : JoinStep) (hs : s.isFluent = true) {b : JoinBuilder}
    (hb : b.Sound) : (s.run b).Sound := by
  cases s with
  | condition call =>
    simp only [JoinStep.isFluent] at hs
    simp only [JoinStep.run]
    exact hb.apply (buildCall_spares call hs rfl)
  | table name =>
    simp only [JoinStep.run]
    exact hb.setTarget _
  | query sub =>
    simp only [JoinStep.isFluent] at hs
    simp only [JoinStep.run]
    exact hb.setQuery (sub.build_spares hs rfl)
  | on first operator second =>
    simp only [JoinStep.run]
    have hcall : ∀ e ∈ (ConditionCall.columns first operator second).fault?, e.SparesSingle :=
      fun e he => nomatch he
    exact hb.apply hcall
  | kind _ | useIndex _ =>
    simp only [JoinStep.run]
    exact ⟨hb.target, hb.error⟩
  | pushClause _ => nomatch hs

/-- **Run on a join.** -/
theorem runJoin_sound (ss : List JoinStep) (hss : fluentJoin ss = true) {b : JoinBuilder}
    (hb : b.Sound) : (runJoin ss b).Sound := by
  cases ss with
  | nil => simpa only [runJoin] using hb
  | cons s ss =>
    simp only [fluentJoin, Bool.and_eq_true] at hss
    simp only [runJoin]
    exact runJoin_sound ss hss.2 (s.run_sound hss.1 hb)

/-- **Subquery.**  Its error is not about a component that is filled once. -/
theorem Nested.build_spares (sub : Nested) (hsub : sub.isFluent = true) {child : Query}
    (hchild : child.draft = {}) : ∀ e ∈ (sub.build child).error, e.SparesSingle := by
  have hrun : ∀ body (q : Query), q.draft = {} → (∀ a ∈ actionsOf body q, a.Sound fun _ => True) →
      ∀ e ∈ (runAll body q).error, e.SparesSingle := by
    intro body q hq has
    have hsound := Draft.Sound.empty.performAll has
    rw [← hq, ← draft_runAll] at hsound
    exact hsound.error
  cases sub with
  | fresh body =>
    simp only [Nested.isFluent] at hsub
    simp only [Nested.build]
    exact hrun body {} rfl (actionsOf_sound (fun _ _ => trivial) body hsub (fun _ _ => trivial) _)
  | child body =>
    simp only [Nested.isFluent] at hsub
    simp only [Nested.build]
    exact hrun body child hchild
      (actionsOf_sound (fun _ _ => trivial) body hsub (fun _ _ => trivial) _)
  | aliased sub aliasName =>
    simp only [Nested.isFluent] at hsub
    simp only [Nested.build]
    exact sub.build_spares hsub hchild

/-- **Subquery of a condition.** -/
theorem buildCall_spares (call : ConditionCall Nested) (hcall : fluentCall call = true)
    {child : Query} (hchild : child.draft = {}) :
    ∀ e ∈ (buildCall call child).fault?, e.SparesSingle := by
  cases call with
  | inQuery _ sub | queryCompare sub _ _ | columnQuery _ _ sub | group sub =>
    simp only [fluentCall] at hcall
    simp only [buildCall]
    exact sub.build_spares hcall hchild
  | existsIn sub =>
    simp only [fluentCall] at hcall
    simp only [buildCall, ConditionCall.fault?]
    split
    · exact sub.build_spares hcall hchild
    · rintro e he c - n engine rfl
      nomatch he
  | _ =>
    intro e he
    simp only [buildCall] at he
    nomatch he

end

/-! ## The result -/

/-- A run of fluent steps on a query without clauses and errors, such as a new one or a child. -/
theorem runAll_sound {ss : List Step} (hss : fluent ss = true) {q : Query} (hq : q.draft = {}) :
    (runAll ss q).draft.Sound fun j =>
      j ∈ joinsHandedIn ss ∨ Clauses.FilledOnce .source j.clauses := by
  rw [draft_runAll, hq]
  exact Draft.Sound.empty.performAll
    (actionsOf_sound (fun _ => .inr) ss hss (fun _ => .inl) q)

/-- The clause of a component that is filled once is the one that was set last. -/
theorem slot_runAll {ss : List Step} (hss : fluent ss = true) {q : Query} (hq : q.draft = {})
    {c : Component} (hc : c ∈ Component.single) (engine : Option Dialect) :
    Clauses.slot c engine (runAll ss q).clauses =
      (q.draft.lastSetting c engine (actionsOf ss q)).toList := by
  have hsound : ∀ a ∈ actionsOf ss q, a.Sound fun _ => True :=
    actionsOf_sound (fun _ _ => trivial) ss hss (fun _ _ => trivial) q
  have hslot : Clauses.slot c engine (Draft.performAll {} (actionsOf ss q)).clauses = _ :=
    Draft.slot_performAll Draft.Sound.empty hsound hc
  rw [← hq, ← draft_runAll] at hslot
  refine hslot.trans ?_
  unfold Draft.lastSetting
  cases (q.draft.settings c engine (actionsOf ss q)).getLast? with
  | none => exact congrArg (fun s : Draft => Clauses.slot c engine s.clauses) hq
  | some k => rfl

/-- A clause that cannot be put in its place leaves the query as it was, but for the error. -/
theorem QueryOver.replaceComponent_of_error {q : Query} {c : Component} {k : ClauseKind Subquery}
    {e : Error} (h : Clauses.addOrReplace ⟨c, q.engineScope, k⟩ q.clauses = .error e) :
    q.replaceComponent c k = q.fail e := by
  unfold replaceComponent
  rw [h]
  split
  case isTrue hfailed =>
    obtain ⟨e₀, herror⟩ := Option.isSome_iff_exists.mp hfailed
    have hkept : (q.error <|> some e) = q.error := by
      rw [herror]
      rfl
    rw [fail, hkept]
  case isFalse => rfl

/-- A target that cannot be put in its place leaves the join as it was, but for the error. -/
theorem JoinBuilder.target_of_error {b : JoinBuilder} {s : Source Subquery} {e : Error}
    (h : Clauses.addOrReplace ⟨.source, b.engineScope, .source s⟩ b.join.clauses = .error e) :
    b.target s = { b with error := b.error <|> some e } := by
  unfold target
  rw [h]

/-- **Components that are filled once.**  After any fluent steps there is at most one clause of such
a component for each engine, and a join that was built has at most one target for each.  No step has
failed because it was not clear which of these clauses to replace, and the clause of each is the one
that was set last, so that a dialect sees the last setting of its own, or else the last one for
every dialect.  Replacing a clause of any list of clauses, where that fails, changes nothing but the
error. -/
theorem singles_filled_once :
    (∀ ss q, fluent ss = true → q.draft = {} →
      Clauses.Singular (runAll ss q).clauses ∧
      (∀ clause ∈ (runAll ss q).clauses, ∀ j, clause.kind.join? = some j →
        j ∈ joinsHandedIn ss ∨ Clauses.FilledOnce .source j.clauses) ∧
      ∀ c ∈ Component.single,
        (∀ n engine, (runAll ss q).error ≠ some (.ambiguousReplacement c n engine)) ∧
        ∀ engine, Clauses.slot c engine (runAll ss q).clauses =
            (q.draft.lastSetting c engine (actionsOf ss q)).toList ∧
          ∀ d, Clauses.pick? c (some d) (runAll ss q).clauses =
            (q.draft.lastSetting c (some d) (actionsOf ss q) <|>
              q.draft.lastSetting c none (actionsOf ss q))) ∧
    (∀ (q : Query) c k e, Clauses.addOrReplace ⟨c, q.engineScope, k⟩ q.clauses = .error e →
      q.replaceComponent c k = q.fail e) ∧
    (∀ (b : JoinBuilder) s e,
      Clauses.addOrReplace ⟨.source, b.engineScope, .source s⟩ b.join.clauses = .error e →
        b.target s = { b with error := b.error <|> some e }) := by
  refine ⟨fun ss q hss hq => ?_, fun q c k e h => q.replaceComponent_of_error h,
    fun b s e h => b.target_of_error h⟩
  have hsound := runAll_sound hss hq
  refine ⟨hsound.singular, hsound.joins, fun c hc => ⟨?error, fun engine => ⟨?slot, fun d => ?picked⟩⟩⟩
  case error =>
    intro n engine herror
    exact hsound.error _ herror c hc n engine rfl
  case slot => exact slot_runAll hss hq hc engine
  case picked =>
    rw [Clauses.pick?_eq_slot, slot_runAll hss hq hc, slot_runAll hss hq hc,
      Option.head?_toList, Option.head?_toList]

/-- Limits for one dialect and for all, in turns, with a join that is given two targets; and a
query that has got two limits otherwise. -/
theorem singles_filled_once_limits :
    let limit (engine : Option Dialect) (n : UInt64) : Clause Subquery :=
      ⟨.limit, engine, .limit n⟩
    let q := runAll
      [.limit 1, .forEngine .mySql [.limit 2, .limit 3], .joinTable .inner "t" [.table "u"],
        .limit 4] {}
    Clauses.Singular q.clauses ∧
      Clauses.pick? .limit (some .mySql) q.clauses = some (limit (some .mySql) 3) ∧
      Clauses.pick? .limit (some .sqlite) q.clauses = some (limit none 4) ∧
      (QueryOver.replaceComponent { clauses := [limit none 1, limit none 2] } .limit (.limit 3) :
        Query) = QueryOver.fail { clauses := [limit none 1, limit none 2] }
          (.ambiguousReplacement .limit 2 none) := by
  obtain ⟨hruns, hfailed, -⟩ := singles_filled_once
  obtain ⟨hsingular, -, hlimits⟩ := hruns
    [.limit 1, .forEngine .mySql [.limit 2, .limit 3], .joinTable .inner "t" [.table "u"],
      .limit 4] {} rfl rfl
  obtain ⟨-, hset⟩ := hlimits .limit (by decide)
  exact ⟨hsingular, (hset none).2 .mySql, (hset none).2 .sqlite, hfailed _ _ _ _ rfl⟩

end SqlBuilder
