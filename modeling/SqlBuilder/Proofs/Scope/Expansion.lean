import Mathlib.Algebra.GroupWithZero.Nat
import Mathlib.Logic.Function.Iterate
import SqlBuilder.Proofs.Scope.Substitution

/-!
# Values with their variables replaced

`Env.placeholderIn` writes a value while some variables are being replaced, by the recursion over
arrays and definitions that looks out for cycles (`Env.placeholderIn_eq`).  A value does not get
smaller when its definition takes its place, but then there is one variable fewer that can still be
replaced; so the calls of the recursion come to an end (`Env.wellFounded_calls`), and what is said
of a value is shown along them (`Env.calls_induction`).

A value is written just when all variables that can be reached from it are defined and none of them
can be reached from itself (`Env.placeholderIn_ok_iff`).  Replacing all of its variables at once
(`Env.replaced`), again and again, then comes to a value without any, and that one is written in its
place (`Env.placeholder_of_isClosed`).
-/

namespace SqlBuilder

/-! ## Outcomes of sequences -/

namespace Emit

variable {α β : Type}

theorem exists_ok_map_iff {f : α → β} {x : Emit α} :
    (∃ b, (f <$> x).outcome = .ok b) ↔ ∃ a, x.outcome = .ok a := by
  rw [← bind_pure_comp]
  cases h : x.outcome with
  | ok a => simp [bind_of_ok h]
  | error e => simp [bind_of_error h]

/-- A list of parts is carried out just when each of them is. -/
theorem exists_ok_mapM_iff {f : α → Emit β} {xs : List α} :
    (∃ ys, (xs.mapM f).outcome = .ok ys) ↔ ∀ x ∈ xs, ∃ y, (f x).outcome = .ok y := by
  induction xs with
  | nil => simp
  | cons x xs ih =>
    rw [List.mapM_cons, List.forall_mem_cons, ← ih]
    cases hx : (f x).outcome with
    | error e => simp [bind_of_error hx]
    | ok y =>
      rw [bind_of_ok hx, bind_pure_comp]
      simpa using exists_ok_map_iff

end Emit

/-! ## Values without variables -/

namespace Value

/-- What holds of an array if it holds of its items, and of all that is no array, holds of every
value. -/
@[elab_as_elim]
theorem items_induction {P : Value → Prop} (array : ∀ items, (∀ v ∈ items, P v) → P (.array items))
    (other : ∀ v, (∀ items, v ≠ .array items) → P v) (v : Value) : P v := by
  cases v with
  | array items => exact array items fun v hv => items_induction array other v
  | _ => exact other _ nofun
termination_by sizeOf v
decreasing_by
  have := List.sizeOf_lt_of_mem hv
  simp only [Value.array.sizeOf_spec]
  omega

mutual

/-- What is bound for a value without variables: what its arrays hold, from left to right, without
the literals. -/
def scalars : Value → List Value
  | array items => scalarsOf items
  | literal _ => []
  | v => [v]

/-- What is bound for a list of values without variables. -/
def scalarsOf : List Value → List Value
  | [] => []
  | v :: vs => v.scalars ++ scalarsOf vs

end

section Lists

variable (vs : List Value)

theorem scalarsOf_eq_flatMap : scalarsOf vs = vs.flatMap scalars := by
  induction vs with
  | nil => rfl
  | cons v vs ih => rw [scalarsOf, List.flatMap_cons, ih]

theorem slotsOf_eq_sum : slotsOf vs = (vs.map slots).sum := by
  induction vs with
  | nil => rfl
  | cons v vs ih => rw [slotsOf, List.map_cons, List.sum_cons, ih]

theorem mentionedOf_eq_flatMap : mentionedOf vs = vs.flatMap mentioned := by
  induction vs with
  | nil => rfl
  | cons v vs ih => rw [mentionedOf, List.flatMap_cons, ih]

theorem areClosed_iff : areClosed vs ↔ ∀ v ∈ vs, v.isClosed := by
  induction vs with
  | nil => simp [areClosed]
  | cons v vs ih => rw [areClosed, Bool.and_eq_true, List.forall_mem_cons, ih]

theorem substituteAll_eq_map (σ : String → Value) : substituteAll σ vs = vs.map (substitute σ) := by
  induction vs with
  | nil => rfl
  | cons v vs ih => rw [substituteAll, List.map_cons, ih]

end Lists

theorem length_scalars (v : Value) : v.scalars.length = v.slots := by
  induction v using items_induction with
  | array items ih =>
    rw [scalars, slots, scalarsOf_eq_flatMap, slotsOf_eq_sum, List.length_flatMap,
      List.map_congr_left ih]
  | other v h =>
    cases v with
    | array items => exact absurd rfl (h items)
    | _ => rfl

theorem isClosed_iff (v : Value) : v.isClosed ↔ v.mentioned = [] := by
  induction v using items_induction with
  | array items ih =>
    rw [isClosed, mentioned, areClosed_iff, mentionedOf_eq_flatMap, List.flatMap_eq_nil_iff]
    exact forall₂_congr ih
  | other v h =>
    cases v with
    | array items => exact absurd rfl (h items)
    | _ => simp [isClosed, mentioned]

variable {σ : String → Value}

/-- What is written in the places of the variables is all that is mentioned afterwards. -/
theorem mem_mentioned_substitute {name : String} (v : Value) :
    name ∈ (v.substitute σ).mentioned ↔ ∃ name' ∈ v.mentioned, name ∈ (σ name').mentioned := by
  induction v using items_induction with
  | array items ih =>
    rw [substitute, mentioned, mentioned, substituteAll_eq_map, mentionedOf_eq_flatMap,
      mentionedOf_eq_flatMap]
    simp only [List.mem_flatMap, List.mem_map, exists_exists_and_eq_and]
    constructor
    · rintro ⟨v, hv, hname⟩
      obtain ⟨name', hname', h⟩ := (ih v hv).mp hname
      exact ⟨name', ⟨v, hv, hname'⟩, h⟩
    · rintro ⟨name', ⟨v, hv, hname'⟩, h⟩
      exact ⟨v, hv, (ih v hv).mpr ⟨name', hname', h⟩⟩
  | other v h =>
    cases v with
    | array items => exact absurd rfl (h items)
    | _ => simp [substitute, mentioned]

theorem substitute_of_isClosed {v : Value} (h : v.isClosed) : v.substitute σ = v := by
  induction v using items_induction with
  | array items ih =>
    rw [isClosed, areClosed_iff] at h
    rw [substitute, substituteAll_eq_map, List.map_congr_left fun v hv => ih v hv (h v hv),
      List.map_id']
  | other v harray =>
    cases v with
    | array items => exact absurd rfl (harray items)
    | reference name => exact absurd h (by simp [isClosed])
    | _ => simp [substitute]

end Value

namespace Env

variable {env : Env} {v : Value} {name : String}

theorem placeholdersWith_eq_mapM (expand : String → Emit String) (vs : List Value) :
    placeholdersWith expand vs = vs.mapM (placeholderWith expand) := by
  induction vs with
  | nil => rw [placeholdersWith, List.mapM_nil]
  | cons v vs ih => rw [placeholdersWith, List.mapM_cons, ih]

mutual

/-- A value without variables is always written, and binds its scalars. -/
theorem bindings_of_isClosed {expand : String → Emit String} : ∀ v : Value, v.isClosed →
    ∃ s, placeholderWith expand v = ⟨v.scalars, .ok s⟩
  | .reference _, h => by simp [Value.isClosed] at h
  | .array items, h => by
    rw [Value.isClosed] at h
    obtain ⟨parts, hparts⟩ := bindings_of_areClosed items h
    refine ⟨commaList parts, ?_⟩
    rw [placeholderWith, hparts, Emit.bind_of_ok rfl, Value.scalars]
    simp
  | .literal sql, _ => ⟨sql, by rw [placeholderWith, Value.scalars]; rfl⟩
  | .null, _ | .bool _, _ | .int _, _ | .float _, _ | .decimal _, _ | .text _, _ | .uuid _, _
  | .date _, _ | .time _, _ | .timestamp _, _ | .timestampUtc _, _ | .bytes _, _ | .json _, _ =>
    ⟨"?", by rw [placeholderWith, Value.scalars] <;> first | rfl | simp⟩

theorem bindings_of_areClosed {expand : String → Emit String} : ∀ vs : List Value,
    Value.areClosed vs → ∃ parts, placeholdersWith expand vs = ⟨Value.scalarsOf vs, .ok parts⟩
  | [], _ => ⟨[], by rw [placeholdersWith, Value.scalarsOf]; rfl⟩
  | v :: vs, h => by
    rw [Value.areClosed, Bool.and_eq_true] at h
    obtain ⟨part, hpart⟩ := bindings_of_isClosed v h.1
    obtain ⟨parts, hparts⟩ := bindings_of_areClosed vs h.2
    refine ⟨part :: parts, ?_⟩
    rw [placeholdersWith, hpart, Emit.bind_of_ok rfl, hparts, Emit.bind_of_ok rfl, Value.scalarsOf]
    simp

end

/-! ## The recursion -/

/-- Writes a value while the given variables are being replaced. -/
def placeholderIn (env : Env) (resolving : List String) (v : Value) : Emit String :=
  placeholderWith (env.expandReference env.names.length resolving) v

/-- Writing the second of two values, while the variables beside it are being replaced, asks for the
first one: an item of an array, or the definition of a variable, which is then being replaced. -/
inductive Calls (env : Env) : List String × Value → List String × Value → Prop where
  | item {resolving : List String} {items : List Value} {v : Value} (h : v ∈ items) :
    Calls env (resolving, v) (resolving, .array items)
  | definition {resolving : List String} {name : String} {v : Value} (hnew : name ∉ resolving)
      (h : env.resolve name = .ok v) :
    Calls env (name :: resolving, v) (resolving, .reference name)

/-- **Termination.**  With each call there are fewer variables that can still be replaced, or as
many and a smaller value. -/
theorem wellFounded_calls (env : Env) : WellFounded env.Calls := by
  let measure (c : List String × Value) : Nat × Nat :=
    ((env.names.filter (· ∉ c.1)).length, sizeOf c.2)
  have hless : WellFounded (InvImage (Prod.Lex (· < ·) (· < ·)) measure) :=
    InvImage.wf measure (Prod.lex Nat.lt_wfRel Nat.lt_wfRel).wf
  refine Subrelation.wf (fun {callee caller} hcall => ?_) hless
  cases hcall with
  | @item resolving items v hmem =>
    refine Prod.Lex.right _ ?_
    have hsize := List.sizeOf_lt_of_mem hmem
    simp only [Value.array.sizeOf_spec]
    omega
  | definition hnew hresolve => exact Prod.Lex.left _ _ (length_free_lt hresolve hnew)

theorem resolve_eq_ok_iff : env.resolve name = .ok v ↔ env.lookup name = some v := by
  rw [resolve]
  cases env.lookup name <;> simp

/-- What holds of values without variables, of an array if it holds of its items, and of a variable
if it holds of its definition while the variable is being replaced, holds of every value. -/
theorem calls_induction (env : Env) {P : List String → Value → Prop}
    (closed : ∀ resolving v, v.isClosed → P resolving v)
    (array : ∀ resolving items, (∀ v ∈ items, P resolving v) → P resolving (.array items))
    (reference : ∀ resolving name, (∀ v, name ∉ resolving → env.lookup name = some v →
      P (name :: resolving) v) → P resolving (.reference name))
    (resolving : List String) (v : Value) : P resolving v := by
  suffices ∀ c : List String × Value, P c.1 c.2 from this (resolving, v)
  intro c
  induction c using env.wellFounded_calls.induction with
  | _ c ih =>
    obtain ⟨resolving, v⟩ := c
    by_cases hclosed : v.isClosed
    case pos => exact closed resolving v hclosed
    case neg =>
      cases v with
      | array items => exact array resolving items fun v hv => ih (resolving, v) (.item hv)
      | reference name =>
        exact reference resolving name fun v hnew hlookup =>
          ih (name :: resolving, v) (.definition hnew (resolve_eq_ok_iff.mpr hlookup))
      | _ => exact absurd rfl hclosed

/-- A value is written by recursion over arrays and definitions.  Nothing bounds the variables on
the way; one that is met again while it is being replaced is an error. -/
theorem placeholderIn_eq (env : Env) (resolving : List String) (v : Value) :
    env.placeholderIn resolving v = match v with
      | .literal sql => pure sql
      | .reference name =>
        if name ∈ resolving then Emit.fail (.variableCycle name)
        else Emit.ofExcept (env.resolve name) >>= env.placeholderIn (name :: resolving)
      | .array items => commaList <$> items.mapM (env.placeholderIn resolving)
      | v => do
        Emit.bound v
        return "?" := by
  have hroom : (env.names.filter (· ∉ resolving)).length ≤ env.names.length :=
    List.length_filter_le _ _
  cases v with
  | literal sql => rw [placeholderIn, placeholderWith]
  | reference name =>
    rw [placeholderIn, placeholderWith, ← expandReference_succ hroom, expandReference_eq]
    rfl
  | array items =>
    rw [placeholderIn, placeholderWith, placeholdersWith_eq_mapM, bind_pure_comp]
    rfl
  | _ => rw [placeholderIn, placeholderWith] <;> simp

/-! ## What can be reached -/

/-- The definition of the first variable mentions the second one. -/
def Mentions (env : Env) (name name' : String) : Prop :=
  ∃ v, env.lookup name = some v ∧ name' ∈ v.mentioned

/-- The variable can be reached from the value through arrays and definitions. -/
def Reaches (env : Env) (v : Value) (name : String) : Prop :=
  ∃ first ∈ v.mentioned, Relation.ReflTransGen env.Mentions first name

theorem not_reaches_of_isClosed (h : v.isClosed) : ¬env.Reaches v name := by
  rintro ⟨first, hfirst, -⟩
  rw [(Value.isClosed_iff v).mp h] at hfirst
  exact List.not_mem_nil hfirst

theorem reaches_array {items : List Value} :
    env.Reaches (.array items) name ↔ ∃ v ∈ items, env.Reaches v name := by
  simp only [Reaches, Value.mentioned, Value.mentionedOf_eq_flatMap, List.mem_flatMap]
  constructor
  · rintro ⟨first, ⟨v, hv, hfirst⟩, hreach⟩
    exact ⟨v, hv, first, hfirst, hreach⟩
  · rintro ⟨v, hv, first, hfirst, hreach⟩
    exact ⟨first, ⟨v, hv, hfirst⟩, hreach⟩

/-- From a variable, what its definition reaches can be reached in one step or more. -/
theorem transGen_mentions_iff (h : env.lookup name = some v) {name' : String} :
    Relation.TransGen env.Mentions name name' ↔ env.Reaches v name' := by
  rw [Relation.TransGen.head'_iff]
  constructor
  · rintro ⟨first, ⟨w, hw, hfirst⟩, hreach⟩
    obtain rfl := Option.some.inj (h.symm.trans hw)
    exact ⟨first, hfirst, hreach⟩
  · rintro ⟨first, hfirst, hreach⟩
    exact ⟨first, ⟨v, h, hfirst⟩, hreach⟩

theorem reaches_reference {name' : String} :
    env.Reaches (.reference name) name' ↔
      name' = name ∨ Relation.TransGen env.Mentions name name' := by
  rw [Reaches, Value.mentioned]
  simp only [List.mem_singleton, exists_eq_left]
  exact Relation.reflTransGen_iff_eq_or_transGen

/-- All variables that can be reached from the value are defined, and none of them can be reached
from itself. -/
def Sound (env : Env) (v : Value) : Prop :=
  ∀ name, env.Reaches v name →
    (env.lookup name).isSome ∧ ¬Relation.TransGen env.Mentions name name

theorem sound_array {items : List Value} :
    env.Sound (.array items) ↔ ∀ v ∈ items, env.Sound v := by
  simp only [Sound, reaches_array]
  constructor
  · exact fun h v hv name hreach => h name ⟨v, hv, hreach⟩
  · exact fun h name ⟨v, hv, hreach⟩ => h v hv name hreach

theorem sound_of_isClosed (h : v.isClosed) : env.Sound v :=
  fun _ hreach => absurd hreach (not_reaches_of_isClosed h)

/-- A variable is sound if its definition is, and does not come back to it. -/
theorem sound_reference {resolving : List String} :
    (env.Sound (.reference name) ∧
        ∀ name', env.Reaches (.reference name) name' → name' ∉ resolving) ↔
      name ∉ resolving ∧ ∃ v, env.lookup name = some v ∧
        env.Sound v ∧ ∀ name', env.Reaches v name' → name' ∉ name :: resolving := by
  have hself : env.Reaches (.reference name) name := reaches_reference.mpr (.inl rfl)
  constructor
  · rintro ⟨hsound, hfree⟩
    obtain ⟨v, hlookup⟩ := Option.isSome_iff_exists.mp (hsound name hself).1
    have hreaches : ∀ name', env.Reaches v name' → env.Reaches (.reference name) name' :=
      fun name' h => reaches_reference.mpr (.inr ((transGen_mentions_iff hlookup).mpr h))
    refine ⟨hfree name hself, v, hlookup, fun name' h => hsound name' (hreaches name' h),
      fun name' h hmem => ?_⟩
    rcases List.mem_cons.mp hmem with rfl | hmem
    · exact (hsound name' hself).2 ((transGen_mentions_iff hlookup).mpr h)
    · exact hfree name' (hreaches name' h) hmem
  · rintro ⟨hnew, v, hlookup, hsound, hfree⟩
    have hreaches : ∀ name', env.Reaches (.reference name) name' →
        name' = name ∨ env.Reaches v name' := by
      intro name' h
      rwa [← transGen_mentions_iff hlookup, ← reaches_reference]
    refine ⟨fun name' h => ?_, fun name' h => ?_⟩
    · obtain rfl | h := hreaches name' h
      · refine ⟨by simp [hlookup], fun hcycle => ?_⟩
        exact hfree name' ((transGen_mentions_iff hlookup).mp hcycle) List.mem_cons_self
      · exact hsound name' h
    · obtain rfl | h := hreaches name' h
      · exact hnew
      · exact fun hmem => hfree name' h (List.mem_cons_of_mem name hmem)

/-! ## Which values are written -/

theorem placeholderIn_of_isClosed {resolving : List String} (h : v.isClosed) :
    ∃ s, env.placeholderIn resolving v = ⟨v.scalars, .ok s⟩ :=
  bindings_of_isClosed v h

theorem placeholderIn_array_ok_iff {resolving : List String} {items : List Value} :
    (∃ s, (env.placeholderIn resolving (.array items)).outcome = .ok s) ↔
      ∀ v ∈ items, ∃ s, (env.placeholderIn resolving v).outcome = .ok s := by
  rw [placeholderIn_eq]
  exact Emit.exists_ok_map_iff.trans Emit.exists_ok_mapM_iff

/-- A variable that has a definition and is not being replaced is written as its definition is. -/
theorem placeholderIn_reference {resolving : List String} (hnew : name ∉ resolving)
    (hlookup : env.lookup name = some v) :
    env.placeholderIn resolving (.reference name) = env.placeholderIn (name :: resolving) v := by
  rw [placeholderIn_eq]
  dsimp only
  rw [if_neg hnew, resolve_eq_ok_iff.mpr hlookup, Emit.ofExcept_ok_bind]

theorem placeholderIn_reference_ok_iff {resolving : List String} :
    (∃ s, (env.placeholderIn resolving (.reference name)).outcome = .ok s) ↔
      name ∉ resolving ∧ ∃ v, env.lookup name = some v ∧
        ∃ s, (env.placeholderIn (name :: resolving) v).outcome = .ok s := by
  constructor
  · rintro ⟨s, hs⟩
    rw [placeholderIn_eq] at hs
    dsimp only at hs
    split at hs
    case isTrue => cases hs
    case isFalse hnew =>
      cases hlookup : env.lookup name with
      | none =>
        rw [resolve, hlookup] at hs
        cases hs
      | some v =>
        rw [resolve_eq_ok_iff.mpr hlookup] at hs
        exact ⟨hnew, v, rfl, s, hs⟩
  · rintro ⟨hnew, v, hlookup, hok⟩
    rwa [placeholderIn_reference hnew hlookup]

/-- **Which values are written.**  Those that are sound and reach no variable that is being
replaced. -/
theorem placeholderIn_ok_iff (env : Env) (resolving : List String) (v : Value) :
    (∃ s, (env.placeholderIn resolving v).outcome = .ok s) ↔
      env.Sound v ∧ ∀ name, env.Reaches v name → name ∉ resolving := by
  induction resolving, v using env.calls_induction with
  | closed resolving v hclosed =>
    obtain ⟨s, hs⟩ : ∃ s, env.placeholderIn resolving v = ⟨v.scalars, .ok s⟩ :=
      placeholderIn_of_isClosed hclosed
    exact iff_of_true ⟨s, congrArg Emit.outcome hs⟩ ⟨sound_of_isClosed hclosed,
      fun name hreach => absurd hreach (not_reaches_of_isClosed hclosed)⟩
  | array resolving items ih =>
    rw [placeholderIn_array_ok_iff, sound_array]
    simp only [reaches_array]
    constructor
    · exact fun h => ⟨fun v hv => ((ih v hv).mp (h v hv)).1,
        fun name ⟨v, hv, hreach⟩ => ((ih v hv).mp (h v hv)).2 name hreach⟩
    · exact fun ⟨hsound, hfree⟩ v hv => (ih v hv).mpr
        ⟨hsound v hv, fun name hreach => hfree name ⟨v, hv, hreach⟩⟩
  | reference resolving name ih =>
    rw [placeholderIn_reference_ok_iff, sound_reference]
    exact and_congr_right fun hnew => exists_congr fun d => and_congr_right fun hlookup =>
      ih d hnew hlookup

/-! ## Replacing variables -/

/-- The value with each of its variables replaced by its definition, once. -/
def replaced (env : Env) (v : Value) : Value :=
  v.substitute fun name => (env.lookup name).getD (.reference name)

theorem replaced_of_isClosed (h : v.isClosed) : env.replaced v = v :=
  Value.substitute_of_isClosed h

theorem replaced_reference (h : env.lookup name = some v) :
    env.replaced (.reference name) = v := by
  rw [replaced, Value.substitute, h, Option.getD_some]

theorem iterate_replaced_array (n : Nat) (items : List Value) :
    env.replaced^[n] (.array items) = .array (items.map env.replaced^[n]) := by
  induction n generalizing items with
  | zero => simp
  | succ n ih =>
    rw [Function.iterate_succ_apply, replaced, Value.substitute, Value.substituteAll_eq_map, ih,
      List.map_map]
    rfl

/-- Once there are no variables, replacing them changes nothing. -/
theorem iterate_replaced_of_le {m n : Nat} (h : (env.replaced^[m] v).isClosed) (hle : m ≤ n) :
    env.replaced^[n] v = env.replaced^[m] v := by
  obtain ⟨k, rfl⟩ := Nat.exists_eq_add_of_le' hle
  rw [Function.iterate_add_apply]
  exact Function.iterate_fixed (replaced_of_isClosed h) k

/-- A definition takes the place of the variable, and so does what it reaches. -/
theorem Reaches.replaced {name' : String} (hmem : name ∈ v.mentioned) {d : Value}
    (hlookup : env.lookup name = some d) (h : env.Reaches d name') :
    env.Reaches (env.replaced v) name' := by
  obtain ⟨first, hfirst, hreach⟩ := h
  refine ⟨first, ?_, hreach⟩
  rw [Env.replaced, Value.mem_mentioned_substitute]
  exact ⟨name, hmem, by rwa [hlookup]⟩

theorem sound_of_replaced (h : env.Sound (env.replaced v)) : env.Sound v := by
  rintro name ⟨first, hfirst, hreach⟩
  cases hlookup : env.lookup first with
  | none =>
    -- an undefined variable stays where it is
    have hstays : env.Reaches (env.replaced v) first := by
      refine ⟨first, ?_, .refl⟩
      rw [replaced, Value.mem_mentioned_substitute]
      exact ⟨first, hfirst, by simp [hlookup, Value.mentioned]⟩
    have hdefined := (h first hstays).1
    rw [hlookup] at hdefined
    exact nomatch hdefined
  | some d =>
    obtain rfl | hreach := Relation.reflTransGen_iff_eq_or_transGen.mp hreach
    · refine ⟨by simp [hlookup], fun hcycle => ?_⟩
      have hself := (transGen_mentions_iff hlookup).mp hcycle
      exact (h name (hself.replaced hfirst hlookup)).2 hcycle
    · exact h name (((transGen_mentions_iff hlookup).mp hreach).replaced hfirst hlookup)

theorem sound_of_iterate {n : Nat} (h : env.Sound (env.replaced^[n] v)) : env.Sound v := by
  induction n generalizing v with
  | zero => exact h
  | succ n ih => exact sound_of_replaced (ih h)

/-- With room for the variables that are not being replaced, all variables of a value that is
written can be replaced, and what is left is written in its place. -/
theorem placeholderIn_iterate {resolving : List String} {left : Nat}
    (hok : ∃ s, (env.placeholderIn resolving v).outcome = .ok s)
    (hleft : (env.names.filter (· ∉ resolving)).length ≤ left) :
    (env.replaced^[left] v).isClosed ∧
      env.placeholderIn resolving v = env.placeholder (env.replaced^[left] v) := by
  induction resolving, v using env.calls_induction generalizing left with
  | closed resolving v hclosed =>
    rw [Function.iterate_fixed (replaced_of_isClosed hclosed)]
    exact ⟨hclosed, placeholderWith_closed v hclosed⟩
  | array resolving items ih =>
    rw [placeholderIn_array_ok_iff] at hok
    have hitems (v : Value) (hv : v ∈ items) := ih v hv (hok v hv) hleft
    rw [iterate_replaced_array]
    refine ⟨?_, ?_⟩
    · rw [Value.isClosed, Value.areClosed_iff, List.forall_mem_map]
      exact fun v hv => (hitems v hv).1
    · change _ = env.placeholderIn [] _
      rw [placeholderIn_eq, placeholderIn_eq]
      dsimp only
      rw [List.mapM_map, Emit.mapM_congr fun v hv => (hitems v hv).2]
      rfl
  | reference resolving name ih =>
    obtain ⟨hnew, d, hlookup, hok⟩ := placeholderIn_reference_ok_iff.mp hok
    have hfewer := length_free_lt (resolve_eq_ok_iff.mpr hlookup) hnew
    obtain ⟨left, rfl⟩ : ∃ k, left = k + 1 := ⟨left - 1, by omega⟩
    rw [Function.iterate_succ_apply, replaced_reference hlookup,
      placeholderIn_reference hnew hlookup]
    exact ih d hnew hlookup hok (by omega)

/-- **Soundness, by replacing.**  A value is sound if replacing its variables comes to an end. -/
theorem sound_iff_exists_isClosed : env.Sound v ↔ ∃ n, (env.replaced^[n] v).isClosed := by
  constructor
  · intro hsound
    have hok := (placeholderIn_ok_iff env [] v).mpr ⟨hsound, fun _ _ => List.not_mem_nil⟩
    exact ⟨_, (placeholderIn_iterate hok (List.length_filter_le _ _)).1⟩
  · rintro ⟨n, hclosed⟩
    exact sound_of_iterate (sound_of_isClosed hclosed)

theorem placeholder_ok_iff : (∃ s, (env.placeholder v).outcome = .ok s) ↔ env.Sound v :=
  (placeholderIn_ok_iff env [] v).trans (and_iff_left fun _ _ => List.not_mem_nil)

/-- **The value that is left** when all variables are replaced is written in the place of a
value. -/
theorem placeholder_of_isClosed {n : Nat} (hclosed : (env.replaced^[n] v).isClosed) :
    env.placeholder v = env.placeholder (env.replaced^[n] v) := by
  have hok := placeholder_ok_iff.mpr (sound_iff_exists_isClosed.mpr ⟨n, hclosed⟩)
  obtain ⟨hclosed', heq⟩ := placeholderIn_iterate hok (List.length_filter_le _ _)
  obtain hle | hle := Nat.le_total n env.names.length
  · rw [← iterate_replaced_of_le hclosed hle]
    exact heq
  · rw [iterate_replaced_of_le hclosed' hle]
    exact heq

/-- A value and what replacing some of its variables comes to are both sound, and then written the
same, or neither is. -/
theorem placeholder_iterate (n : Nat) :
    (env.Sound (env.replaced^[n] v) ↔ env.Sound v) ∧
      (env.Sound v → env.placeholder (env.replaced^[n] v) = env.placeholder v) := by
  have hcommon (hsound : env.Sound v) : ∃ m, (env.replaced^[m] (env.replaced^[n] v)).isClosed ∧
      env.placeholder (env.replaced^[n] v) = env.placeholder v := by
    obtain ⟨m, hclosed⟩ := sound_iff_exists_isClosed.mp hsound
    have hlater : env.replaced^[m] (env.replaced^[n] v) = env.replaced^[m] v := by
      rw [← Function.iterate_add_apply]
      exact iterate_replaced_of_le hclosed (Nat.le_add_right m n)
    rw [← hlater] at hclosed
    refine ⟨m, hclosed, ?_⟩
    rw [placeholder_of_isClosed hclosed, hlater, ← placeholder_of_isClosed (hlater ▸ hclosed)]
  refine ⟨⟨sound_of_iterate, fun hsound => ?_⟩, fun hsound => (hcommon hsound).choose_spec.2⟩
  obtain ⟨m, hclosed, -⟩ := hcommon hsound
  exact sound_iff_exists_isClosed.mpr ⟨m, hclosed⟩

/-! ## Following variables -/

/-- A value is followed to one that replacing variables comes to. -/
theorem exists_iterate_of_follow {left : Nat} {seen : List String} {w : Value}
    (h : env.follow left seen v = .ok w) : ∃ n, w = env.replaced^[n] v := by
  fun_induction Env.follow env left seen v with
  | case1 => cases h
  | case2 => cases h
  | case3 => cases h
  | case4 seen name hnew d left hresolve ih =>
    obtain ⟨n, rfl⟩ := ih h
    refine ⟨n + 1, ?_⟩
    rw [Function.iterate_succ_apply, replaced_reference (resolve_eq_ok_iff.mp hresolve)]
  | case5 => exact ⟨0, (Except.ok.inj h).symm⟩

/-- What is written can be followed. -/
theorem exists_follow {left : Nat} {seen : List String}
    (hok : ∃ s, (env.placeholderIn seen v).outcome = .ok s)
    (hleft : (env.names.filter (· ∉ seen)).length ≤ left) :
    ∃ w, env.follow left seen v = .ok w := by
  by_cases hreference : ∃ name, v = .reference name
  case neg => exact ⟨v, follow_of_ne_reference fun name hv => hreference ⟨name, hv⟩⟩
  case pos =>
    obtain ⟨name, rfl⟩ := hreference
    induction left generalizing seen name with
    | zero =>
      obtain ⟨hnew, d, hlookup, -⟩ := placeholderIn_reference_ok_iff.mp hok
      have hfewer := length_free_lt (resolve_eq_ok_iff.mpr hlookup) hnew
      omega
    | succ left ih =>
      obtain ⟨hnew, d, hlookup, hok⟩ := placeholderIn_reference_ok_iff.mp hok
      have hresolve := resolve_eq_ok_iff.mpr hlookup
      have hfewer := length_free_lt hresolve hnew
      rw [follow_reference, if_neg hnew, hresolve]
      change ∃ w, env.follow left (name :: seen) d = .ok w
      by_cases hnext : ∃ name', d = .reference name'
      · obtain ⟨name', rfl⟩ := hnext
        exact ih (by omega) name' hok
      · exact ⟨d, follow_of_ne_reference fun name' hd => hnext ⟨name', hd⟩⟩

/-- A value may be followed before it is written. -/
theorem resolveValue_bind_placeholder (bs : List Value) (s : String) :
    (Emit.ofExcept (env.resolveValue v) >>= env.placeholder) = ⟨bs, .ok s⟩ ↔
      env.placeholder v = ⟨bs, .ok s⟩ := by
  have hsame {w : Value} (hfollow : env.resolveValue v = .ok w) : (env.Sound w ↔ env.Sound v) ∧
      (env.Sound v → env.placeholder w = env.placeholder v) := by
    obtain ⟨n, rfl⟩ := exists_iterate_of_follow hfollow
    exact placeholder_iterate n
  constructor
  · intro h
    cases hfollow : env.resolveValue v with
    | error e =>
      rw [hfollow] at h
      exact nomatch h
    | ok w =>
      rw [hfollow, Emit.ofExcept_ok_bind] at h
      have hsound : env.Sound w := placeholder_ok_iff.mp ⟨s, congrArg Emit.outcome h⟩
      rw [← h, (hsame hfollow).2 ((hsame hfollow).1.mp hsound)]
  · intro h
    have hok : ∃ s, (env.placeholder v).outcome = .ok s := ⟨s, congrArg Emit.outcome h⟩
    obtain ⟨w, hfollow⟩ := exists_follow hok (List.length_filter_le _ _)
    have hresolve : env.resolveValue v = .ok w := hfollow
    rw [hresolve, Emit.ofExcept_ok_bind, (hsame hresolve).2 (placeholder_ok_iff.mp hok), h]

/-- **Variables are replaced exactly.**  Writing a value comes to an end, by a recursion that no
number bounds.  It succeeds just when every variable that can be reached is defined and none can be
reached from itself; then replacing all variables, again and again, comes to a value without any,
and what is bound is what that one holds, from left to right and without its literals, as many as it
takes up placeholders.  Following the value first makes no difference to what is written. -/
theorem placeholder_exact (env : Env) (v : Value) :
    WellFounded env.Calls ∧ env.placeholder v = env.placeholderIn [] v ∧
    (∀ resolving w, env.placeholderIn resolving w = match w with
      | .literal sql => pure sql
      | .reference name =>
        if name ∈ resolving then Emit.fail (.variableCycle name)
        else Emit.ofExcept (env.resolve name) >>= env.placeholderIn (name :: resolving)
      | .array items => commaList <$> items.mapM (env.placeholderIn resolving)
      | w => do
        Emit.bound w
        return "?") ∧
    ((∃ s, (env.placeholder v).outcome = .ok s) ↔ ∀ name, env.Reaches v name →
      (env.lookup name).isSome ∧ ¬Relation.TransGen env.Mentions name name) ∧
    ((∃ s, (env.placeholder v).outcome = .ok s) ↔ ∃ n, (env.replaced^[n] v).isClosed) ∧
    (∀ n, (env.replaced^[n] v).isClosed →
      (env.placeholder v).bindings = (env.replaced^[n] v).scalars ∧
        (env.placeholder v).bindings.length = (env.replaced^[n] v).slots) ∧
    ∀ bs s, (Emit.ofExcept (env.resolveValue v) >>= env.placeholder) = ⟨bs, .ok s⟩ ↔
      env.placeholder v = ⟨bs, .ok s⟩ := by
  refine ⟨env.wellFounded_calls, rfl, env.placeholderIn_eq, placeholder_ok_iff,
    placeholder_ok_iff.trans sound_iff_exists_isClosed, fun n hclosed => ?_,
    resolveValue_bind_placeholder⟩
  obtain ⟨s, hs⟩ : ∃ s, env.placeholder (env.replaced^[n] v) = ⟨_, .ok s⟩ :=
    placeholderIn_of_isClosed hclosed
  have hbindings : (env.placeholder v).bindings = (env.replaced^[n] v).scalars := by
    rw [placeholder_of_isClosed hclosed, hs]
  exact ⟨hbindings, by rw [hbindings, Value.length_scalars]⟩

/-- Two ways to one variable are no cycle; an array that holds its own variable is one. -/
example :
    let env : Env := { scopes := [[
      [("a", .array [.reference "b", .literal "x", .reference "c"]), ("b", .reference "d"),
        ("c", .reference "d"), ("d", .int 1), ("loop", .array [.reference "loop"])]]] }
    ((env.placeholder (.reference "a")).bindings.map Value.display = ["1", "1"]) ∧
      (env.placeholder (.reference "loop")).outcome.isOk = false := by
  decide +kernel

end Env

end SqlBuilder
