import SqlBuilder.Proofs.Frame.Expansion

/-!
# Alike surroundings

Surroundings are alike if every variable has the same value in both and both know the same common
table expressions (`Env.Alike`).  How the scopes are stacked makes no difference then: values are
written the same.

The scopes do show in one other place, the bound on how many variables there can be on the way to a
value, which counts the names that are defined.  As that bound is never met, both sides can be given
the larger one.
-/

namespace SqlBuilder

theorem Emit.mapM_congr {α β : Type} {f g : α → Emit β} {xs : List α}
    (h : ∀ x ∈ xs, f x = g x) : xs.mapM f = xs.mapM g := by
  induction xs with
  | nil => rfl
  | cons x xs ih =>
    obtain ⟨hx, hxs⟩ := List.forall_mem_cons.mp h
    rw [List.mapM_cons, List.mapM_cons, hx, ih hxs]

namespace Env

variable {env env' : Env}

/-- In both surroundings every variable has the same value, and the same names are those of common
table expressions. -/
structure Alike (env env' : Env) : Prop where
  lookup : ∀ name, env.lookup name = env'.lookup name
  ctes : env.ctes = env'.ctes

/-! ## Bounds that leave room -/

theorem follow_of_le {bound : Nat} (hbound : env.names.length ≤ bound) (v : Value) :
    env.follow bound [] v = env.resolveValue v := by
  obtain ⟨extra, rfl⟩ := Nat.exists_eq_add_of_le hbound
  induction extra with
  | zero => rfl
  | succ extra ih =>
    have hroom : (env.names.filter (· ∉ ([] : List String))).length ≤ env.names.length + extra :=
      Nat.le_trans (List.length_filter_le _ _) (Nat.le_add_right _ _)
    rw [← Nat.add_assoc, follow_succ hroom, ih (Nat.le_add_right _ _)]

theorem expandReference_of_le {bound : Nat} (hbound : env.names.length ≤ bound) (name : String) :
    env.expandReference bound [] name = env.expandReference env.names.length [] name := by
  obtain ⟨extra, rfl⟩ := Nat.exists_eq_add_of_le hbound
  induction extra with
  | zero => rfl
  | succ extra ih =>
    have hroom : (env.names.filter (· ∉ ([] : List String))).length ≤ env.names.length + extra :=
      Nat.le_trans (List.length_filter_le _ _) (Nat.le_add_right _ _)
    rw [← Nat.add_assoc, expandReference_succ hroom, ih (Nat.le_add_right _ _)]

/-- A value is written with any bound that leaves room. -/
theorem placeholder_of_le {bound : Nat} (hbound : env.names.length ≤ bound) (v : Value) :
    env.placeholder v = placeholderWith (env.expandReference bound []) v := by
  rw [placeholder, funext (expandReference_of_le hbound)]

/-! ## Values that are written the same -/

section Values

variable {vs : List Value} (h : ∀ v ∈ vs, env.placeholder v = env'.placeholder v)

include h

theorem placeholders_congr : env.placeholders vs = env'.placeholders vs := by
  rw [placeholders, placeholders, Emit.mapM_congr h]

theorem fillValues_congr (ts : List Token) : env.fillValues vs ts = env'.fillValues vs ts := by
  induction ts generalizing vs with
  | nil =>
    unfold fillValues
    cases vs <;> rfl
  | cons t ts ih =>
    unfold fillValues
    cases vs with
    | nil => simp only [ih h]
    | cons v vs =>
      obtain ⟨hv, hvs⟩ := List.forall_mem_cons.mp h
      cases t with
      | mark => simp only [hv, ih hvs]
      | escaped => simp only [ih h]
      | char c => simp only [ih h]

end Values

/-- Raw SQL is written the same if its values are. -/
theorem raw_congr {f : Fragment} (h : ∀ v ∈ f.bindings, env.placeholder v = env'.placeholder v)
    (d : Dialect) : env.raw d f = env'.raw d f := by
  have hfill : env.fillValues f.bindings = env'.fillValues f.bindings :=
    funext (fillValues_congr h)
  simp only [raw, hfill]

namespace Alike

theorem refl (env : Env) : Alike env env :=
  ⟨fun _ => rfl, rfl⟩

variable (h : Alike env env')

include h

theorem resolve (name : String) : env.resolve name = env'.resolve name := by
  simp only [Env.resolve, h.lookup]

/-! ## Values -/

theorem follow (left : Nat) (seen : List String) (v : Value) :
    env.follow left seen v = env'.follow left seen v := by
  induction left generalizing seen v with
  | zero =>
    cases v with
    | reference name =>
      unfold Env.follow
      rw [h.resolve]
      cases env'.resolve name <;> rfl
    | _ => rfl
  | succ left ih =>
    cases v with
    | reference name =>
      unfold Env.follow
      rw [h.resolve]
      cases env'.resolve name with
      | error e => rfl
      | ok w => simp only [ih]
    | _ => rfl

/-- A variable is followed to the same value. -/
theorem resolveValue (v : Value) : env.resolveValue v = env'.resolveValue v := by
  let bound := max env.names.length env'.names.length
  calc
    env.resolveValue v = env.follow bound [] v := (follow_of_le (Nat.le_max_left _ _) v).symm
    _ = env'.follow bound [] v := h.follow bound [] v
    _ = env'.resolveValue v := follow_of_le (Nat.le_max_right _ _) v

theorem expandReference (left : Nat) (resolving : List String) (name : String) :
    env.expandReference left resolving name = env'.expandReference left resolving name := by
  induction left generalizing resolving name with
  | zero =>
    unfold Env.expandReference
    rw [h.resolve]
    cases env'.resolve name <;> rfl
  | succ left ih =>
    unfold Env.expandReference
    rw [h.resolve]
    cases env'.resolve name with
    | error e => rfl
    | ok v => simp only [funext (ih (name :: resolving))]

/-- A value is written the same. -/
theorem placeholder (v : Value) : env.placeholder v = env'.placeholder v := by
  let bound := max env.names.length env'.names.length
  rw [placeholder_of_le (Nat.le_max_left _ _ : _ ≤ bound),
    placeholder_of_le (Nat.le_max_right _ _ : _ ≤ bound), funext (h.expandReference bound [])]

end Alike

end Env

end SqlBuilder
