import SqlBuilder.Proofs.Alike.Statement

/-!
# Variables and where they are looked up

While a statement is rendered, a variable is looked up among the definitions of all queries around
it before the scopes that they were begun in (`Env.lookup`).  Inside a query that was begun in the
query directly around it this comes to what the query itself says (`Env.Fits.lookup_enter`):
whatever a query further out defines, the scope of the inner one holds already.

Surroundings that fit a scope in this way are what a query that is begun in that scope meets
(`Env.Fits`), and inside of it again what its own subqueries meet.

Values without variables are written the same whatever the scopes are (`Env.placeholder_closed`).
-/

namespace SqlBuilder

theorem Scope.lookup_cons (definitions : Definitions) (around : Scope) (name : String) :
    Scope.lookup (definitions :: around) name =
      (definitions.lookup name).or (around.lookup name) := by
  rw [Scope.lookup, List.findSome?_cons]
  cases definitions.lookup name <;> rfl

namespace Env

variable {env env' : Env} {scope around : Scope} {definitions : Definitions} {name : String}

/-! ## Lookups -/

/-- The value that the queries around define for a variable, the innermost first. -/
def owned (env : Env) (name : String) : Option Value :=
  env.scopes.findSome? fun scope => scope.head?.bind (List.lookup name ·)

/-- The value that the scopes of the queries around hold for a variable. -/
def inherited (env : Env) (name : String) : Option Value :=
  env.scopes.findSome? fun scope => scope.lookup name

theorem lookup_eq_or (env : Env) (name : String) :
    env.lookup name = (env.owned name).or (env.inherited name) := by
  rw [lookup, Option.orElse_eq_orElse, Option.orElse_eq_or]
  rfl

/-- Inside a query, what it defines itself comes first. -/
theorem owned_enter (env : Env) (definitions : Definitions) (around : Scope) (name : String) :
    (env.enter (definitions :: around)).owned name =
      (definitions.lookup name).or (env.owned name) := by
  simp only [owned, enter, List.findSome?_cons, List.head?_cons, Option.bind_some]
  cases definitions.lookup name <;> rfl

theorem inherited_enter (env : Env) (scope : Scope) (name : String) :
    (env.enter scope).inherited name = (scope.lookup name).or (env.inherited name) := by
  simp only [inherited, enter, List.findSome?_cons]
  cases scope.lookup name <;> rfl

/-- Inside a query, what it defines itself comes first, and what its scope holds comes after
everything that is defined around. -/
theorem lookup_enter (env : Env) (definitions : Definitions) (around : Scope) (name : String) :
    (env.enter (definitions :: around)).lookup name =
      (definitions.lookup name).or ((env.owned name).or
        ((around.lookup name).or (env.inherited name))) := by
  rw [lookup_eq_or, owned_enter, inherited_enter, Scope.lookup_cons]
  cases definitions.lookup name with
  | some v => rfl
  | none => rw [Option.none_or, Option.none_or, Option.none_or]

/-- In surroundings that consist of one scope, variables have the values of the scope. -/
theorem lookup_single (henv : env.scopes = [scope]) (name : String) :
    env.owned name = scope.head?.bind (List.lookup name ·) ∧
      env.inherited name = scope.lookup name ∧ env.lookup name = scope.lookup name := by
  have howned : env.owned name = scope.head?.bind (List.lookup name ·) := by
    rw [owned, henv]
    simp
  have hinherited : env.inherited name = scope.lookup name := by
    rw [inherited, henv]
    simp
  refine ⟨howned, hinherited, ?_⟩
  rw [lookup_eq_or, howned, hinherited]
  cases scope with
  | nil => rfl
  | cons definitions around =>
    rw [Scope.lookup_cons, List.head?_cons, Option.bind_some]
    cases definitions.lookup name <;> rfl

/-! ## Surroundings that fit a scope -/

/-- Inside a query that is begun in the scope, the surroundings add nothing to it: whatever they
define, the scope holds. -/
def Fits (env : Env) (around : Scope) : Prop :=
  ∀ name, (env.owned name).or ((around.lookup name).or (env.inherited name)) = around.lookup name

namespace Fits

/-- Inside a query that was begun in a fitting scope, variables have the values that they have in
the scope of the query. -/
theorem lookup_enter (h : env.Fits around) (definitions : Definitions) (name : String) :
    (env.enter (definitions :: around)).lookup name =
      Scope.lookup (definitions :: around) name := by
  rw [Env.lookup_enter, h name, Scope.lookup_cons]

/-- Nothing is around a statement. -/
theorem outermost (ctes : List String) (around : Scope) : Fits ⟨[], ctes⟩ around := by
  intro name
  change Option.or none ((around.lookup name).or none) = _
  rw [Option.none_or, Option.or_none]

/-- Surroundings in which variables have the values of a scope fit it. -/
theorem of_lookup (h : ∀ name, env.lookup name = scope.lookup name) : env.Fits scope := by
  intro name
  have hname := h name
  rw [lookup_eq_or] at hname
  cases howned : env.owned name with
  | some v =>
    rw [howned, Option.some_or] at hname
    rw [Option.some_or, hname]
  | none =>
    rw [howned, Option.none_or] at hname
    rw [Option.none_or, hname]
    cases scope.lookup name <;> rfl

/-- A query may be entered again. -/
theorem lookup_enter_again (h : ∀ name, env.lookup name =
      Scope.lookup (definitions :: around) name) (name : String) :
    (env.enter (definitions :: around)).lookup name =
      Scope.lookup (definitions :: around) name := by
  have hfits := of_lookup h name
  rw [Scope.lookup_cons] at hfits
  rw [Env.lookup_enter, Scope.lookup_cons]
  cases hown : definitions.lookup name with
  | some v => rfl
  | none =>
    rw [hown, Option.none_or] at hfits
    rw [Option.none_or, Option.none_or, hfits]

end Fits

end Env

/-! ## Values without variables -/

namespace Value

mutual

/-- Does the value mention no variable? -/
def isClosed : Value → Bool
  | reference _ => false
  | array items => areClosed items
  | _ => true

/-- Does no value of the list mention a variable? -/
def areClosed : List Value → Bool
  | [] => true
  | v :: vs => v.isClosed && areClosed vs

end

end Value

namespace Env

variable {env env' : Env}

mutual

theorem placeholderWith_closed {expand expand' : String → Emit String} :
    ∀ v : Value, v.isClosed → placeholderWith expand v = placeholderWith expand' v
  | .reference name, h => by simp [Value.isClosed] at h
  | .array items, h => by
    rw [Value.isClosed] at h
    rw [placeholderWith, placeholderWith, placeholdersWith_closed items h]
  | .literal sql, _ => by rw [placeholderWith, placeholderWith]
  | .null, _ | .bool _, _ | .int _, _ | .float _, _ | .decimal _, _ | .text _, _ | .uuid _, _
  | .date _, _ | .time _, _ | .timestamp _, _ | .timestampUtc _, _ | .bytes _, _ | .json _, _ => by
    rw [placeholderWith, placeholderWith] <;> simp

theorem placeholdersWith_closed {expand expand' : String → Emit String} :
    ∀ vs : List Value, Value.areClosed vs →
      placeholdersWith expand vs = placeholdersWith expand' vs
  | [], _ => by rw [placeholdersWith, placeholdersWith]
  | v :: vs, h => by
    rw [Value.areClosed, Bool.and_eq_true] at h
    rw [placeholdersWith, placeholdersWith, placeholderWith_closed v h.1,
      placeholdersWith_closed vs h.2]

end

/-- A value without variables is written the same in all surroundings. -/
theorem placeholder_closed {v : Value} (h : v.isClosed) : env.placeholder v = env'.placeholder v :=
  placeholderWith_closed v h

end Env

end SqlBuilder
