import SqlBuilder.Error
import SqlBuilder.Value.Basic

/-!
# Emitting text with bindings

Rendering a part of a statement gives its text together with the values for the placeholders in it.
`Emit` is the monad of such results: in a sequence the bindings follow one another, and after an
error nothing more is bound, but what was bound before it is kept.  A part neither sees nor changes
the bindings around it.

`Emit.capture` takes the bindings out of a finished part, for a caller that places them elsewhere.
-/

namespace SqlBuilder

/-- A result with the values bound on the way to it. -/
structure Emit (α : Type) where
  bindings : List Value
  outcome : Except Error α

namespace Emit

variable {α β : Type}

/-- A result without bindings. -/
protected def pure (a : α) : Emit α :=
  ⟨[], .ok a⟩

/-- One result after another; the bindings of the first come first. -/
protected def bind (x : Emit α) (f : α → Emit β) : Emit β :=
  match x.outcome with
  | .ok a => ⟨x.bindings ++ (f a).bindings, (f a).outcome⟩
  | .error e => ⟨x.bindings, .error e⟩

instance : Monad Emit where
  pure := Emit.pure
  bind := Emit.bind

/-- An error, with nothing bound. -/
def fail (e : Error) : Emit α :=
  ⟨[], .error e⟩

/-- A result that binds nothing. -/
def ofExcept (x : Except Error α) : Emit α :=
  ⟨[], x⟩

/-- Binds a value. -/
def bound (v : Value) : Emit Unit :=
  ⟨[v], .ok ()⟩

/-- A finished result together with its bindings, which are no longer bound. -/
def capture (x : Emit α) : Emit (α × List Value) :=
  match x.outcome with
  | .ok a => ⟨[], .ok (a, x.bindings)⟩
  | .error e => ⟨x.bindings, .error e⟩

/-! ## Laws -/

@[simp] theorem bindings_pure (a : α) : (pure a : Emit α).bindings = [] := rfl

@[simp] theorem outcome_pure (a : α) : (pure a : Emit α).outcome = .ok a := rfl

theorem bind_of_ok {x : Emit α} {a : α} (h : x.outcome = .ok a) (f : α → Emit β) :
    (x >>= f) = ⟨x.bindings ++ (f a).bindings, (f a).outcome⟩ := by
  change Emit.bind x f = _
  simp [Emit.bind, h]

theorem bind_of_error {x : Emit α} {e : Error} (h : x.outcome = .error e) (f : α → Emit β) :
    (x >>= f) = ⟨x.bindings, .error e⟩ := by
  change Emit.bind x f = _
  simp [Emit.bind, h]

instance : LawfulMonad Emit :=
  LawfulMonad.mk' Emit
    (fun x => by
      rcases x with ⟨bs, _ | a⟩ <;> simp [Functor.map, Emit.bind, Emit.pure])
    (fun a f => by simp [bind, pure, Emit.bind, Emit.pure])
    (fun x f g => by
      rcases x with ⟨bs, _ | a⟩
      · simp [bind, Emit.bind]
      · rcases h : f a with ⟨bs', _ | b⟩ <;> simp [bind, Emit.bind, h])

end Emit

end SqlBuilder
