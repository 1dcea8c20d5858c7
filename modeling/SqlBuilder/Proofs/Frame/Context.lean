import SqlBuilder.Render.Env

/-!
# Rendering on a shared context

A compilation can also be carried out on one context that all of its parts share: the scopes of the
queries around the part, the names of the common table expressions, the variables that are being
replaced, and the bindings made so far.  A part that needs surroundings of its own puts them on the
context before it renders something inside and takes them off afterwards (`Rendering.within`,
`Rendering.resolving`), also when the rendering inside has failed, and the bindings of a part that
is used elsewhere are cut off the end of the list (`Rendering.captured`).

Nothing in the type says that a part leaves the context as it found it.
-/

namespace SqlBuilder

/-- What the parts of a compilation share. -/
structure Context where
  /-- The scopes of the queries around the part, innermost first. -/
  scopes : List Scope := []
  /-- The names of the common table expressions. -/
  ctes : List String := []
  /-- The variables that are being replaced, innermost first. -/
  resolving : List String := []
  /-- The values bound so far. -/
  bindings : List Value := []

/-- The surroundings of a part. -/
def Context.env (ctx : Context) : Env where
  scopes := ctx.scopes
  ctes := ctx.ctes

/-- A renderer that works on the shared context. -/
def Rendering (α : Type) : Type :=
  Context → Except Error α × Context

namespace Rendering

variable {α β γ : Type}

/-- A result, the context being left as it is. -/
protected def pure (a : α) : Rendering α :=
  fun ctx => (.ok a, ctx)

/-- One renderer after another; an error ends the rendering where it is. -/
protected def bind (m : Rendering α) (k : α → Rendering β) : Rendering β :=
  fun ctx =>
    match m ctx with
    | (.ok a, ctx) => k a ctx
    | (.error e, ctx) => (.error e, ctx)

instance : Monad Rendering where
  pure := Rendering.pure
  bind := Rendering.bind

instance : LawfulMonad Rendering :=
  LawfulMonad.mk' Rendering
    (fun m => by
      funext ctx
      rcases h : m ctx with ⟨_ | a, ctx'⟩ <;>
        simp [Functor.map, Rendering.bind, Rendering.pure, h])
    (fun _ _ => rfl)
    (fun m k l => by
      funext ctx
      rcases h : m ctx with ⟨_ | a, ctx'⟩ <;> simp [bind, Rendering.bind, h])

variable {m : Rendering α} {ctx ctx' : Context}

theorem bind_of_ok {a : α} (h : m ctx = (.ok a, ctx')) (k : α → Rendering β) :
    (m >>= k) ctx = k a ctx' := by
  change Rendering.bind m k ctx = _
  rw [Rendering.bind, h]

theorem bind_of_error {e : Error} (h : m ctx = (.error e, ctx')) (k : α → Rendering β) :
    (m >>= k) ctx = (.error e, ctx') := by
  change Rendering.bind m k ctx = _
  rw [Rendering.bind, h]

/-! ## The context -/

/-- Ends the rendering. -/
def raise (e : Error) : Rendering α :=
  fun ctx => (.error e, ctx)

/-- An outcome, the context being left as it is. -/
def ofExcept (x : Except Error α) : Rendering α :=
  fun ctx => (x, ctx)

/-- Looks at the context. -/
def read (f : Context → α) : Rendering α :=
  fun ctx => (.ok (f ctx), ctx)

/-- Binds a value. -/
def push (v : Value) : Rendering Unit :=
  fun ctx => (.ok (), { ctx with bindings := ctx.bindings ++ [v] })

/-- Renders something that neither looks at its surroundings nor changes them. -/
def emit (x : Emit α) : Rendering α :=
  fun ctx => (x.outcome, { ctx with bindings := ctx.bindings ++ x.bindings })

/-- Enters a scope, renders something inside, and leaves the innermost scope. -/
def within (scope : Scope) (m : Rendering α) : Rendering α :=
  fun ctx =>
    let (result, ctx) := m { ctx with scopes := scope :: ctx.scopes }
    (result, { ctx with scopes := ctx.scopes.tail })

/-- Renders what a variable stands for; during this the variable is one of those being replaced. -/
def resolving (name : String) (m : Rendering α) : Rendering α :=
  fun ctx =>
    let (result, ctx) := m { ctx with resolving := name :: ctx.resolving }
    (result, { ctx with resolving := ctx.resolving.tail })

/-- Cuts off the bindings that a part has made. -/
def captured (m : Rendering α) : Rendering (α × List Value) := do
  let mark ← read (·.bindings.length)
  let a ← m
  let bindings ← read (·.bindings.drop mark)
  fun ctx => (.ok (a, bindings), { ctx with bindings := ctx.bindings.take mark })

/-! ## Values -/

mutual

/-- Writes a value; `expand` writes the variables in it. -/
def parameterWith (expand : String → Rendering String) : Value → Rendering String
  | .literal sql => pure sql
  | .reference name => expand name
  | .array items => do
    let parts ← parametersWith expand items
    return Env.commaList parts
  | v => do
    push v
    return "?"

/-- Writes the values of a list. -/
def parametersWith (expand : String → Rendering String) : List Value → Rendering (List String)
  | [] => pure []
  | v :: vs => do
    let part ← parameterWith expand v
    let parts ← parametersWith expand vs
    return part :: parts

end

/-- Writes what a variable stands for, unless it is being replaced already. -/
def expandOnce (inside : Value → Rendering String) (name : String) : Rendering String := do
  let pending ← read (·.resolving)
  if name ∈ pending then
    raise (.variableCycle name)
  else
    let env ← read Context.env
    let v ← ofExcept (env.resolve name)
    resolving name (inside v)

/-- Writes what a variable stands for.  The number bounds how many more variables there can be on
the way; it is never met (`Rendering.parameter_eq`). -/
def expand : Nat → String → Rendering String
  | 0, name => expandOnce (fun _ => raise (.variableCycle name)) name
  | left + 1, name => expandOnce (parameterWith (expand left)) name

/-- Writes a value: a `?` for each value that is bound, literals as they are, and nothing for an
empty array. -/
def parameter (v : Value) : Rendering String := do
  let count ← read (·.env.names.length)
  parameterWith (expand count) v

/-- Writes the values of a list, separated by commas. -/
def parameters (vs : List Value) : Rendering String := do
  let parts ← vs.mapM parameter
  return Env.commaList parts

/-- The value that a variable stands for. -/
def resolveValue (v : Value) : Rendering Value := do
  let env ← read Context.env
  ofExcept (env.resolveValue v)

/-! ## Raw SQL -/

/-- Writes the values in the places of the placeholders. -/
def fillValues : List Value → List Token → Rendering (List Char)
  | v :: vs, .mark :: ts => do
    let p ← parameter v
    let rest ← fillValues vs ts
    return p.toList ++ rest
  | vs, t :: ts => do
    let rest ← fillValues vs ts
    return t.written ++ rest
  | _, [] => pure []

/-- Writes raw SQL, which must have a placeholder for each of its values. -/
def raw (d : Dialect) (f : Fragment) : Rendering String := do
  let wrapped := d.wrapMarkers f.expression
  let count := countMarks wrapped
  if count = f.bindings.length then
    let cs ← fillValues f.bindings (Token.scan wrapped.toList)
    return String.ofList cs
  else
    raise (.rawBindingCount f.expression count f.bindings.length)

end Rendering

end SqlBuilder
