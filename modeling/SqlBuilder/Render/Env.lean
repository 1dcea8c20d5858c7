import SqlBuilder.Dialect.Identifier
import SqlBuilder.Options
import SqlBuilder.Query.Basic
import SqlBuilder.Render.Emit
import SqlBuilder.Render.Placeholder

/-!
# Values and names in their surroundings

An `Env` is what a part of a statement needs to know of its surroundings: the scopes of the queries
around it, innermost first, and the names of the common table expressions of the statement.

A variable is looked up among the definitions of the queries that are being rendered, innermost
first, and then in the scopes that these queries were begun in (`Env.resolve`).  `Env.placeholder`
writes a value: it binds what can be bound, goes into arrays, and replaces variables by what they
stand for, as long as no variable stands for itself.

`Env.raw` writes raw SQL, its placeholders replaced by its values, and `Env.wrapTable` the name of a
table with the prefix of the options, which is not put before the name of a common table expression.
-/

namespace SqlBuilder

/-- The surroundings of a part of a statement. -/
structure Env where
  /-- The scopes of the queries around the part, innermost first. -/
  scopes : List Scope := []
  /-- The names of the common table expressions. -/
  ctes : List String := []

namespace Env

/-- The surroundings inside a query with the given scope. -/
def enter (env : Env) (scope : Scope) : Env :=
  { env with scopes := scope :: env.scopes }

/-! ## Variables -/

/-- The value of a variable: the definitions of the queries around come first, innermost first, and
then those that their scopes hold besides. -/
def lookup (env : Env) (name : String) : Option Value :=
  env.scopes.findSome? (fun scope => scope.head?.bind (List.lookup name ·)) <|>
    env.scopes.findSome? (fun scope => scope.lookup name)

/-- The value of a variable. -/
def resolve (env : Env) (name : String) : Except Error Value :=
  match env.lookup name with
  | some v => .ok v
  | none => .error (.undefinedVariable name)

/-- The names of all variables that are defined, each of them once. -/
def names (env : Env) : List String :=
  (env.scopes.flatten.flatten.map Prod.fst).eraseDups

/-- Follows a variable to a value that is none.  `seen` holds the variables on the way, and `left`
bounds how many more there can be. -/
def follow (env : Env) : Nat → List String → Value → Except Error Value
  | left, seen, .reference name =>
    if name ∈ seen then
      .error (.variableCycle name)
    else
      match env.resolve name, left with
      | .error e, _ => .error e
      | .ok _, 0 => .error (.variableCycle name)
      | .ok v, left + 1 => env.follow left (name :: seen) v
  | _, _, v => .ok v

/-- Follows a variable to a value that is none. -/
def resolveValue (env : Env) (v : Value) : Except Error Value :=
  env.follow env.names.length [] v

/-! ## Placeholders -/

/-- The texts of a list that are not empty, separated by commas. -/
def commaList (parts : List String) : String :=
  String.intercalate ", " (parts.filter (!·.isEmpty))

mutual

/-- Writes a value; `expand` writes the variables in it. -/
def placeholderWith (expand : String → Emit String) : Value → Emit String
  | .literal sql => pure sql
  | .reference name => expand name
  | .array items => do
    let parts ← placeholdersWith expand items
    return commaList parts
  | v => do
    Emit.bound v
    return "?"

/-- Writes the values of a list. -/
def placeholdersWith (expand : String → Emit String) : List Value → Emit (List String)
  | [] => pure []
  | v :: vs => do
    let part ← placeholderWith expand v
    let parts ← placeholdersWith expand vs
    return part :: parts

end

/-- Writes what a variable stands for.  `resolving` holds the variables being replaced, and `left`
bounds how many more there can be. -/
def expandReference (env : Env) : Nat → List String → String → Emit String
  | left, resolving, name =>
    if name ∈ resolving then
      Emit.fail (.variableCycle name)
    else
      match env.resolve name, left with
      | .error e, _ => Emit.fail e
      | .ok _, 0 => Emit.fail (.variableCycle name)
      | .ok v, left + 1 => placeholderWith (env.expandReference left (name :: resolving)) v

/-- Writes a value: a `?` for each value that is bound, literals as they are, and nothing for an
empty array. -/
def placeholder (env : Env) (v : Value) : Emit String :=
  placeholderWith (env.expandReference env.names.length []) v

/-- Writes the values of a list, separated by commas. -/
def placeholders (env : Env) (vs : List Value) : Emit String := do
  let parts ← vs.mapM env.placeholder
  return commaList parts

/-! ## Raw SQL -/

/-- Writes the values in the places of the placeholders. -/
def fillValues (env : Env) : List Value → List Token → Emit (List Char)
  | v :: vs, .mark :: ts => do
    let p ← env.placeholder v
    let rest ← env.fillValues vs ts
    return p.toList ++ rest
  | vs, t :: ts => do
    let rest ← env.fillValues vs ts
    return t.written ++ rest
  | _, [] => pure []

/-- Writes raw SQL, which must have a placeholder for each of its values. -/
def raw (d : Dialect) (env : Env) (f : Fragment) : Emit String := do
  let wrapped := d.wrapMarkers f.expression
  let count := countMarks wrapped
  if count = f.bindings.length then
    let cs ← env.fillValues f.bindings (Token.scan wrapped.toList)
    return String.ofList cs
  else
    Emit.fail (.rawBindingCount f.expression count f.bindings.length)

/-! ## Tables -/

/-- A table name with the prefix before its last part, unless it names a common table expression. -/
def prefixed (t : Target) (env : Env) (name : String) : String :=
  if name ∈ env.ctes then
    name
  else
    match t.options.tablePrefix with
    | none => name
    | some p =>
      match Text.splitLast? '.' name with
      | some (schema, table) => schema ++ "." ++ p ++ table
      | none => p ++ name

/-- A reference to a table, which may carry an alias. -/
def wrapTable (t : Target) (env : Env) (table : String) : String :=
  match Text.splitAlias? table with
  | some (name, aliasName) =>
    t.dialect.wrap (env.prefixed t name) ++ " " ++ t.dialect.aliasKeyword ++
      t.dialect.quoteIdentifier aliasName
  | none => t.dialect.wrap (env.prefixed t (Text.trim table))

end Env

end SqlBuilder
