import SqlBuilder.Render.Statement
import SqlBuilder.Value.Display

/-!
# Compiling

`compile` renders a query for a target and then names its parameters (`bind`): every placeholder is
written the way the target wants it, and the values get the names of their parameters.  A query
with an error compiles to that error.

Parameters are numbered with 64 bits.  A build without overflow checks, which is what `compile`
describes, goes on from zero after the largest number; one with such checks does not go on at all
(`compileChecked`).

`Compiled.interpolated` is the statement with its values written out, for people to read.
-/

namespace SqlBuilder

open Number

/-! ## Parameters -/

/-- How parameters are written. -/
inductive ParamStyle where
  /-- As `?`; the values are still given names. -/
  | positional
  /-- By a prefix and a number, counted from `base`. -/
  | numbered (start : String) (base : UInt64)
deriving DecidableEq

namespace ParamStyle

/-- The name of a parameter. -/
def name : ParamStyle → Nat → String
  | positional, i => "p" ++ natText i
  | numbered start base, i => start ++ natText (base + .ofNat i).toNat

/-- A parameter in SQL. -/
def mark : ParamStyle → Nat → List Char
  | positional, _ => ['?']
  | style, i => (style.name i).toList

/-- Do the numbers of so many parameters all fit in 64 bits? -/
def Fits : ParamStyle → Nat → Prop
  | positional, _ => True
  | numbered _ base, count => base.toNat + count ≤ UInt64.size

instance (style : ParamStyle) (count : Nat) : Decidable (style.Fits count) :=
  match style with
  | positional => inferInstanceAs (Decidable True)
  | numbered _ _ => inferInstanceAs (Decidable (_ ≤ _))

end ParamStyle

/-- How the parameters of a target are written. -/
def Target.paramStyle (t : Target) : ParamStyle :=
  let start := match t.options.parameterPrefix with
    | some "?" => none
    | some p => some p
    | none => t.dialect.parameterPrefix?
  match start with
  | some p => .numbered p t.options.parameterBase
  | none => .positional

/-! ## Compiled statements -/

/-- Puts a named value in the place of one with the same name, or at the end. -/
def putNamed (name : String) (value : Value) : List (String × Value) → List (String × Value)
  | [] => [(name, value)]
  | (n, v) :: rest =>
    if n = name then (name, value) :: rest else (n, v) :: putNamed name value rest

/-- A statement with the values of its parameters. -/
structure Compiled where
  /-- The statement with a `?` for each value. -/
  rawSql : String
  /-- The statement with the parameters of the target. -/
  sql : String
  bindings : List Value
  /-- The values by the names of their parameters. -/
  namedBindings : List (String × Value)

/-- Names the parameters of a rendered statement, which must have a placeholder for each value. -/
def bind (rawSql : String) (bindings : List Value) (style : ParamStyle) : Except Error Compiled :=
  let count := countMarks rawSql
  if count = bindings.length then
    .ok
      { rawSql
        sql := String.ofList (fillMarks Token.final style.mark 0 (Token.scan rawSql.toList))
        bindings
        namedBindings :=
          bindings.zipIdx.foldl (fun named (v, i) => putNamed (style.name i) v named) [] }
  else
    .error (.bindingCount count bindings.length)

/-- The statement with its values written out; placeholders beyond the last value stay. -/
def Compiled.interpolated (c : Compiled) : String :=
  let text (i : Nat) := match c.bindings[i]? with
    | some v => v.display.toList
    | none => ['?']
  String.ofList (fillMarks Token.final text 0 (Token.scan c.rawSql.toList))

/-! ## Compilation -/

/-- Renders a query and names its parameters. -/
def compile (t : Target) (q : Query) : Except Error Compiled :=
  match q.error with
  | some e => .error e
  | none =>
    let rendered := renderMethod t {} (q.sections t)
    match rendered.outcome with
    | .ok rawSql => bind rawSql rendered.bindings t.paramStyle
    | .error e => .error e

/-- The number of the placeholders that get a parameter: those of the rendered query, if there is
one, whether or not there are as many values. -/
def parameterCount (t : Target) (q : Query) : Nat :=
  match q.error, (renderMethod t {} (q.sections t)).outcome with
  | none, .ok rawSql => countMarks rawSql
  | _, _ => 0

/-- What a build with overflow checks compiles a query to, unless it stops at the number of a
parameter. -/
def compileChecked (t : Target) (q : Query) : Option (Except Error Compiled) :=
  if t.paramStyle.Fits (parameterCount t q) then some (compile t q) else none

/-- Compiles a query as another statement. -/
def compileAs (t : Target) (method : Method) (q : Query) : Except Error Compiled :=
  compile t { q with method }

end SqlBuilder
