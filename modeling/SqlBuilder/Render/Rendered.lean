import SqlBuilder.Query.Sections
import SqlBuilder.Render.Env

/-!
# Rendered subqueries

What an enclosing statement can ask of a subquery: its text as a select, as the operand of EXISTS,
as a group of conditions or as the filter of an aggregate, and the common table expressions that it
wants defined.  Each text is rendered in surroundings that the enclosing statement hands in.
-/

namespace SqlBuilder

/-- A common table expression: its name, and the text between its parentheses. -/
structure Cte where
  aliasName : Option String
  body : Env → Emit String

instance : Aliased Cte where
  alias? := Cte.aliasName

/-- What an enclosing statement can ask of a subquery. -/
structure Rendered where
  aliasName : Option String
  /-- Does the dialect see a source of rows in it? -/
  hasSource : Bool
  select : Env → Emit String
  existsOperand : Env → Emit String
  /-- Its conditions, if the dialect sees any. -/
  group : Env → Emit (Option String)
  /-- Its conditions on rows, or nothing. -/
  filter : Env → Emit String
  /-- The common table expressions of the query and of their bodies, innermost first. -/
  ctes : List Cte

instance : Aliased Rendered where
  alias? := Rendered.aliasName

end SqlBuilder
