import SqlBuilder.Query.Fold
import SqlBuilder.Render.Mutation
import SqlBuilder.Render.Table

/-!
# Rendering statements

A query is rendered from the inside out: `Subquery.rendered` folds it into what an enclosing
statement can ask of it, and `Query.sections` is the outermost layer with its subqueries rendered.
`renderStatement` writes a select or a mutation with the WITH before it, and `renderMethod` any
statement.
-/

namespace SqlBuilder

variable (t : Target)

/-! ## Subqueries -/

/-- The conditions of a group: those on rows, or those on groups when there are none. -/
def renderGroup (env : Env) (s : Sections Rendered) : Emit (Option String) :=
  let render (cs : List (Condition Rendered)) : Emit (Option String) := do
    let sql ← renderConditions t (env.enter s.scope) cs
    return if sql.isEmpty then none else some sql
  if s.hasFilters then render s.filters
  else if s.hasHavings then render s.havings
  else return none

/-- What an enclosing statement can ask of a query. -/
def Rendered.of (s : Sections Rendered) : Rendered where
  aliasName := s.aliasName
  hasSource := s.hasSource
  select env := renderSelect t env s
  existsOperand env := renderSelect t env s.trimmed
  group env := renderGroup t env s
  filter env := renderConditions t (env.enter s.scope) s.filters
  ctes := s.allCtes t

/-- A subquery, rendered from the inside out. -/
def Subquery.rendered : Subquery → Rendered :=
  Subquery.fold fun layer => Rendered.of t (Sections.of t.dialect layer)

/-- What a query says to the dialect, its subqueries rendered. -/
def Query.sections (q : Query) : Sections Rendered :=
  Sections.of t.dialect (q.map (Subquery.rendered t))

/-- Rendering goes layer by layer. -/
theorem Subquery.rendered_mk (q : Query) :
    Subquery.rendered t ⟨q⟩ = Rendered.of t (q.sections t) := by
  simp [Subquery.rendered, Subquery.fold_mk, Query.sections]

/-! ## Statements -/

/-- The common table expressions that a statement defines. -/
def Sections.hoistedCtes (s : Sections Rendered) : List Cte :=
  distinctCtes [] (s.allCtes t)

/-- A select or a mutation without the WITH before it. -/
def renderData (env : Env) (s : Sections Rendered) : Emit String :=
  match s.method with
  | .select | .aggregate => renderBody t env s
  | .insert => renderInsert t env s
  | .update => renderUpdate t env s
  | .delete => renderDelete t env s
  | method => Emit.fail (.notDataStatement method)

/-- The surroundings inside a statement: its scope, and the names of its common table
expressions. -/
def Env.enterStatement (env : Env) (s : Sections Rendered) : Env :=
  { env.enter s.scope with ctes := env.ctes ++ cteNames (s.hoistedCtes t) }

/-- A select or a mutation with the WITH before it. -/
def renderStatement (env : Env) (s : Sections Rendered) : Emit String := do
  let env := env.enterStatement t s
  let prologue ← renderPrologue t env (s.hoistedCtes t)
  let body ← renderData t env s
  return joinSections [prologue, body]

/-- Any statement. -/
def renderMethod (env : Env) (s : Sections Rendered) : Emit String :=
  match s.method with
  | .createTable => Emit.ofExcept (renderCreateTable t env s)
  | .createTableAs => renderCreateTableAs t (env.enter s.scope) s
  | .dropTable => Emit.ofExcept (renderDropTable t env s)
  | .truncateTable => Emit.ofExcept (renderTruncateTable t env s)
  | _ => renderStatement t env s

end SqlBuilder
