import SqlBuilder.Render.Select

/-!
# Rendering common table expressions

The common table expressions of a statement are defined in one WITH at its front: those of the query
itself and those of their bodies, the inner ones first, and of several with one name the first
(`distinctCtes`).  A body is then rendered as a select without a WITH of its own.
-/

namespace SqlBuilder

variable (t : Target)

/-! ## Rows written out -/

/-- Cuts a list into pieces of a given length. -/
def pieces {α : Type} (width : Nat) : List α → List (List α)
  | [] => []
  | a :: as =>
    match pieces width as with
    | [] => [[a]]
    | p :: ps => if (as.length) % width = 0 then [a] :: p :: ps else (a :: p) :: ps

/-- Rows as a table of values, with the names of its columns. -/
def renderValuesTable (env : Env) (columns : List String) (rows : List (List Value)) :
    Emit String := do
  let names := String.intercalate ", " (columns.map t.dialect.quoteIdentifier)
  let rows ← rows.mapM fun row => do
    let list ← env.placeholders row
    return "(" ++ list ++ ")"
  return "SELECT " ++ names ++ " FROM (VALUES " ++ String.intercalate ", " rows ++ ") " ++
    t.dialect.aliasKeyword ++ "tbl (" ++ names ++ ")"

/-- The source of a select without rows of its own, with the space before it. -/
def dummySource (d : Dialect) : String :=
  match d.dummyTable? with
  | some table => " FROM " ++ table
  | none => ""

/-- One row as a select of its cells. -/
def renderRowSelect (env : Env) (columns : List String) (row : List Value) : Emit String := do
  let cells ← (row.zip columns).mapM fun (value, column) => do
    let p ← env.placeholder value
    return p ++ " " ++ t.dialect.aliasKeyword ++ t.dialect.quoteIdentifier column
  return "SELECT " ++ String.intercalate ", " cells ++ dummySource t.dialect

/-- Rows written out, in the style of the dialect. -/
def renderRows (env : Env) (columns : List String) (values : List Value) : Emit String :=
  if columns.isEmpty ∨ values.isEmpty ∨ values.length % columns.length ≠ 0 then
    Emit.fail .incompleteRows
  else
    let rows := pieces columns.length values
    match t.dialect.rowsStyle with
    | .valuesTable => renderValuesTable t env columns rows
    | .unionAll => do
      let selects ← rows.mapM (renderRowSelect t env columns)
      return String.intercalate " UNION ALL " selects

/-! ## Bodies -/

/-- The body of a common table expression. -/
def Source.renderBody (env : Env) : Source Rendered → Emit String
  | .table name => return "SELECT * FROM " ++ env.wrapTable t name
  | .query sub => sub.select env
  | .raw _ fragment => env.raw t.dialect fragment
  | .rows _ columns values => renderRows t env columns values

/-- The common table expressions that a source brings along: those of its query, and itself. -/
def Source.ctes (s : Source Rendered) : List Cte :=
  let inner := match s with
    | .query sub => sub.ctes
    | _ => []
  inner ++ [⟨s.alias?, fun env => s.renderBody t env⟩]

/-- The common table expressions of a statement and of their bodies, the inner ones first. -/
def Sections.allCtes (s : Sections Rendered) : List Cte :=
  s.ctes.flatMap (Source.ctes t)

/-- Keeps the first of several common table expressions with one name.  `names` holds the names that
stand before the list. -/
def distinctCtes {γ : Type} [Aliased γ] (names : List String) : List γ → List γ
  | [] => []
  | c :: cs =>
    match Aliased.alias? c with
    | none => c :: distinctCtes names cs
    | some a => if a ∈ names then distinctCtes names cs else c :: distinctCtes (a :: names) cs

/-- The names of common table expressions. -/
def cteNames {γ : Type} [Aliased γ] (cs : List γ) : List String :=
  cs.filterMap Aliased.alias?

/-! ## The prologue -/

/-- A common table expression with its name. -/
def Cte.render (env : Env) (c : Cte) : Emit String :=
  match c.aliasName with
  | none => Emit.fail .cteWithoutAlias
  | some a => do
    let body ← c.body env
    return t.dialect.quoteIdentifier a ++ " AS (" ++ body ++ ")"

/-- The WITH of a statement, or nothing without common table expressions. -/
def renderPrologue (env : Env) (cs : List Cte) : Emit String := do
  let parts ← cs.mapM (Cte.render t env)
  return keywordList "WITH " ", " parts

end SqlBuilder
