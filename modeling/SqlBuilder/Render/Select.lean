import SqlBuilder.Render.Condition
import SqlBuilder.Render.Paging

/-!
# Rendering selects

A select is its sections in a fixed order, each with its own renderer; sections without a text are
left out (`renderSections`).  `renderSelect` chooses the form of the statement: an aggregate takes
the form of a select first, and the paging styles that count rows go around the whole select.
-/

namespace SqlBuilder

variable (t : Target) (env : Env)

/-- Texts that are not empty, separated by spaces. -/
def joinSections (parts : List String) : String :=
  String.intercalate " " (parts.filter (!·.isEmpty))

/-- A keyword before a list, or nothing for an empty list. -/
def keywordList (keyword separator : String) (parts : List String) : String :=
  if parts.isEmpty then "" else keyword ++ String.intercalate separator parts

/-- A keyword before a text, or nothing for an empty text. -/
def keywordText (keyword sql : String) : String :=
  if sql.isEmpty then "" else keyword ++ sql

/-! ## Columns -/

/-- The alias after a column or a table, with the space before it. -/
def aliasSuffix (d : Dialect) : Option String → String
  | some a => " " ++ d.aliasKeyword ++ d.quoteIdentifier a
  | none => ""

/-- A column and the alias that it carries. -/
def columnParts (column : String) : String × Option String :=
  match Text.splitAlias? column with
  | some (name, aliasName) => (name, some aliasName)
  | none => (column, none)

/-- A function over the rows that fulfil the conditions, if there are any. -/
def filteredCall (d : Dialect) (function : AggregateFunc) (argument conditions : String) : String :=
  if conditions.isEmpty then
    function.text ++ "(" ++ argument ++ ")"
  else if d.hasFilterClause then
    function.text ++ "(" ++ argument ++ ") FILTER (WHERE " ++ conditions ++ ")"
  else
    function.text ++ "(CASE WHEN " ++ conditions ++ " THEN " ++ argument ++ " END)"

/-- The conditions on the rows of an aggregated column. -/
def renderColumnFilter : Option Rendered → Emit String
  | some sub => sub.filter env
  | none => return ""

/-- A column in SQL. -/
def Column.render : Column Rendered → Emit String
  | .named name => return t.dialect.wrap name
  | .raw fragment => env.raw t.dialect fragment
  | .query sub => do
    let sql ← sub.select env
    return "(" ++ sql ++ ")" ++ aliasSuffix t.dialect sub.aliasName
  | .aggregated function column filter => do
    let (name, aliasName) := columnParts column
    let conditions ← renderColumnFilter env filter
    return filteredCall t.dialect function (t.dialect.wrap name) conditions ++
      aliasSuffix t.dialect aliasName

/-- The function of a column as a column of its own, named for the function. -/
def aggregateColumn (d : Dialect) (function : AggregateFunc) (column : String) : String :=
  function.text ++ "(" ++ d.wrap column ++ ") " ++ d.aliasKeyword ++
    d.quoteIdentifier function.resultName

/-- Is the select list one of columns, and not of an aggregate? -/
def Sections.listsColumns {σ : Type} (s : Sections σ) : Bool :=
  s.aggregate.isNone

/-- The select list. -/
def renderSelectList (s : Sections Rendered) : Emit String :=
  match s.aggregate with
  | some ⟨function, [column]⟩ => return aggregateColumn t.dialect function column
  | some _ => return "1"
  | none => do
    let columns ← s.columns.mapM (Column.render t env)
    return if columns.isEmpty then "*" else String.intercalate ", " columns

/-- The head of a select, and the paging that is left to write. -/
def renderHead (s : Sections Rendered) : Emit (String × Paging) := do
  let (words, rest) ← Paging.head t.pagination ⟨s.limit, s.offset⟩
  let list ← renderSelectList t env s
  let distinct := if s.distinct && s.listsColumns then "DISTINCT " else ""
  return ("SELECT " ++ words.beforeDistinct ++ distinct ++ words.afterDistinct ++ list, rest)

/-! ## Sources and joins -/

/-- A source of rows with the hints for a table. -/
def Source.render (hints : List TableHint) : Source Rendered → Emit String
  | .table name => return env.wrapTable t name ++ t.dialect.tableHints hints
  | .query sub => do
    let sql ← sub.select env
    return "(" ++ sql ++ ")" ++ aliasSuffix t.dialect sub.aliasName
  | .raw _ fragment => env.raw t.dialect fragment
  | .rows aliasName _ _ => Emit.fail (.rowsOutsideCte aliasName)

/-- The hints after the table of a select. -/
def sourceHints (lock : Option LockMode) : List TableHint :=
  match lock with
  | some mode => if t.dialect.lockIsHint then [.lock mode] else noLockHint
  | none => noLockHint
where
  /-- The hint of the option not to wait for locks. -/
  noLockHint : List TableHint :=
    if t.options.noLock then [.noLock] else []

/-- The FROM section. -/
def renderSource (s : Sections Rendered) : Emit String :=
  match s.source with
  | none => return ""
  | some source => do
    let sql ← source.render t env (sourceHints t s.lock)
    return "FROM " ++ sql

/-- The text of a join.  A cross join is written without its constraints. -/
def joinText (kind : JoinKind) (table constraints : String) : String :=
  if constraints.isEmpty ∨ kind = .cross then
    kind.keyword ++ " " ++ table
  else
    kind.keyword ++ " " ++ table ++ " ON " ++ constraints

/-- A join. -/
def JoinSections.render (j : JoinSections Rendered) : Emit String :=
  match j.target with
  | none => Emit.fail .joinWithoutTable
  | some source => do
    let hints := (if t.options.noLock then [TableHint.noLock] else []) ++
      j.index.toList.map TableHint.index
    let table ← source.render t env hints
    let constraints ← renderConditions t env j.constraints
    return joinText j.kind table constraints

/-- All joins. -/
def renderJoins (s : Sections Rendered) : Emit String := do
  let joins ← s.joins.mapM (JoinSections.render t env)
  return String.intercalate " " joins

/-! ## The other sections -/

/-- The WHERE section. -/
def renderFilters (s : Sections Rendered) : Emit String := do
  let sql ← renderConditions t env s.filters
  return keywordText "WHERE " sql

/-- The GROUP BY section. -/
def renderGroups (s : Sections Rendered) : Emit String := do
  let columns ← s.groups.mapM (Column.render t env)
  return keywordList "GROUP BY " ", " columns

/-- The HAVING section. -/
def renderHavings (s : Sections Rendered) : Emit String := do
  let sql ← renderConditions t env s.havings
  return keywordText "HAVING " sql

/-- One order. -/
def OrderBy.render : OrderBy → Emit String
  | .column name ascending =>
    return t.dialect.wrap name ++ (if ascending then "" else " DESC")
  | .random seed => return t.dialect.randomOrder seed
  | .raw fragment => env.raw t.dialect fragment

/-- The ORDER BY section. -/
def renderOrders (s : Sections Rendered) : Emit String := do
  let orders ← s.orders.mapM (OrderBy.render t env)
  return keywordList "ORDER BY " ", " orders

/-- A set operation. -/
def Combine.render : Combine Rendered → Emit String
  | .query operation all sub => do
    let sql ← sub.select env
    return operation.keyword ++ " " ++ (if all then "ALL " else "") ++ sql
  | .raw fragment => env.raw t.dialect fragment

/-- The set operations. -/
def renderCombines (s : Sections Rendered) : Emit String := do
  let combines ← s.combines.mapM (Combine.render t env)
  return String.intercalate " " combines

/-- The lock at the end, unless it is a hint after the table. -/
def renderLock (s : Sections Rendered) : Emit String :=
  match s.lock with
  | none => return ""
  | some mode =>
    if t.dialect.lockIsHint then return "" else Emit.ofExcept (t.dialect.lockClause mode)

/-! ## The select -/

/-- All sections of a select. -/
def renderSections (s : Sections Rendered) : Emit String := do
  let (head, paging) ← renderHead t env s
  let source ← renderSource t env s
  let joins ← renderJoins t env s
  let filters ← renderFilters t env s
  let groups ← renderGroups t env s
  let havings ← renderHavings t env s
  let orders ← renderOrders t env s
  let page ← paging.tail t.pagination s.hasOrders
  let combines ← renderCombines t env s
  let lock ← renderLock t s
  return joinSections
    [head, source, joins, filters, groups, havings, orders, page, combines, lock]

/-- The select whose rows are numbered in its order; the order moves into the column with the
numbers, and its bindings with it. -/
def numberedRows (s : Sections Rendered) : Emit (Sections Rendered) := do
  let (orders, bindings) ← (renderOrders t env s).capture
  let order := if orders.isEmpty then "ORDER BY (SELECT 0)" else orders
  let numbers := Column.raw ⟨rowNumberExpression t.dialect order, bindings⟩
  let listed := if s.hasColumns then s.columns else [Column.named "*"]
  return { s.unpaged.unordered with columns := listed ++ [numbers], hasColumns := true }

/-- A select that is no aggregate. -/
def renderPlain (s : Sections Rendered) : Emit String :=
  match t.pagination with
  | .topRowNumber =>
    if 0 < s.offset then do
      let numbered ← numberedRows t env s
      let body ← renderSections t env numbered
      wrapRowNumber t.dialect ⟨s.limit, s.offset⟩ body
    else
      renderSections t env s
  | .rowCount =>
    if 0 < s.limit ∨ 0 < s.offset then do
      let body ← renderSections t env s.unpaged
      wrapRowCount t.dialect ⟨s.limit, s.offset⟩ body
    else
      renderSections t env s
  | _ => renderSections t env s

/-- The function of all rows of a derived table. -/
def wrapAggregate (d : Dialect) (function : AggregateFunc) (rows : String) : String :=
  "SELECT " ++ aggregateColumn d function "*" ++ " FROM (" ++ rows ++ ")" ++
    aliasSuffix d (some (function.resultName ++ "Query"))

/-- A select or an aggregate, in surroundings that hold the scope of the query. -/
def renderBody (s : Sections Rendered) : Emit String :=
  if s.method = .aggregate then
    match s.aggregateForm with
    | .flat select => renderSections t env select
    | .wrapped function rows => do
      let sql ← renderPlain t (env.enter s.scope) rows
      return wrapAggregate t.dialect function sql
    | .hollow => renderSections t env {}
  else
    renderPlain t env s

/-- A select or an aggregate. -/
def renderSelect (s : Sections Rendered) : Emit String :=
  renderBody t (env.enter s.scope) s

end SqlBuilder
