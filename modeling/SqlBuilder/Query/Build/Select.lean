import SqlBuilder.Query.Build.Condition

/-!
# Building selects

Sources, select lists, aggregates, groups, orders, paging, locks, set operations and common table
expressions.  Every step takes a query and gives a query; a step that cannot be carried out records
an error and changes nothing else.
-/

namespace SqlBuilder

open Text

/-! ## Column lists -/

/-- Does the text begin with the dot and brace of a column list? -/
def atColumnList (cs : List Char) : Bool :=
  cs.take 2 == ['.', '{']

/-- The columns of an entry: `users.{id, name}` is short for `users.id` and `users.name`. -/
def expandColumns (entry : String) : List String :=
  let cs := trimList entry.toList
  let whole := [String.ofList cs]
  if cs.getLast? = some '}' then
    match cutFirst? atColumnList 2 cs with
    | some (table, list) =>
      let names := ((splitOnList ',' list.dropLast).map trimList).filter (· ≠ [])
      names.map fun name => String.ofList (table ++ '.' :: name)
    | none => whole
  else
    whole

namespace QueryOver

variable {σ : Type}

/-! ## The query as a whole -/

/-- Takes the rows from a table. -/
def fromTable (q : QueryOver σ) (name : String) : QueryOver σ :=
  q.replaceComponent .source (.source (.table name))

/-- Takes the rows from raw SQL. -/
def fromRaw (q : QueryOver σ) (f : Fragment) : QueryOver σ :=
  q.replaceComponent .source (.source (.raw none f))

/-- Names the query, for the queries that use it. -/
def named (q : QueryOver σ) (aliasName : String) : QueryOver σ :=
  { q with aliasName := some aliasName }

/-- Defines a variable for this query and for queries begun in it later. -/
def define (q : QueryOver σ) (name : String) (value : Value) : QueryOver σ :=
  { q with definitions := q.definitions.define name value }

/-- Carries out `f` with every clause it adds scoped to a dialect. -/
def forEngine (q : QueryOver σ) (engine : Dialect) (f : QueryOver σ → QueryOver σ) : QueryOver σ :=
  { f { q with engineScope := some engine } with engineScope := q.engineScope }

/-! ## The select list -/

/-- Adds columns, each of which may carry an alias or be a list of columns of one table. -/
def select (q : QueryOver σ) (columns : List String) : QueryOver σ :=
  (columns.flatMap expandColumns).foldl
    (fun q c => q.addComponent .select (.column (.named c))) { q with method := .select }

/-- Adds a column in raw SQL. -/
def selectRaw (q : QueryOver σ) (f : Fragment) : QueryOver σ :=
  { q with method := .select }.addComponent .select (.column (.raw f))

/-- Adds a function of a column. -/
def selectAggregate (q : QueryOver σ) (function : AggregateFunc) (column : String) : QueryOver σ :=
  { q with method := .select }.addComponent .select (.column (.aggregated function column none))

/-- Drops duplicate rows. -/
def distinctRows (q : QueryOver σ) : QueryOver σ :=
  { q with distinct := true }

/-! ## Aggregate statements -/

/-- Turns the query into an aggregate over its rows. -/
def asAggregate (q : QueryOver σ) (function : AggregateFunc) (columns : List String) :
    QueryOver σ :=
  { q with method := .aggregate }.clearComponent .aggregate
    |>.addComponent .aggregate (.aggregate ⟨function, columns⟩)

/-- Turns the query into a count of its rows, or of columns. -/
def asCount (q : QueryOver σ) (columns : List String) : QueryOver σ :=
  q.asAggregate .count (if columns.isEmpty then ["*"] else columns)

/-! ## Groups and orders -/

/-- Groups by columns. -/
def groupBy (q : QueryOver σ) (columns : List String) : QueryOver σ :=
  columns.foldl (fun q c => q.addComponent .group (.column (.named c))) q

/-- Groups by raw SQL. -/
def groupByRaw (q : QueryOver σ) (f : Fragment) : QueryOver σ :=
  q.addComponent .group (.column (.raw f))

/-- Adds a condition on groups. -/
def having (q : QueryOver σ) (column : String) (operator : Operator) (value : Value) :
    QueryOver σ :=
  q.pushCondition .having (.compare column operator value)

/-- Adds a condition on groups in raw SQL. -/
def havingRaw (q : QueryOver σ) (f : Fragment) : QueryOver σ :=
  q.pushCondition .having (.raw f)

/-- Demands that a column of a group lies between two values. -/
def havingBetween (q : QueryOver σ) (column : String) (lower higher : Value) : QueryOver σ :=
  q.pushCondition .having (.between column lower higher)

/-- Demands that a column of a group has one of the values. -/
def havingIn (q : QueryOver σ) (column : String) (values : List Value) : QueryOver σ :=
  q.pushCondition .having (.inList column values)

/-- Orders by a column. -/
def orderBy (q : QueryOver σ) (column : String) (ascending : Bool) : QueryOver σ :=
  q.addComponent .order (.order (.column column ascending))

/-- Orders by raw SQL. -/
def orderByRaw (q : QueryOver σ) (f : Fragment) : QueryOver σ :=
  q.addComponent .order (.order (.raw f))

/-- Orders at random. -/
def orderByRandom (q : QueryOver σ) (seed : Option String) : QueryOver σ :=
  q.addComponent .order (.order (.random seed))

/-! ## Paging and locks -/

/-- Keeps at most this many rows; zero stands for all. -/
def limit (q : QueryOver σ) (count : UInt64) : QueryOver σ :=
  q.replaceComponent .limit (.limit count)

/-- Skips this many rows. -/
def offset (q : QueryOver σ) (count : UInt64) : QueryOver σ :=
  q.replaceComponent .offset (.offset count)

/-- Keeps one page, the first page being number one; page zero is the first page as well. -/
def forPage (q : QueryOver σ) (page perPage : UInt64) : QueryOver σ :=
  let skipped := (page.toNat - 1) * perPage.toNat
  if skipped < UInt64.size then
    (q.offset (UInt64.ofNat skipped)).limit perPage
  else
    q.fail (.pageOutOfRange page perPage)

/-- Locks the rows. -/
def lock (q : QueryOver σ) (mode : LockMode) : QueryOver σ :=
  q.replaceComponent .lock (.lock mode)

/-! ## Raw set operations and common table expressions -/

/-- Appends a set operation in raw SQL. -/
def combineRaw (q : QueryOver σ) (f : Fragment) : QueryOver σ :=
  if q.method = .select then
    q.addComponent .combine (.combine (.raw f))
  else
    q.fail .combinedNonSelect

/-- Adds a common table expression in raw SQL. -/
def withRaw (q : QueryOver σ) (aliasName : String) (f : Fragment) : QueryOver σ :=
  q.addComponent .cte (.source (.raw (some aliasName) f))

/-- Adds a common table expression of the given rows. -/
def withValues (q : QueryOver σ) (aliasName : String) (columns : List String)
    (rows : List (List Value)) : QueryOver σ :=
  if columns.isEmpty || rows.isEmpty then
    q.fail .emptyRows
  else if rows.any (·.length != columns.length) then
    q.fail .raggedRows
  else
    q.addComponent .cte (.source (.rows aliasName columns rows.flatten))

end QueryOver

/-! ## Steps with subqueries -/

namespace Query

/-- Takes the rows from a query, which is named by its own alias. -/
def fromQuery (q sub : Query) : Query :=
  (q.absorb sub.error).replaceComponent .source (.source (.query ⟨sub⟩))

/-- Adds the value of a query to the select list. -/
def selectQuery (q sub : Query) (aliasName : String) : Query :=
  ({ q with method := .select }.absorb sub.error).addComponent .select
    (.column (.query ⟨sub.named aliasName⟩))

/-- Adds a function of a column over the rows that fulfil the conditions of a query. -/
def selectAggregateWhere (q : Query) (function : AggregateFunc) (column : String)
    (filter : Query) : Query :=
  ({ q with method := .select }.absorb filter.error).addComponent .select
    (.column (.aggregated function column (some ⟨filter⟩)))

/-- Combines two selects. -/
def combine (q : Query) (operation : SetOp) (all : Bool) (other : Query) : Query :=
  if q.method = .select ∧ other.method = .select then
    (q.absorb other.error).addComponent .combine (.combine (.query operation all ⟨other⟩))
  else
    q.fail .combinedNonSelect

/-- Adds a common table expression, which is named by the alias of its query. -/
def withQuery (q sub : Query) : Query :=
  if sub.aliasName.isNone then
    q.fail .cteWithoutAlias
  else
    (q.absorb sub.error).addComponent .cte (.source (.query ⟨sub⟩))

end Query

end SqlBuilder
