import SqlBuilder.Query.Scope
import SqlBuilder.Statement.Table
import SqlBuilder.Text.Alias

/-!
# Clauses

What a query is made of.  A `Clause` is filed under a component, is meant for every dialect or for
one (its `engine`), and carries its content (`ClauseKind`): a condition, a source of rows, a join, a
column, and so on.

A join has clauses of its own.  Like a query, it also keeps the state of its construction
(`JoinState`), which no statement shows.

All types take the type `σ` of subqueries as a parameter.  A query proper has queries in these
places; while a statement is rendered, rendered subqueries stand there instead.
-/

namespace SqlBuilder

/-- SQL text with markers around identifiers and a `?` for each of its values. -/
structure Fragment where
  expression : String
  bindings : List Value

/-! ## Conditions -/

/-- What a condition demands. -/
inductive ConditionKind (σ : Type) where
  /-- `column operator value` -/
  | compare (column : String) (operator : Operator) (value : Value)
  /-- A text that matches a pattern. -/
  | pattern (column : String) (shape : StringMatch) (value : Value) (caseSensitive : Bool)
      (escape : Option Char)
  /-- `operator` between a part of a date and a value. -/
  | datePart (part : DatePart) (column : String) (operator : Operator) (value : Value)
  /-- `first operator second`, both columns. -/
  | columns (first : String) (operator : Operator) (second : String)
  | null (column : String)
  | boolean (column : String) (value : Bool)
  | between (column : String) (lower higher : Value)
  | inList (column : String) (values : List Value)
  | inQuery (column : String) (query : σ)
  /-- The subquery has a row. -/
  | nonempty (query : σ)
  /-- The conditions of the query, in parentheses. -/
  | group (query : σ)
  | raw (fragment : Fragment)
  /-- `(query) operator value` -/
  | queryCompare (query : σ) (operator : Operator) (value : Value)
  /-- `column operator (query)` -/
  | columnQuery (column : String) (operator : Operator) (query : σ)

/-- A condition of a list.  `isOr` is the connective before it when it is not the first, and
`isNot` negates it. -/
structure Condition (σ : Type) where
  isOr : Bool := false
  isNot : Bool := false
  kind : ConditionKind σ

/-! ## Sources of rows -/

/-- Where rows come from: the source of a select, the target of a join or mutation, the body of a
common table expression. -/
inductive Source (σ : Type) where
  /-- A table, which may carry an alias (`users as u`). -/
  | table (name : String)
  /-- A derived table, named by the alias of its query. -/
  | query (query : σ)
  | raw (aliasName : Option String) (fragment : Fragment)
  /-- Rows written out, row after row; only a common table expression can be made of them. -/
  | rows (aliasName : String) (columns : List String) (values : List Value)

/-- Types of subqueries that may carry an alias. -/
class Aliased (σ : Type) where
  alias? : σ → Option String

/-- The name by which the rest of the statement refers to a source. -/
def Source.alias? {σ : Type} [Aliased σ] : Source σ → Option String
  | table name => some ((Text.splitAlias? name).elim name Prod.snd)
  | query q => Aliased.alias? q
  | raw aliasName _ => aliasName
  | rows aliasName _ _ => some aliasName

/-! ## Columns, orders, sets and mutations -/

/-- A column of a select list or of a grouping. -/
inductive Column (σ : Type) where
  /-- A column, which may carry an alias. -/
  | named (name : String)
  | query (query : σ)
  /-- A function of a column, over the rows that fulfil the conditions of the filter. -/
  | aggregated (function : AggregateFunc) (column : String) (filter : Option σ)
  | raw (fragment : Fragment)

/-- What a result is ordered by. -/
inductive OrderBy where
  | column (column : String) (ascending : Bool)
  | random (seed : Option String)
  | raw (fragment : Fragment)

/-- The function of an aggregate statement and the columns that it is applied to. -/
structure AggregateClause where
  function : AggregateFunc
  columns : List String

/-- A set operation with another query. -/
inductive Combine (σ : Type) where
  | query (operation : SetOp) (all : Bool) (query : σ)
  | raw (fragment : Fragment)

/-- An inserted row, or a select whose rows are inserted. -/
inductive InsertClause (σ : Type) where
  | row (columns : List String) (values : List Value) (returnId : Bool)
  | query (columns : List String) (query : σ)

/-- What an update assigns. -/
inductive UpdateClause where
  | set (columns : List String) (values : List Value)
  /-- Adds an amount to a column; a negative one is subtracted. -/
  | increment (column : String) (amount : Int64)

/-! ## Clauses -/

mutual

/-- The content of a clause. -/
inductive ClauseKind (σ : Type) where
  | condition (condition : Condition σ)
  | source (source : Source σ)
  | join (join : Join σ)
  | column (column : Column σ)
  | order (order : OrderBy)
  | limit (count : UInt64)
  | offset (count : UInt64)
  | aggregate (aggregate : AggregateClause)
  | combine (combine : Combine σ)
  | insert (insert : InsertClause σ)
  | update (update : UpdateClause)
  | lock (mode : LockMode)
  | tableColumn (column : TableColumn)
  | tableKind (kind : TableKind)
  | tableExtension (extension : TableExtension)

/-- A clause of a query or of a join.  A clause without an engine is meant for every dialect. -/
structure Clause (σ : Type) where
  component : Component
  engine : Option Dialect
  kind : ClauseKind σ

/-- A join: its target is filed under `source`, its constraints under `filter`. -/
structure Join (σ : Type) where
  kind : JoinKind
  clauses : List (Clause σ)
  /-- The index to use, for dialects with such a hint. -/
  index : Option String
  /-- What is left of the construction of the join. -/
  state : JoinState := {}

end

namespace ClauseKind

variable {σ : Type}

/-! ## The content of a clause, if it is of a certain kind -/

/-- The condition. -/
def condition? : ClauseKind σ → Option (Condition σ)
  | condition c => some c
  | _ => none

/-- The source of rows. -/
def source? : ClauseKind σ → Option (Source σ)
  | source s => some s
  | _ => none

/-- The join. -/
def join? : ClauseKind σ → Option (Join σ)
  | join j => some j
  | _ => none

/-- The column. -/
def column? : ClauseKind σ → Option (Column σ)
  | column c => some c
  | _ => none

/-- The order. -/
def order? : ClauseKind σ → Option OrderBy
  | order o => some o
  | _ => none

/-- The number of a limit or an offset. -/
def count? : ClauseKind σ → Option UInt64
  | limit n | offset n => some n
  | _ => none

/-- The aggregate. -/
def aggregate? : ClauseKind σ → Option AggregateClause
  | aggregate a => some a
  | _ => none

/-- The set operation. -/
def combine? : ClauseKind σ → Option (Combine σ)
  | combine c => some c
  | _ => none

/-- The inserted row or query. -/
def insert? : ClauseKind σ → Option (InsertClause σ)
  | insert i => some i
  | _ => none

/-- The assignments. -/
def update? : ClauseKind σ → Option UpdateClause
  | update u => some u
  | _ => none

/-- The lock. -/
def lock? : ClauseKind σ → Option LockMode
  | lock m => some m
  | _ => none

/-- The column of a created table. -/
def tableColumn? : ClauseKind σ → Option TableColumn
  | tableColumn c => some c
  | _ => none

/-- Does the clause make the table a temporary one? -/
def isTemporary : ClauseKind σ → Bool
  | tableKind .temporary => true
  | _ => false

/-- Does the clause keep the rows of a temporary table after a commit? -/
def preservesRows : ClauseKind σ → Bool
  | tableExtension (.onCommitPreserveRows b) => b
  | _ => false

end ClauseKind

end SqlBuilder
