import SqlBuilder.Query.Basic

/-!
# Building mutations and table definitions

Inserts, updates and deletes, and the statements that create, drop and empty tables.
-/

namespace SqlBuilder

namespace QueryOver

variable {σ : Type}

/-! ## Inserts -/

/-- Inserts rows, all with a value for each of the columns. -/
def asInsert (q : QueryOver σ) (columns : List String) (rows : List (List Value)) : QueryOver σ :=
  if columns.isEmpty || rows.isEmpty then
    q.fail .emptyInsert
  else if rows.any (·.length != columns.length) then
    q.fail .raggedRows
  else
    rows.foldl (fun q row => q.addComponent .insert (.insert (.row columns row false)))
      ({ q with method := .insert }.clearComponent .insert)

/-- Inserts one row of columns with their values; `returnId` asks for the number that the database
gives to it. -/
def asInsertRow (q : QueryOver σ) (pairs : List (String × Value)) (returnId : Bool) : QueryOver σ :=
  if pairs.isEmpty then
    q.fail .emptyInsert
  else
    { q with method := .insert }.clearComponent .insert
      |>.addComponent .insert (.insert (.row (pairs.map Prod.fst) (pairs.map Prod.snd) returnId))

/-! ## Updates and deletes -/

/-- Sets columns to values. -/
def asUpdate (q : QueryOver σ) (columns : List String) (values : List Value) : QueryOver σ :=
  if columns.length != values.length then
    q.fail .raggedUpdate
  else if columns.isEmpty then
    q.fail .emptyUpdate
  else
    { q with method := .update }.replaceComponent .update (.update (.set columns values))

/-- Adds an amount to a column. -/
def asIncrement (q : QueryOver σ) (column : String) (amount : Int64) : QueryOver σ :=
  { q with method := .update }.replaceComponent .update (.update (.increment column amount))

/-- Subtracts an amount from a column. -/
def asDecrement (q : QueryOver σ) (column : String) (amount : Int64) : QueryOver σ :=
  q.asIncrement column (-amount)

/-- Deletes the rows. -/
def asDelete (q : QueryOver σ) : QueryOver σ :=
  { q with method := .delete }

/-! ## Tables -/

/-- Creates a table with the given columns. -/
def createTable (q : QueryOver σ) (columns : List TableColumn) : QueryOver σ :=
  if 1 < (columns.filter (·.identity)).length then
    q.fail .severalIdentityColumns
  else
    columns.foldl (fun q c => q.addComponent .tableColumn (.tableColumn c))
      ({ q with method := .createTable }.clearComponent .tableColumn)

/-- Makes the table a temporary one. -/
def temporary (q : QueryOver σ) : QueryOver σ :=
  q.replaceComponent .tableKind (.tableKind .temporary)

/-- Says whether a temporary table keeps its rows after a commit. -/
def onCommitPreserveRows (q : QueryOver σ) (preserve : Bool) : QueryOver σ :=
  q.replaceComponent .tableExtension (.tableExtension (.onCommitPreserveRows preserve))

/-- Drops the table. -/
def dropTable (q : QueryOver σ) : QueryOver σ :=
  { q with method := .dropTable }

/-- Empties the table. -/
def truncateTable (q : QueryOver σ) : QueryOver σ :=
  { q with method := .truncateTable }

end QueryOver

namespace Query

/-- Inserts the rows of a query. -/
def asInsertQuery (q : Query) (columns : List String) (sub : Query) : Query :=
  ({ q with method := .insert }.absorb sub.error).clearComponent .insert
    |>.addComponent .insert (.insert (.query columns ⟨sub⟩))

/-- Creates a table with the rows of a query. -/
def createTableAs (q sub : Query) : Query :=
  ({ q with method := .createTableAs }.absorb sub.error).replaceComponent .tableSource
    (.source (.query ⟨sub⟩))

end Query

end SqlBuilder
