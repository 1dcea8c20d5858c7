import SqlBuilder.Dialect.Identifier
import SqlBuilder.Error
import SqlBuilder.Options
import SqlBuilder.Value.Basic

/-!
# What a dialect spells differently

The choices of a dialect for selects and mutations: paging, rows of several values, literals, dates,
locks and hints.  The choices of one feature stand together, and the dialects that are not named
share the last line.
-/

namespace SqlBuilder

/-! ## Styles -/

/-- How a limit and an offset are written. -/
inductive Pagination where
  /-- `LIMIT ? OFFSET ?`; `unbounded` is the limit to write when there is only an offset, where the
  dialect asks for one. -/
  | limitOffset (unbounded : Option String)
  /-- `OFFSET ? ROWS FETCH NEXT ? ROWS ONLY`, after `safeOrder` when there is no order. -/
  | offsetFetch (safeOrder : String)
  /-- `TOP (?)`, or a window of row numbers around the statement when there is an offset. -/
  | topRowNumber
  /-- Row counts around the statement. -/
  | rowCount
  /-- `FIRST ?`, `SKIP ?`, or `ROWS ? TO ?`. -/
  | firstSkip
deriving DecidableEq

/-- How several rows are inserted. -/
inductive MultiInsert where
  /-- `VALUES (..), (..)` -/
  | valuesList
  /-- `INSERT ALL INTO .. VALUES (..) .. SELECT 1 FROM ..` -/
  | insertAll
  /-- `SELECT .. UNION ALL SELECT ..` -/
  | unionSelect
deriving DecidableEq

/-- How rows are written out in a common table expression. -/
inductive RowsStyle where
  /-- `SELECT ? AS a, ? AS b UNION ALL SELECT ..` -/
  | unionAll
  /-- `SELECT a, b FROM (VALUES (?, ?), ..) AS tbl (a, b)` -/
  | valuesTable
deriving DecidableEq

/-- A hint after a table. -/
inductive TableHint where
  | noLock
  | index (name : String)
  | lock (mode : LockMode)
deriving DecidableEq

/-- The paging style; two dialects have an older one. -/
def Target.pagination (t : Target) : Pagination :=
  match t.dialect with
  | .sqlServer =>
    if t.options.legacyPagination then .topRowNumber else .offsetFetch "ORDER BY (SELECT 0) "
  | .oracle =>
    if t.options.legacyPagination then .rowCount
    else .offsetFetch "ORDER BY (SELECT 0 FROM DUAL) "
  | .mySql => .limitOffset (some "18446744073709551615")
  | .sqlite => .limitOffset (some "-1")
  | .firebird => .firstSkip
  | .generic | .postgres => .limitOffset none

namespace Dialect

/-- How several rows are inserted. -/
def multiInsert : Dialect → MultiInsert
  | oracle => .insertAll
  | firebird => .unionSelect
  | _ => .valuesList

/-- How rows are written out in a common table expression. -/
def rowsStyle : Dialect → RowsStyle
  | sqlServer => .valuesTable
  | _ => .unionAll

/-- The table of one row that a select needs when it has no source. -/
def dummyTable? : Dialect → Option String
  | oracle => some "DUAL"
  | firebird => some "RDB$DATABASE"
  | _ => none

/-! ## Parameters, literals and functions -/

/-- The text before the number of a parameter, for dialects that name their parameters. -/
def parameterPrefix? : Dialect → Option String
  | mySql | sqlite => none
  | oracle => some ":p"
  | _ => some "@p"

/-- A truth value. -/
def boolLiteral : Dialect → Bool → String
  | sqlServer, b => if b then "cast(1 as bit)" else "cast(0 as bit)"
  | sqlite, b | oracle, b | firebird, b => if b then "1" else "0"
  | _, b => if b then "true" else "false"

/-- A random number to order by; only one dialect takes the seed. -/
def randomOrder : Dialect → Option String → String
  | sqlServer, _ => "NEWID()"
  | mySql, some seed => "RAND(" ++ seed ++ ")"
  | mySql, none => "RAND()"
  | oracle, _ => "DBMS_RANDOM.VALUE"
  | firebird, _ => "RAND()"
  | _, _ => "RANDOM()"

/-- The query for the number that the database gave to an inserted row. -/
def lastInsertId? : Dialect → Option String
  | sqlServer => some "SELECT scope_identity() as Id"
  | mySql => some "SELECT last_insert_id() as Id"
  | postgres => some "SELECT lastval() AS id"
  | sqlite => some "select last_insert_rowid() as id"
  | _ => none

/-- Does an aggregate take a filter of its own? -/
def hasFilterClause : Dialect → Bool
  | postgres | sqlite => true
  | _ => false

/-- The operator for patterns that ignores case. -/
def caseInsensitiveLike? : Dialect → Option String
  | postgres => some "ILIKE"
  | _ => none

/-- An expression in lower case. -/
def lower (_ : Dialect) (expression : String) : String :=
  "LOWER(" ++ expression ++ ")"

/-! ## Dates -/

/-- The format of the parts of a date that a text is compared with. -/
def timeFormat : DatePart → String
  | .date => "%Y-%m-%d"
  | .time => "%H:%M:%S"
  | .year => "%Y"
  | .month => "%m"
  | .day => "%d"
  | .hour => "%H"
  | .minute => "%M"
  | .second => "%S"

/-- A time of day with one colon in it has no seconds to compare. -/
def clockFormat (value : Value) : String :=
  match value.asText? with
  | some s => if s.toList.count ':' = 1 then "HH24:MI" else "HH24:MI:SS"
  | none => "HH24:MI:SS"

/-- Compares a part of a column with a placeholder; `value` is what the placeholder stands for. -/
def dateCondition (d : Dialect) (column : String) (part : DatePart) (operator placeholder : String)
    (value : Value) : String :=
  let compared := " " ++ operator ++ " " ++ placeholder
  let extracted := "EXTRACT(" ++ part.keyword ++ " FROM " ++ column ++ ")" ++ compared
  let asText (format : String) :=
    "TO_CHAR(" ++ column ++ ", '" ++ format ++ "') " ++ operator ++ " TO_CHAR(TO_DATE(" ++
      placeholder ++ ", '" ++ format ++ "'), '" ++ format ++ "')"
  match d, part with
  | sqlServer, .date | sqlServer, .time =>
    "CAST(" ++ column ++ " AS " ++ part.keyword ++ ")" ++ compared
  | sqlServer, _ => "DATEPART(" ++ part.keyword ++ ", " ++ column ++ ")" ++ compared
  | postgres, .date => column ++ "::date" ++ compared
  | postgres, .time => column ++ "::time" ++ compared
  | postgres, _ => "DATE_PART('" ++ part.keyword ++ "', " ++ column ++ ")" ++ compared
  | sqlite, _ =>
    "strftime('" ++ timeFormat part ++ "', " ++ column ++ ") " ++ operator ++ " cast(" ++
      placeholder ++ " as text)"
  | oracle, .date => asText "YY-MM-DD"
  | oracle, .time => asText (clockFormat value)
  | oracle, _ => extracted
  | firebird, .date | firebird, .time =>
    "CAST(" ++ column ++ " as " ++ part.keyword ++ ")" ++ compared
  | firebird, _ => extracted
  | generic, _ | mySql, _ => part.keyword ++ "(" ++ column ++ ")" ++ compared

/-! ## Locks and hints -/

/-- Is a lock a hint after the table, instead of a clause at the end? -/
def lockIsHint : Dialect → Bool
  | sqlServer => true
  | _ => false

/-- The clause for a lock at the end of a select. -/
def lockClause (d : Dialect) (mode : LockMode) : Except Error String :=
  match d, mode with
  | sqlite, _ | oracle, .share | firebird, .share => .error (.unsupportedLock mode d)
  | mySql, .share => .ok "LOCK IN SHARE MODE"
  | firebird, .update => .ok "FOR UPDATE WITH LOCK"
  | _, .update => .ok "FOR UPDATE"
  | _, .share => .ok "FOR SHARE"

/-- A hint in the parentheses after a table. -/
def hintWord (d : Dialect) : TableHint → String
  | .noLock => "NOLOCK"
  | .index name => "INDEX(" ++ d.quoteIdentifier name ++ ")"
  | .lock .update => "UPDLOCK, ROWLOCK"
  | .lock .share => "HOLDLOCK, ROWLOCK"

/-- The index of a hint that names one. -/
def indexOf? : TableHint → Option String
  | .index name => some name
  | _ => none

/-- The text after a table for its hints. -/
def tableHints (d : Dialect) (hints : List TableHint) : String :=
  match d with
  | sqlServer =>
    if hints.isEmpty then ""
    else " WITH (" ++ String.intercalate ", " (hints.map d.hintWord) ++ ")"
  | mySql =>
    String.join ((hints.filterMap indexOf?).map fun name =>
      " USE INDEX (" ++ d.quoteIdentifier name ++ ")")
  | _ => ""

end Dialect

end SqlBuilder
