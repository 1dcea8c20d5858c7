import SqlBuilder.Text.Blank
import SqlBuilder.Text.Case

/-!
# The closed vocabularies of a statement

What a statement does (`Method`), the parts it is made of (`Component`), and the words that
conditions, columns, joins and set operations choose from.  Each vocabulary is an enumeration with
the name that documents use for its members (`Vocabulary`), so that `Vocabulary.ofName?` reads what
`Vocabulary.name` writes.

`Operator.ofText?` reads a comparison operator in any letter case and spacing, and accepts nothing
but the listed operators.
-/

namespace SqlBuilder

/-- A finite vocabulary whose members have different names. -/
class Vocabulary (α : Type) where
  members : List α
  name : α → String

/-- The member with a given name. -/
def Vocabulary.ofName? {α : Type} [Vocabulary α] (s : String) : Option α :=
  (Vocabulary.members (α := α)).find? fun a => Vocabulary.name a == s

/-! ## Statements and their parts -/

/-- The statement that a query stands for. -/
inductive Method where
  | select
  /-- An aggregate over the rows of a select. -/
  | aggregate
  | insert
  | update
  | delete
  | createTable
  | createTableAs
  | dropTable
  | truncateTable
deriving DecidableEq, Inhabited

namespace Method

/-- Does the statement define tables, rather than read or write rows? -/
def isDdl : Method → Bool
  | createTable | createTableAs | dropTable | truncateTable => true
  | _ => false

/-- The name in messages. -/
def text : Method → String
  | select => "select"
  | aggregate => "aggregate"
  | insert => "insert"
  | update => "update"
  | delete => "delete"
  | createTable => "create_table"
  | createTableAs => "create_table_as"
  | dropTable => "drop_table"
  | truncateTable => "truncate_table"

instance : Vocabulary Method where
  members := [select, aggregate, insert, update, delete, createTable, createTableAs, dropTable,
    truncateTable]
  name
    | select => "Select"
    | aggregate => "Aggregate"
    | insert => "Insert"
    | update => "Update"
    | delete => "Delete"
    | createTable => "CreateTable"
    | createTableAs => "CreateTableAs"
    | dropTable => "DropTable"
    | truncateTable => "TruncateTable"

end Method

/-- The part of a statement that a clause belongs to. -/
inductive Component where
  | select
  | aggregate
  /-- The rows selected from, or the target of a mutation. -/
  | source
  | join
  /-- Conditions on rows, or of a join. -/
  | filter
  | group
  | having
  | order
  | limit
  | offset
  | combine
  /-- Common table expressions. -/
  | cte
  | insert
  | update
  | lock
  | tableColumn
  | tableKind
  | tableExtension
  /-- The select that fills a created table. -/
  | tableSource
deriving DecidableEq

namespace Component

/-- The name in documents and messages. -/
def text : Component → String
  | select => "select"
  | aggregate => "aggregate"
  | source => "from"
  | join => "join"
  | filter => "where"
  | group => "group"
  | having => "having"
  | order => "order"
  | limit => "limit"
  | offset => "offset"
  | combine => "combine"
  | cte => "cte"
  | insert => "insert"
  | update => "update"
  | lock => "lock"
  | tableColumn => "table_column"
  | tableKind => "table_kind"
  | tableExtension => "table_extension"
  | tableSource => "table_source"

instance : Vocabulary Component where
  members := [select, aggregate, source, join, filter, group, having, order, limit, offset, combine,
    cte, insert, update, lock, tableColumn, tableKind, tableExtension, tableSource]
  name := text

end Component

/-! ## Comparison operators -/

/-- The comparison operators of conditions. -/
inductive Operator where
  | eq
  /-- Not equal, written `<>`. -/
  | ne
  /-- Not equal, written `!=`. -/
  | notEq
  | gt
  | gte
  | lt
  | lte
  | nullSafeEq
  | like
  | notLike
  | ilike
  | notIlike
  | regexp
  | notRegexp
  | similarTo
  | notSimilarTo
deriving DecidableEq

namespace Operator

/-- The operator in SQL. -/
def symbol : Operator → String
  | eq => "="
  | ne => "<>"
  | notEq => "!="
  | gt => ">"
  | gte => ">="
  | lt => "<"
  | lte => "<="
  | nullSafeEq => "<=>"
  | like => "LIKE"
  | notLike => "NOT LIKE"
  | ilike => "ILIKE"
  | notIlike => "NOT ILIKE"
  | regexp => "REGEXP"
  | notRegexp => "NOT REGEXP"
  | similarTo => "SIMILAR TO"
  | notSimilarTo => "NOT SIMILAR TO"

instance : Vocabulary Operator where
  members := [eq, ne, notEq, gt, gte, lt, lte, nullSafeEq, like, notLike, ilike, notIlike, regexp,
    notRegexp, similarTo, notSimilarTo]
  name
    | eq => "Eq"
    | ne => "Ne"
    | notEq => "NotEq"
    | gt => "Gt"
    | gte => "Gte"
    | lt => "Lt"
    | lte => "Lte"
    | nullSafeEq => "NullSafeEq"
    | like => "Like"
    | notLike => "NotLike"
    | ilike => "ILike"
    | notIlike => "NotILike"
    | regexp => "Regexp"
    | notRegexp => "NotRegexp"
    | similarTo => "SimilarTo"
    | notSimilarTo => "NotSimilarTo"

/-- The accepted spellings in lower case, with one space between words. -/
def spellings : List (String × Operator) :=
  [("=", eq), ("<>", ne), ("!=", notEq), (">", gt), (">=", gte), ("<", lt), ("<=", lte),
    ("<=>", nullSafeEq), ("like", like), ("not like", notLike), ("ilike", ilike),
    ("not ilike", notIlike), ("regexp", regexp), ("rlike", regexp), ("not regexp", notRegexp),
    ("not rlike", notRegexp), ("similar to", similarTo), ("not similar to", notSimilarTo)]

/-- Reads an operator in any letter case, its words separated by any blanks. -/
def ofText? (s : String) : Option Operator :=
  spellings.lookup (Text.toLower (String.intercalate " " (Text.words s)))

end Operator

/-! ## Words of clauses -/

/-- The aggregate functions. -/
inductive AggregateFunc where
  | count
  | sum
  | avg
  | min
  | max
deriving DecidableEq

namespace AggregateFunc

/-- The name of the result column. -/
def resultName : AggregateFunc → String
  | count => "count"
  | sum => "sum"
  | avg => "avg"
  | min => "min"
  | max => "max"

/-- The function in SQL. -/
def text : AggregateFunc → String
  | count => "COUNT"
  | sum => "SUM"
  | avg => "AVG"
  | min => "MIN"
  | max => "MAX"

instance : Vocabulary AggregateFunc where
  members := [count, sum, avg, min, max]
  name
    | count => "Count"
    | sum => "Sum"
    | avg => "Avg"
    | min => "Min"
    | max => "Max"

end AggregateFunc

/-- The kinds of joins. -/
inductive JoinKind where
  | inner
  | left
  | right
  | cross
deriving DecidableEq

namespace JoinKind

/-- The join in SQL. -/
def keyword : JoinKind → String
  | inner => "INNER JOIN"
  | left => "LEFT JOIN"
  | right => "RIGHT JOIN"
  | cross => "CROSS JOIN"

instance : Vocabulary JoinKind where
  members := [inner, left, right, cross]
  name
    | inner => "Inner"
    | left => "Left"
    | right => "Right"
    | cross => "Cross"

end JoinKind

/-- The set operations that combine selects. -/
inductive SetOp where
  | union
  | intersect
  | except
deriving DecidableEq

namespace SetOp

/-- The operation in SQL. -/
def keyword : SetOp → String
  | union => "UNION"
  | intersect => "INTERSECT"
  | except => "EXCEPT"

instance : Vocabulary SetOp where
  members := [union, intersect, except]
  name
    | union => "Union"
    | intersect => "Intersect"
    | except => "Except"

end SetOp

/-- The row locks that a select may ask for. -/
inductive LockMode where
  | update
  | share
deriving DecidableEq

instance : Vocabulary LockMode where
  members := [.update, .share]
  name
    | .update => "Update"
    | .share => "Share"

/-- The parts of a date or time that a condition may compare. -/
inductive DatePart where
  | date
  | time
  | year
  | month
  | day
  | hour
  | minute
  | second
deriving DecidableEq

namespace DatePart

/-- The part in SQL. -/
def keyword : DatePart → String
  | date => "DATE"
  | time => "TIME"
  | year => "YEAR"
  | month => "MONTH"
  | day => "DAY"
  | hour => "HOUR"
  | minute => "MINUTE"
  | second => "SECOND"

instance : Vocabulary DatePart where
  members := [date, time, year, month, day, hour, minute, second]
  name
    | date => "Date"
    | time => "Time"
    | year => "Year"
    | month => "Month"
    | day => "Day"
    | hour => "Hour"
    | minute => "Minute"
    | second => "Second"

end DatePart

/-- Where a text condition looks for its text. -/
inductive StringMatch where
  /-- The text is itself the pattern. -/
  | like
  | starts
  | ends
  | contains
deriving DecidableEq

namespace StringMatch

/-- The pattern that looks for a text. -/
def pattern : StringMatch → String → String
  | like, s => s
  | starts, s => s ++ "%"
  | ends, s => "%" ++ s
  | contains, s => "%" ++ s ++ "%"

instance : Vocabulary StringMatch where
  members := [like, starts, ends, contains]
  name
    | like => "Like"
    | starts => "Starts"
    | ends => "Ends"
    | contains => "Contains"

end StringMatch

end SqlBuilder
