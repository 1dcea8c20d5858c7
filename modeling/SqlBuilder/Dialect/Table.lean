import SqlBuilder.Dialect.Identifier
import SqlBuilder.Error
import SqlBuilder.Statement.Table

/-!
# Table definitions in a dialect

How each dialect spells the portable column types, columns that are numbered by the database,
temporary tables, and the statements that create and empty tables.
-/

namespace SqlBuilder

open Number Text

/-! ## Column types -/

/-- A type with its arguments in parentheses. -/
def DataType.applied (name : String) (arguments : List Nat) : String :=
  name ++ "(" ++ String.intercalate ", " (arguments.map natText) ++ ")"

/-- The spelling that most dialects share. -/
def DataType.standardName : DataType → String
  | smallInt => "SMALLINT"
  | integer => "INTEGER"
  | bigInt => "BIGINT"
  | decimal precision scale => applied "DECIMAL" [precision.toNat, scale.toNat]
  | float => "REAL"
  | double => "DOUBLE PRECISION"
  | boolean => "BOOLEAN"
  | char length => applied "CHAR" [length.toNat]
  | varchar length => applied "VARCHAR" [length.toNat]
  | text => "TEXT"
  | date => "DATE"
  | time => "TIME"
  | timestamp => "TIMESTAMP"
  | timestampUtc => "TIMESTAMP WITH TIME ZONE"
  | uuid => "UUID"
  | binary => "BLOB"
  | json => "JSON"
  | custom name => name

namespace Dialect

/-- A column type in a dialect. -/
def typeName : Dialect → DataType → String
  | postgres, .decimal precision scale =>
    DataType.applied "NUMERIC" [precision.toNat, scale.toNat]
  | postgres, .timestampUtc => "TIMESTAMPTZ"
  | postgres, .binary => "BYTEA"
  | postgres, .json => "JSONB"
  | mySql, .integer => "INT"
  | mySql, .float => "FLOAT"
  | mySql, .double => "DOUBLE"
  | mySql, .boolean => "TINYINT(1)"
  | mySql, .timestamp => "DATETIME"
  | mySql, .timestampUtc => "TIMESTAMP"
  | mySql, .uuid => "CHAR(36)"
  | sqlite, .smallInt | sqlite, .integer | sqlite, .bigInt | sqlite, .boolean => "INTEGER"
  | sqlite, .decimal _ _ => "NUMERIC"
  | sqlite, .float | sqlite, .double => "REAL"
  | sqlite, .binary => "BLOB"
  | sqlite, .custom name => name
  | sqlite, _ => "TEXT"
  | sqlServer, .integer => "INT"
  | sqlServer, .double => "FLOAT"
  | sqlServer, .boolean => "BIT"
  | sqlServer, .char length => DataType.applied "NCHAR" [length.toNat]
  | sqlServer, .varchar length => DataType.applied "NVARCHAR" [length.toNat]
  | sqlServer, .text | sqlServer, .json => "NVARCHAR(MAX)"
  | sqlServer, .timestamp => "DATETIME2"
  | sqlServer, .timestampUtc => "DATETIMEOFFSET"
  | sqlServer, .uuid => "UNIQUEIDENTIFIER"
  | sqlServer, .binary => "VARBINARY(MAX)"
  | oracle, .smallInt => "NUMBER(5)"
  | oracle, .integer => "NUMBER(10)"
  | oracle, .bigInt => "NUMBER(19)"
  | oracle, .decimal precision scale => DataType.applied "NUMBER" [precision.toNat, scale.toNat]
  | oracle, .float => "BINARY_FLOAT"
  | oracle, .double => "BINARY_DOUBLE"
  | oracle, .boolean => "NUMBER(1)"
  | oracle, .varchar length => DataType.applied "VARCHAR2" [length.toNat]
  | oracle, .text | oracle, .json => "CLOB"
  | oracle, .time => "VARCHAR2(8)"
  | oracle, .uuid => "RAW(16)"
  | firebird, .float => "FLOAT"
  | firebird, .text | firebird, .json => "BLOB SUB_TYPE TEXT"
  | firebird, .uuid => "CHAR(16) CHARACTER SET OCTETS"
  | _, type => type.standardName

/-- What follows the type of a column that is numbered by the database. -/
def identityKeyword : Dialect → String
  | mySql => "AUTO_INCREMENT"
  | sqlite => "PRIMARY KEY AUTOINCREMENT"
  | sqlServer => "IDENTITY(1,1)"
  | oracle => "GENERATED BY DEFAULT ON NULL AS IDENTITY"
  | firebird => "GENERATED BY DEFAULT AS IDENTITY"
  | _ => "GENERATED ALWAYS AS IDENTITY"

/-- Does that text make the column the primary key? -/
def identityIsPrimaryKey : Dialect → Bool
  | sqlite => true
  | _ => false

/-! ## Temporary tables -/

/-- The word before `TABLE`, with the space after it. -/
def temporaryKeyword : Dialect → String
  | sqlServer => ""
  | oracle | firebird => "GLOBAL TEMPORARY "
  | _ => "TEMPORARY "

/-- The name of a temporary table; one dialect marks it with a sign before its last part. -/
def temporaryName : Dialect → String → String
  | sqlServer, name =>
    match splitLast? '.' name with
    | some (schema, table) => schema ++ ".#" ++ table
    | none => "#" ++ name
  | _, name => name

/-- The clause after a temporary table that says what a commit does to its rows. -/
def onCommit? : Dialect → Bool → Option String
  | oracle, preserve | firebird, preserve =>
    some (if preserve then "ON COMMIT PRESERVE ROWS" else "ON COMMIT DELETE ROWS")
  | _, _ => none

/-! ## Statements -/

/-- The statement that empties a table. -/
def truncate : Dialect → String → String
  | sqlite, table => "DELETE FROM " ++ table
  | _, table => "TRUNCATE TABLE " ++ table

/-- The statement that creates a table from a select; `temporary` is the word for a temporary
table. -/
def createAs (d : Dialect) (temporary table select : String) : Except Error String :=
  match d with
  | sqlServer => .ok ("SELECT * INTO " ++ table ++ " FROM (" ++ select ++ ") AS [src]")
  | firebird => .error .createAsUnsupported
  | _ => .ok ("CREATE " ++ temporary ++ "TABLE " ++ table ++ " AS (" ++ select ++ ")")

end Dialect

/-- The statement that creates a table, with slots for its parts. -/
def createTableTemplate : String :=
  "CREATE \x7btemp\x7dTABLE \x7btable\x7d (\n\x7bcolumns\x7d\x7bprimary\x7d\x7bunique\x7d\n)" ++
    "\x7bextension\x7d"

end SqlBuilder
