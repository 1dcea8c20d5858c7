import SqlBuilder.Statement.Keyword

/-!
# Table definitions

The columns of a created table (`TableColumn`) with their portable types (`DataType`), and the
options of the table itself.  A column is not nullable unless it says so.
-/

namespace SqlBuilder

/-- The portable column types; each dialect has its own spelling of them. -/
inductive DataType where
  | smallInt
  | integer
  | bigInt
  | decimal (precision scale : UInt8)
  | float
  | double
  | boolean
  | char (length : UInt32)
  | varchar (length : UInt32)
  | text
  | date
  | time
  | timestamp
  | timestampUtc
  | uuid
  | binary
  | json
  /-- A type spelled out by the user. -/
  | custom (name : String)
deriving DecidableEq

/-- A column of a created table. -/
structure TableColumn where
  name : String
  type : DataType
  nullable : Bool := false
  primaryKey : Bool := false
  unique : Bool := false
  /-- Numbered by the database; a table has at most one such column. -/
  identity : Bool := false
deriving DecidableEq

/-- Does a table outlive its session? -/
inductive TableKind where
  | permanent
  | temporary
deriving DecidableEq

instance : Vocabulary TableKind where
  members := [.permanent, .temporary]
  name
    | .permanent => "Permanent"
    | .temporary => "Temporary"

/-- Options that only some dialects have. -/
inductive TableExtension where
  /-- A temporary table keeps its rows after a commit. -/
  | onCommitPreserveRows (preserve : Bool)
deriving DecidableEq

end SqlBuilder
