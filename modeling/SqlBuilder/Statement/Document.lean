import SqlBuilder.Json.Document
import SqlBuilder.Statement.Table

/-!
# Table definitions as documents

A column type is written by its name, with its arguments if it has any, and a column as a record.
-/

namespace SqlBuilder

open Json

namespace DataType

/-- The names of the column types without arguments. -/
def plainNames : List (String × DataType) :=
  [("SmallInt", smallInt), ("Integer", integer), ("BigInt", bigInt), ("Float", float),
    ("Double", double), ("Boolean", boolean), ("Text", text), ("Date", date), ("Time", time),
    ("Timestamp", timestamp), ("TimestampTz", timestampUtc), ("Uuid", uuid), ("Binary", binary),
    ("Json", json)]

/-- The document of a column type. -/
def document : DataType → Json
  | decimal precision scale =>
    taggedRecord "Decimal" [("precision", encode precision), ("scale", encode scale)]
  | char length => tagged "Char" (encode length)
  | varchar length => tagged "Varchar" (encode length)
  | custom name => tagged "Custom" (encode name)
  | smallInt => .text "SmallInt"
  | integer => .text "Integer"
  | bigInt => .text "BigInt"
  | float => .text "Float"
  | double => .text "Double"
  | boolean => .text "Boolean"
  | text => .text "Text"
  | date => .text "Date"
  | time => .text "Time"
  | timestamp => .text "Timestamp"
  | timestampUtc => .text "TimestampTz"
  | uuid => .text "Uuid"
  | binary => .text "Binary"
  | json => .text "Json"

/-- Reads a column type with its arguments. -/
def ofArguments? (name : String) (content : Json) : Option DataType :=
  match name, content with
  | "Decimal", .object fs => decimal <$> part? "precision" fs <*> part? "scale" fs
  | "Char", j => (decode? j).map char
  | "Varchar", j => (decode? j).map varchar
  | "Custom", j => (decode? j).map custom
  | _, _ => none

/-- Reads the document of a column type. -/
def ofDocument? (j : Json) : Option DataType :=
  (j.memberName?.bind fun name => plainNames.lookup name) <|> j.variant?.bind fun (name, content) =>
    ofArguments? name content

instance : Document DataType := ⟨document, ofDocument?⟩

end DataType

instance : Document TableColumn where
  encode c := .object
    [("name", encode c.name), ("data_type", encode c.type), ("nullable", encode c.nullable),
      ("primary_key", encode c.primaryKey), ("unique", encode c.unique),
      ("identity", encode c.identity)]
  decode? j := do
    let fs ← recordFields?
      ["name", "data_type", "nullable", "primary_key", "unique", "identity"] 6 j
    TableColumn.mk <$> part? "name" fs <*> part? "data_type" fs <*> part? "nullable" fs <*>
      part? "primary_key" fs <*> part? "unique" fs <*> part? "identity" fs

instance : Document TableExtension where
  encode
    | .onCommitPreserveRows preserve => tagged "OnCommitPreserveRows" (encode preserve)
  decode? j :=
    match j.variant? with
    | some ("OnCommitPreserveRows", content) =>
      (decode? content).map TableExtension.onCommitPreserveRows
    | _ => none

end SqlBuilder
