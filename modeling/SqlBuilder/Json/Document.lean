import SqlBuilder.Json.Basic
import SqlBuilder.Statement.Keyword

/-!
# Documents

A `Document` type is one whose values can be written as JSON trees and read back.  `encode` writes a
value, and `decode?` reads a tree and refuses whatever does not stand for a value of the type:
numbers that do not fit, unknown names, and missing fields.

There are three shapes.  A *record* is an object with a field for each part; fields that it does not
have are skipped, an optional part may be missing, and an array of the parts in their order is read
as well (`recordFields?`).  A *member* of an enumeration is its name, as a text (`memberName?`).  A
member that has parts is an object with one field, named for the member (`tagged`, `variant?`).
-/

namespace SqlBuilder

/-- Types whose values are written as JSON trees. -/
class Document (α : Type) where
  encode : α → Json
  decode? : Json → Option α

export Document (encode decode?)

namespace Json

/-! ## Records -/

/-- The fields of a record with the given parts: the fields of an object, or the items of an array,
of which those after the first `required` ones may be missing. -/
def recordFields? (parts : List String) (required : Nat) : Json → Option (List (String × Json))
  | object fields => some fields
  | array items =>
    if required ≤ items.length ∧ items.length ≤ parts.length then some (parts.zip items) else none
  | _ => none

/-- Reads a part that must be there. -/
def part? {α : Type} [Document α] (name : String) (fields : List (String × Json)) : Option α :=
  (fields.lookup name).bind decode?

/-- Reads a part that may be missing or null. -/
def optionalPart? {α : Type} [Document α] (name : String) (fields : List (String × Json)) :
    Option (Option α) :=
  match fields.lookup name with
  | none | some null => some none
  | some j => (decode? j).map some

/-! ## Members of enumerations -/

/-- A member with a part. -/
def tagged (name : String) (content : Json) : Json :=
  object [(name, content)]

/-- A member with its parts. -/
def taggedRecord (name : String) (fields : List (String × Json)) : Json :=
  tagged name (object fields)

/-- The name of a member and its content. -/
def variant? : Json → Option (String × Json)
  | text name => some (name, null)
  | object [(name, content)] => some (name, content)
  | _ => none

/-- The name of a member that has no parts. -/
def memberName? : Json → Option String
  | text name | object [(name, null)] => some name
  | _ => none

end Json

/-! ## Simple types -/

namespace Document

open Json

instance : Document Json := ⟨id, some⟩

instance : Document Bool where
  encode := .bool
  decode?
    | .bool b => some b
    | _ => none

instance : Document String where
  encode := .text
  decode?
    | .text s => some s
    | _ => none

/-- A character is a text of one character. -/
instance : Document Char where
  encode c := .text (String.singleton c)
  decode?
    | .text s =>
      match s.toList with
      | [c] => some c
      | _ => none
    | _ => none

/-- An integer from `low` up to but without `high`. -/
def integer? (low high : Int) : Json → Option Int
  | .int n => if low ≤ n ∧ n < high then some n else none
  | _ => none

instance : Document Int64 where
  encode n := .int n.toInt
  decode? j := (integer? Int64.minValue.toInt (Int64.maxValue.toInt + 1) j).map Int64.ofInt

instance : Document UInt64 where
  encode n := .int n.toNat
  decode? j := (integer? 0 UInt64.size j).map fun n => UInt64.ofNat n.toNat

instance : Document UInt32 where
  encode n := .int n.toNat
  decode? j := (integer? 0 UInt32.size j).map fun n => UInt32.ofNat n.toNat

instance : Document UInt8 where
  encode n := .int n.toNat
  decode? j := (integer? 0 UInt8.size j).map fun n => UInt8.ofNat n.toNat

/-- A number without a JSON text is written as null, which does not read back. -/
instance : Document Binary64 where
  encode x := if x.isFinite then .float x else .null
  decode?
    | .float x => some x
    | .int n => some (Binary64.ofInt n)
    | _ => none

instance {α : Type} [Document α] : Document (List α) where
  encode xs := .array (xs.map encode)
  decode?
    | .array items => items.mapM decode?
    | _ => none

/-- Nothing is null. -/
instance {α : Type} [Document α] : Document (Option α) where
  encode
    | some a => encode a
    | none => .null
  decode?
    | .null => some none
    | j => (decode? j).map some

/-- A member without parts is written as its name. -/
instance (priority := low) {α : Type} [Vocabulary α] : Document α where
  encode a := .text (Vocabulary.name a)
  decode? j := j.memberName?.bind Vocabulary.ofName?

end Document

end SqlBuilder
