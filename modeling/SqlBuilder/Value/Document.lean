import SqlBuilder.Calendar.Text
import SqlBuilder.Json.Document
import SqlBuilder.Number.Shortest
import SqlBuilder.Value.Basic

/-!
# Values as documents

A value is written as a member with one part, named for its type; null has no part.  Decimals,
identifiers, dates and times are written as texts.  A decimal is also read from a number.
-/

namespace SqlBuilder

open Json

/-! ## Texts -/

namespace Document

/-- A type whose values are written as texts. -/
def viaText? {α : Type} (ofText? : String → Option α) : Json → Option α
  | .text s => ofText? s
  | _ => none

instance : Document Decimal where
  encode d := .text d.text
  decode?
    | .text s => Decimal.read? s
    | .int n => Decimal.ofInt? n
    | .float x => Decimal.ofText? x.positional
    | _ => none

instance : Document Uuid := ⟨fun u => .text u.text, viaText? Uuid.ofText?⟩

instance : Document Date := ⟨fun d => .text d.text, viaText? Date.ofText?⟩

instance : Document TimeOfDay := ⟨fun t => .text t.text, viaText? TimeOfDay.ofText?⟩

end Document

namespace Value

/-! ## Writing -/

mutual

/-- The document of a value. -/
def document : Value → Json
  | null => .text "Null"
  | bool b => tagged "Bool" (encode b)
  | int n => tagged "Int" (encode n)
  | float x => tagged "Float" (encode x)
  | decimal d => tagged "Decimal" (encode d)
  | text s => tagged "String" (encode s)
  | uuid u => tagged "Uuid" (encode u)
  | date d => tagged "Date" (encode d)
  | time t => tagged "Time" (encode t)
  | timestamp t => tagged "Timestamp" (.text t.text)
  | timestampUtc t => tagged "TimestampTz" (.text (t.text ++ "Z"))
  | bytes bs => tagged "Bytes" (encode bs)
  | json j => tagged "Json" j
  | array items => tagged "Array" (.array (documents items))
  | reference name => tagged "Variable" (encode name)
  | literal sql => tagged "Literal" (encode sql)

/-- The documents of a list of values. -/
def documents : List Value → List Json
  | [] => []
  | v :: vs => v.document :: documents vs

end

/-! ## Reading -/

/-- Reads a member that is no array. -/
def ofScalar? (name : String) (content : Json) : Option Value :=
  match name with
  | "Null" => if content matches .null then some null else none
  | "Bool" => (decode? content).map bool
  | "Int" => (decode? content).map int
  | "Float" => (decode? content).map float
  | "Decimal" => (decode? content).map decimal
  | "String" => (decode? content).map text
  | "Uuid" => (decode? content).map uuid
  | "Date" => (decode? content).map date
  | "Time" => (decode? content).map time
  | "Timestamp" => (Document.viaText? DateTime.ofText? content).map timestamp
  | "TimestampTz" => (Document.viaText? DateTime.ofOffsetText? content).map timestampUtc
  | "Bytes" => (decode? content).map bytes
  | "Variable" => (decode? content).map reference
  | "Literal" => (decode? content).map literal
  | _ => none

mutual

/-- Reads the document of a value. -/
def ofDocument? : Json → Option Value
  | .object [("Array", .array items)] => (ofDocuments? items).map array
  | .object [("Json", j)] => some (json j)
  | .object [(name, content)] => ofScalar? name content
  | .text name => ofScalar? name .null
  | _ => none

/-- Reads a list of documents. -/
def ofDocuments? : List Json → Option (List Value)
  | [] => some []
  | j :: js => do
    let v ← ofDocument? j
    let vs ← ofDocuments? js
    some (v :: vs)

end

instance : Document Value := ⟨document, ofDocument?⟩

end Value

end SqlBuilder
