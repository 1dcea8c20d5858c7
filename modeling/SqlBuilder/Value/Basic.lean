import SqlBuilder.Calendar.Basic
import SqlBuilder.Json.Basic
import SqlBuilder.Number.Decimal
import SqlBuilder.Uuid

/-!
# Values

A `Value` is what a statement carries for a placeholder.  Most values are bound as they are.  An
array stands for one placeholder for each of its items, a variable for the value that it is defined
to be, and a literal for its own text, without any placeholder.

`Value.slots` counts the placeholders that a value takes up.
-/

namespace SqlBuilder

/-- A value of a statement. -/
inductive Value where
  | null
  | bool (b : Bool)
  | int (n : Int64)
  | float (x : Binary64)
  | decimal (d : Decimal)
  | text (s : String)
  | uuid (u : Uuid)
  | date (d : Date)
  | time (t : TimeOfDay)
  | timestamp (t : DateTime)
  /-- A time in universal time. -/
  | timestampUtc (t : DateTime)
  | bytes (bs : List UInt8)
  | json (j : Json)
  | array (items : List Value)
  /-- A variable, looked up in the scopes around it when the statement is compiled. -/
  | reference (name : String)
  /-- SQL that is written as it is and never bound. -/
  | literal (sql : String)

namespace Value

instance : Inhabited Value := ⟨null⟩

/-- An unsigned integer; beyond the signed range it becomes a decimal. -/
def ofUInt64 (n : UInt64) : Value :=
  if n.toNat < 1 <<< 63 then int (Int64.ofNat n.toNat) else decimal (Decimal.ofUInt64 n)

/-- Is the value null? -/
def isNull : Value → Bool
  | null => true
  | _ => false

/-- The text of a text value. -/
def asText? : Value → Option String
  | text s => some s
  | _ => none

/-- Does the value carry a date? -/
def hasDate : Value → Bool
  | date _ | timestamp _ | timestampUtc _ => true
  | _ => false

mutual

/-- The number of placeholders that the value takes up, arrays counting as their items. -/
def slots : Value → Nat
  | array items => slotsOf items
  | literal _ => 0
  | _ => 1

/-- The number of placeholders of a list of values. -/
def slotsOf : List Value → Nat
  | [] => 0
  | v :: vs => v.slots + slotsOf vs

end

end Value

end SqlBuilder
