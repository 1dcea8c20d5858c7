import SqlBuilder.Calendar.Text
import SqlBuilder.Json.Printer
import SqlBuilder.Text.Split
import SqlBuilder.Value.Basic

/-!
# Values as SQL text

`Value.display` writes a value the way a statement with its bindings inlined shows it: texts in
single quotes with every quote doubled, times without their fraction of a second, bytes in base
sixteen, the items of an array separated by commas, and a variable by its name after a colon.
-/

namespace SqlBuilder.Value

open Number

/-- A text in single quotes, every single quote in it doubled. -/
def singleQuoted (s : String) : String :=
  "'" ++ Text.double '\'' s ++ "'"

/-- Two digits of base sixteen for each byte. -/
def hexText (bs : List UInt8) : String :=
  String.ofList (bs.flatMap fun b => [hexDigit (b.toNat / 16), hexDigit (b.toNat % 16)])

mutual

/-- The value as SQL text. -/
def display : Value → String
  | null => "NULL"
  | bool b => if b then "true" else "false"
  | int n => intText n.toInt
  | float x => x.positional
  | decimal d => d.text
  | text s => singleQuoted s
  | uuid u => "'" ++ u.text ++ "'"
  | date d => "'" ++ d.text ++ "'"
  | time t => "'" ++ t.clockText ++ "'"
  | timestamp t => "'" ++ t.plainText ++ "'"
  | timestampUtc t => "'" ++ t.plainText ++ "+00:00'"
  | bytes bs => "'\\x" ++ hexText bs ++ "'"
  | json j => singleQuoted j.render
  | array items => String.intercalate ", " (displayList items)
  | reference name => ":" ++ name
  | literal sql => sql

/-- The values of a list as SQL texts. -/
def displayList : List Value → List String
  | [] => []
  | v :: vs => v.display :: displayList vs

end

end SqlBuilder.Value
