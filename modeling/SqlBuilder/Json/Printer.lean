import SqlBuilder.Json.Basic
import SqlBuilder.Number.Shortest

/-!
# Writing JSON

`Json.render` writes a tree without any space.  A floating point number keeps a decimal point or an
exponent, so that it reads back as one; infinities and NaN have no JSON text and are written `null`.
Of the characters of a text only the quote, the backslash and the control characters are escaped.
-/

namespace SqlBuilder.Json

open Number

/-- A character inside a quoted text. -/
def escapeChar (c : Char) : List Char :=
  if c = '"' then ['\\', '"']
  else if c = '\\' then ['\\', '\\']
  else if c = '\n' then ['\\', 'n']
  else if c = '\t' then ['\\', 't']
  else if c = '\r' then ['\\', 'r']
  else if c.toNat = 8 then ['\\', 'b']
  else if c.toNat = 12 then ['\\', 'f']
  else if c.toNat < 32 then
    ['\\', 'u', '0', '0', hexDigit (c.toNat / 16), hexDigit (c.toNat % 16)]
  else [c]

/-- A text in quotes. -/
def quoted (s : String) : String :=
  "\"" ++ String.ofList (s.toList.flatMap escapeChar) ++ "\""

/-- The text of a number. -/
def floatText (x : Binary64) : String :=
  if x.isFinite then x.scientific else "null"

mutual

/-- The text of a tree. -/
def render : Json → String
  | null => "null"
  | bool b => if b then "true" else "false"
  | int n => intText n
  | float x => floatText x
  | text s => quoted s
  | array items => "[" ++ String.intercalate "," (renderList items) ++ "]"
  | object fields => "\x7b" ++ String.intercalate "," (renderFields fields) ++ "\x7d"

/-- The texts of a list of trees. -/
def renderList : List Json → List String
  | [] => []
  | j :: js => j.render :: renderList js

/-- The texts of a list of fields. -/
def renderFields : List (String × Json) → List String
  | [] => []
  | (name, j) :: fs => (quoted name ++ ":" ++ j.render) :: renderFields fs

end

end SqlBuilder.Json
