import SqlBuilder.Json.Basic

/-!
# Reading JSON

`Json.read?` reads a whole text as one JSON tree, with the fields of objects as they stand in the
text, and `Json.parse?` puts them in the order of their names.  A number with a fraction or an
exponent is a floating point number, and so is `-0`; any other number is an integer if it fits into
64 bits, with or without a sign.  A number beyond the floating point numbers is refused, and so is a
text that is nested more than `nestingLimit` deep.  A code unit of a surrogate pair is only read
together with its other half.

The readers of values, items and fields call one another; the depth bound they carry is the length
of the text, which no nesting exceeds.
-/

namespace SqlBuilder.Json

open Number

/-- The front of a text without white space. -/
def skipSpace : List Char → List Char
  | c :: cs =>
    if c = ' ' ∨ c = '\n' ∨ c = '\r' ∨ c = '\t' then skipSpace cs else c :: cs
  | [] => []

/-! ## Texts -/

/-- The value of four digits of base sixteen. -/
def hexUnit? (a b c d : Char) : Option Nat :=
  hexValues? [a, b, c, d]

/-- The character of a short escape. -/
def shortEscape? (c : Char) : Option Char :=
  if c = '"' ∨ c = '\\' ∨ c = '/' then some c
  else if c = 'n' then some '\n'
  else if c = 't' then some '\t'
  else if c = 'r' then some '\r'
  else if c = 'b' then some (Char.ofNat 8)
  else if c = 'f' then some (Char.ofNat 12)
  else none

/-- Reads a text after its opening quote: its characters, and what follows the closing quote. -/
def readText : List Char → Option (List Char × List Char)
  | '"' :: cs => some ([], cs)
  | '\\' :: 'u' :: a :: b :: c :: d :: cs =>
    match hexUnit? a b c d with
    | none => none
    | some n =>
      if 0xD800 ≤ n ∧ n < 0xDC00 then
        match cs with
        | '\\' :: 'u' :: a' :: b' :: c' :: d' :: cs' =>
          match hexUnit? a' b' c' d' with
          | none => none
          | some m =>
            if 0xDC00 ≤ m ∧ m < 0xE000 then
              (readText cs').map fun (s, rest) =>
                (Char.ofNat (0x10000 + (n - 0xD800) * 0x400 + (m - 0xDC00)) :: s, rest)
            else
              none
        | _ => none
      else if 0xDC00 ≤ n ∧ n < 0xE000 then
        none
      else
        (readText cs).map fun (s, rest) => (Char.ofNat n :: s, rest)
  | '\\' :: c :: cs =>
    match shortEscape? c with
    | none => none
    | some c => (readText cs).map fun (s, rest) => (c :: s, rest)
  | c :: cs =>
    if c.toNat < 32 then none else (readText cs).map fun (s, rest) => (c :: s, rest)
  | [] => none

/-! ## Numbers -/

/-- A leading run of digits and the rest. -/
def spanDigits (cs : List Char) : List Char × List Char :=
  (cs.takeWhile Char.isDigit, cs.dropWhile Char.isDigit)

/-- Reads the digits of an exponent. -/
def readInteger (negative : Bool) (cs : List Char) : Option (Int × List Char) :=
  let (ds, rest) := spanDigits cs
  let n : Int := digitsValue ds
  if ds.isEmpty then none else some (if negative then -n else n, rest)

/-- Reads an exponent after its mark. -/
def readExponent : List Char → Option (Int × List Char)
  | '-' :: cs => readInteger true cs
  | '+' :: cs => readInteger false cs
  | cs => readInteger false cs

/-- Reads the digits after a decimal point, if there is one. -/
def readFraction : List Char → Option (Option (List Char) × List Char)
  | '.' :: rest =>
    let (ds, rest) := spanDigits rest
    if ds.isEmpty then none else some (some ds, rest)
  | rest => some (none, rest)

/-- Reads an exponent with its mark, if there is one. -/
def readScale : List Char → Option (Option Int × List Char)
  | 'e' :: rest | 'E' :: rest => (readExponent rest).map fun (e, rest) => (some e, rest)
  | rest => some (none, rest)

/-- The number with the given parts, unless it is beyond the floating point numbers. -/
def ofParts? (negative : Bool) (whole : List Char) (fraction : Option (List Char))
    (exponent : Option Int) : Option Json :=
  let e : Int := exponent.getD 0 - (fraction.getD []).length
  let n := digitsValue (whole ++ fraction.getD [])
  let fits := if negative then n ≠ 0 ∧ n ≤ 1 <<< 63 else n < UInt64.size
  if fraction.isNone ∧ exponent.isNone ∧ fits then
    some (int (if negative then -n else n))
  else
    let x := Binary64.ofDecimal negative n e
    if x.isFinite then some (float x) else none

/-- Reads a number without its sign. -/
def readUnsigned (negative : Bool) (cs : List Char) : Option (Json × List Char) := do
  let (whole, rest) := spanDigits cs
  if whole.isEmpty ∨ (whole.head? = some '0' ∧ 1 < whole.length) then none
  else
    let (fraction, rest) ← readFraction rest
    let (exponent, rest) ← readScale rest
    let j ← ofParts? negative whole fraction exponent
    some (j, rest)

/-- Reads a number. -/
def readNumber : List Char → Option (Json × List Char)
  | '-' :: cs => readUnsigned true cs
  | cs => readUnsigned false cs

/-! ## Trees -/

/-- The rest of a text after a word it must begin with. -/
def afterWord (word : String) (cs : List Char) : Option (List Char) :=
  if word.toList.isPrefixOf cs then some (cs.drop word.length) else none

mutual

/-- Reads a tree at the front of a text. -/
def readTree : Nat → List Char → Option (Json × List Char)
  | 0, _ => none
  | bound + 1, cs =>
    match skipSpace cs with
    | 'n' :: cs => (afterWord "ull" cs).map fun rest => (null, rest)
    | 't' :: cs => (afterWord "rue" cs).map fun rest => (bool true, rest)
    | 'f' :: cs => (afterWord "alse" cs).map fun rest => (bool false, rest)
    | '"' :: cs => (readText cs).map fun (s, rest) => (text (String.ofList s), rest)
    | '[' :: cs =>
      match skipSpace cs with
      | ']' :: rest => some (array [], rest)
      | cs => (readItems bound cs).map fun (js, rest) => (array js, rest)
    | '{' :: cs =>
      match skipSpace cs with
      | '}' :: rest => some (object [], rest)
      | cs => (readFields bound cs).map fun (fs, rest) => (object fs, rest)
    | cs => readNumber cs

/-- Reads the items of an array up to its closing bracket. -/
def readItems : Nat → List Char → Option (List Json × List Char)
  | 0, _ => none
  | bound + 1, cs => do
    let (j, rest) ← readTree bound cs
    match skipSpace rest with
    | ']' :: rest => some ([j], rest)
    | ',' :: rest => do
      let (js, rest) ← readItems bound rest
      some (j :: js, rest)
    | _ => none

/-- Reads the fields of an object up to its closing brace. -/
def readFields : Nat → List Char → Option (List (String × Json) × List Char)
  | 0, _ => none
  | bound + 1, cs =>
    match skipSpace cs with
    | '"' :: cs => do
      let (name, rest) ← readText cs
      match skipSpace rest with
      | ':' :: rest => do
        let (j, rest) ← readTree bound rest
        match skipSpace rest with
        | '}' :: rest => some ([(String.ofList name, j)], rest)
        | ',' :: rest => do
          let (fs, rest) ← readFields bound rest
          some ((String.ofList name, j) :: fs, rest)
        | _ => none
      | _ => none
    | _ => none

end

/-- The greatest number of arrays and objects around one another. -/
def nestingLimit : Nat := 127

/-- Reads a whole text as one tree, the fields of its objects as they stand in the text. -/
def read? (s : String) : Option Json := do
  let cs := s.toList
  let (j, rest) ← readTree (2 * cs.length + 2) cs
  if (skipSpace rest).isEmpty ∧ j.depth ≤ nestingLimit then some j else none

/-- Reads a whole text as one tree with its fields in order. -/
def parse? (s : String) : Option Json :=
  (read? s).map sorted

end SqlBuilder.Json
