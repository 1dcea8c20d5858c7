/-!
# Decimal digits

Writing natural numbers and integers in base ten, reading runs of digits, and padding.  Reading
and writing are on lists of characters: `digitsValue (natDigits n) = n` is what the two are for.
-/

namespace SqlBuilder.Number

/-- The decimal digits of `n`, most significant first; zero is one digit. -/
def natDigits (n : Nat) : List Char :=
  Nat.toDigits 10 n

/-- The decimal text of a natural number. -/
def natText (n : Nat) : String :=
  String.ofList (natDigits n)

/-- The decimal text of an integer, with a minus sign before a negative one. -/
def intText (n : Int) : String :=
  if n < 0 then "-" ++ natText n.natAbs else natText n.natAbs

/-- The number that a run of decimal digits stands for. -/
def digitsValue (cs : List Char) : Nat :=
  cs.foldl (fun n c => 10 * n + (c.toNat - '0'.toNat)) 0

/-- The leading digits of a text, at most `width` of them, and what follows. -/
def takeDigits : Nat → List Char → List Char × List Char
  | width + 1, c :: cs =>
    if c.isDigit then
      let (ds, rest) := takeDigits width cs
      (c :: ds, rest)
    else
      ([], c :: cs)
  | _, cs => ([], cs)

/-- The digits of `n`, with zeros in front up to `width` digits. -/
def padded (width n : Nat) : String :=
  let ds := natDigits n
  String.ofList (List.replicate (width - ds.length) '0' ++ ds)

/-- A digit of base sixteen, in lower case. -/
def hexDigit (n : Nat) : Char :=
  if n < 10 then Char.ofNat ('0'.toNat + n) else Char.ofNat ('a'.toNat + (n - 10))

/-- The value of a digit of base sixteen, in either case. -/
def hexValue? (c : Char) : Option Nat :=
  if c.isDigit then
    some (c.toNat - '0'.toNat)
  else if 'a' ≤ c ∧ c ≤ 'f' then
    some (c.toNat - 'a'.toNat + 10)
  else if 'A' ≤ c ∧ c ≤ 'F' then
    some (c.toNat - 'A'.toNat + 10)
  else
    none

/-- The value of a run of digits of base sixteen; `none` for any other character. -/
def hexValues? (cs : List Char) : Option Nat :=
  cs.foldlM (fun n c => (hexValue? c).map (16 * n + ·)) 0

end SqlBuilder.Number
