import SqlBuilder.Number.Digits

/-!
# Decimal numbers with a scale

A `Decimal` is a sign, a coefficient of at most 96 bits, and the number of its digits that stand
after the decimal point, at most 28: `1.50` is the coefficient 150 with scale 2 and differs from
`1.5`.  The bounds are part of the type.

`Decimal.text` writes all digits of the scale; `Decimal.ofText?` reads plain notation (`-12.50`,
`1_000`, `.5`, `5.`) and rounds a fraction that does not fit, and `Decimal.ofScientific?` reads a
mantissa with an exponent.  Zero has no sign, unless it is what a shift by an exponent has left of a
negative number.
-/

namespace SqlBuilder

/-- The first number that does not fit into 96 bits. -/
abbrev Decimal.coefficientBound : Nat :=
  1 <<< 96

/-- `coefficient / 10 ^ scale` with a sign, the scale being kept. -/
structure Decimal where
  negative : Bool
  coefficient : Nat
  scale : Nat
  coefficient_lt : coefficient < Decimal.coefficientBound
  scale_le : scale ≤ 28
deriving DecidableEq

namespace Decimal

open Number

/-- The decimal with this sign, coefficient and scale, if both are within their bounds. -/
def mk? (negative : Bool) (coefficient scale : Nat) : Option Decimal :=
  if h : coefficient < coefficientBound ∧ scale ≤ 28 then
    some ⟨negative, coefficient, scale, h.1, h.2⟩
  else
    none

/-- An integer as a decimal of scale zero. -/
def ofInt? (n : Int) : Option Decimal :=
  mk? (n < 0) n.natAbs 0

/-- An unsigned 64-bit integer as a decimal of scale zero. -/
def ofUInt64 (n : UInt64) : Decimal where
  negative := false
  coefficient := n.toNat
  scale := 0
  coefficient_lt := Nat.lt_trans n.toNat_lt (by decide)
  scale_le := by decide

/-! ## Writing -/

/-- All digits of the coefficient, with the decimal point before the last `scale` of them. -/
def text (d : Decimal) : String :=
  let ds := natDigits d.coefficient
  let ds := List.replicate (d.scale + 1 - ds.length) '0' ++ ds
  let whole := ds.take (ds.length - d.scale)
  let fraction := ds.drop (ds.length - d.scale)
  let sign := if d.negative then "-" else ""
  sign ++ String.ofList (if d.scale = 0 then whole else whole ++ '.' :: fraction)

/-! ## Reading -/

/-- A coefficient is long if it is at least this without its last digit: a further digit might then
not fit into a machine word. -/
abbrev longCoefficient : Nat :=
  UInt64.size / 10 - 255

/-- Do the characters beyond the last digit that fits ask for rounding up?  The first of them
decides; after a long coefficient, underscores before it are passed over. -/
def roundsUp (data : Nat) (cs : List Char) : Bool :=
  let cs := if longCoefficient ≤ data / 10 then cs.dropWhile (· = '_') else cs
  cs.head?.any fun c => c.isDigit && '5' ≤ c

/-- Rounds by the characters beyond the last digit that fits, which must be digits and underscores.
A coefficient that no longer fits when it is rounded up gives up its last digit as well. -/
def roundBy (data scale : Nat) (cs : List Char) : Option (Nat × Nat) :=
  if !cs.all fun c => c.isDigit || c = '_' then none
  else if !roundsUp data cs then some (data, scale)
  else if data + 1 < coefficientBound then some (data + 1, scale)
  else if scale = 0 then none
  else some ((data + 5) / 10, scale - 1)

/-- Reads the digits after a sign into a coefficient and a scale.  `point` says that the decimal
point has been read and `started` that a digit has. -/
def scan (point started : Bool) (data scale : Nat) : List Char → Option (Nat × Nat)
  | [] => if started then some (data, scale) else none
  | c :: cs =>
    if point && 28 ≤ scale then
      roundBy data scale (c :: cs)
    else if c.isDigit then
      let next := 10 * data + (c.toNat - '0'.toNat)
      if next < coefficientBound then
        scan point true next (if point then scale + 1 else 0) cs
      else if point then
        roundBy data scale (c :: cs)
      else
        none
    else if c = '.' && !point then
      scan true started data scale cs
    else if c = '_' && started then
      scan point started data scale cs
    else
      none

/-- Reads what follows a sign. -/
def ofDigits? (negative : Bool) (cs : List Char) : Option Decimal := do
  let (data, scale) ← scan false false 0 0 cs
  mk? (negative && data ≠ 0) data scale

/-- Plain notation: a sign, digits with underscores between them, and a decimal point. -/
def ofText? (s : String) : Option Decimal :=
  match s.toList with
  | '-' :: cs => ofDigits? true cs
  | '+' :: cs => ofDigits? false cs
  | cs => ofDigits? false cs

/-- A run of at least one digit, with a plus sign allowed before it. -/
def exponent? (cs : List Char) : Option Nat :=
  let ds := match cs with
    | '+' :: ds => ds
    | ds => ds
  if ds.isEmpty || !ds.all Char.isDigit then none
  else
    let n := digitsValue ds
    if n < UInt32.size then some n else none

/-- The number without its last digits, rounded by them, a half going up. -/
def dropDigits (count n : Nat) : Nat :=
  let unit := Nat.pow 10 count
  (2 * n + unit) / (2 * unit)

/-- Moves the decimal point to the left, by 28 places at most.  Digits beyond the largest scale are
rounded away, and the sign stays. -/
def shiftLeft? (d : Decimal) (places : Nat) : Option Decimal :=
  if 28 < places then none
  else if d.scale + places ≤ 28 then mk? d.negative d.coefficient (d.scale + places)
  else mk? d.negative (dropDigits (d.scale + places - 28) d.coefficient) 28

/-- Moves the decimal point to the right, beyond the last digit by 28 places at most. -/
def shiftRight? (d : Decimal) (places : Nat) : Option Decimal :=
  if places ≤ d.scale then mk? d.negative d.coefficient (d.scale - places)
  else if places ≤ 28 then mk? d.negative (d.coefficient * Nat.pow 10 (places - d.scale)) 0
  else none

/-- A decimal in plain notation followed by `e` and an exponent. -/
def ofScientific? (s : String) : Option Decimal := do
  let cs := s.toList
  let isMark := fun c : Char => c = 'e' || c = 'E'
  let base ← ofText? (String.ofList (cs.takeWhile (!isMark ·)))
  match cs.dropWhile (!isMark ·) with
  | _ :: '-' :: rest => base.shiftLeft? (← exponent? rest)
  | _ :: rest => base.shiftRight? (← exponent? rest)
  | [] => none

/-- Either notation. -/
def read? (s : String) : Option Decimal :=
  ofText? s <|> ofScientific? s

end Decimal

end SqlBuilder
