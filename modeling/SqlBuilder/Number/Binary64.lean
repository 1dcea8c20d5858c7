import SqlBuilder.Number.Digits

/-!
# Binary floating point numbers of 64 bits

A `Binary64` is the bit pattern of a double precision number: a sign, eleven bits of exponent and
fifty-two bits of fraction.  Numbers are only read, rounded and written here, never calculated
with, so every operation is exact arithmetic on natural numbers.

`Binary64.decode` gives a finite number as a significand `m` and an exponent `q`, of absolute value
`m * 2 ^ q`.  `roundRatio` rounds a ratio of natural numbers to a significand of given width, ties
to the even neighbour, and `ofRatio` builds the nearest number from it; `ofDecimal` reads a decimal
significand and exponent, and `toSingle` rounds to single precision and widens again.
-/

namespace SqlBuilder

/-- The bit pattern of a double precision floating point number. -/
structure Binary64 where
  bits : UInt64
deriving DecidableEq, Inhabited

namespace Binary64

/-! ## Fields -/

/-- The weight of the sign bit. -/
abbrev signBit : Nat :=
  1 <<< 63

/-- The weight of the lowest bit of the exponent; a significand of full width has this bit as its
first, and it is not stored. -/
abbrev leadingBit : Nat :=
  1 <<< 52

/-- The sign bit. -/
def isNegative (x : Binary64) : Bool :=
  signBit ≤ x.bits.toNat

/-- The eleven bits of the exponent. -/
def exponentField (x : Binary64) : Nat :=
  x.bits.toNat / leadingBit % 2048

/-- The fifty-two bits of the fraction. -/
def fraction (x : Binary64) : Nat :=
  x.bits.toNat % leadingBit

/-- Neither infinite nor not a number. -/
def isFinite (x : Binary64) : Bool :=
  x.exponentField != 2047

/-- Not a number. -/
def isNaN (x : Binary64) : Bool :=
  x.exponentField == 2047 && x.fraction != 0

/-- The number with the given sign, exponent field and fraction. -/
def ofFields (negative : Bool) (exponent fraction : Nat) : Binary64 :=
  ⟨UInt64.ofNat ((if negative then signBit else 0) + exponent * leadingBit + fraction)⟩

/-- Infinity with a sign. -/
def infinity (negative : Bool) : Binary64 :=
  ofFields negative 2047 0

/-- A value that is not a number. -/
def nan : Binary64 :=
  ofFields false 2047 (leadingBit / 2)

/-- Zero with a sign. -/
def zero (negative : Bool) : Binary64 :=
  ofFields negative 0 0

/-- Significand `m` and exponent `q` of a finite number of absolute value `m * 2 ^ q`. -/
def decode (x : Binary64) : Nat × Int :=
  if x.exponentField = 0 then
    (x.fraction, -1074)
  else
    (leadingBit + x.fraction, (x.exponentField : Int) - 1075)

/-! ## Rounding -/

/-- The quotient rounded to the nearest natural number, ties to the even one. -/
def divNearest (num den : Nat) : Nat :=
  let quotient := num / den
  let rest := num % den
  if 2 * rest < den then
    quotient
  else if 2 * rest = den then
    quotient + quotient % 2
  else
    quotient + 1

/-- Multiplies a ratio by a power of `base`, keeping it a ratio of natural numbers. -/
def scaleRatio (base : Nat) (num den : Nat) (exponent : Int) : Nat × Nat :=
  if 0 ≤ exponent then
    (num * Nat.pow base exponent.toNat, den)
  else
    (num, den * Nat.pow base (-exponent).toNat)

/-- The ratio `num / den` rounded to `m * 2 ^ q` with `m` of `width` bits, or of fewer bits where
`q` would fall under `least`; `m` may be `2 ^ width` when the rounding carries. -/
def roundRatio (width : Nat) (least : Int) (num den : Nat) : Nat × Int :=
  let estimate : Int := (num.log2 : Int) - den.log2 - width
  let floorAt (q : Int) : Nat :=
    let (n, d) := scaleRatio 2 num den (-q)
    n / d
  let exponent := if floorAt estimate < 1 <<< width then estimate else estimate + 1
  let q := max exponent least
  let (n, d) := scaleRatio 2 num den (-q)
  (divNearest n d, q)

/-- The number `m * 2 ^ q`, where `m` has at most 53 bits, or 54 when it is `2 ^ 53`, and has
fewer than 53 only if `q` is the least exponent. -/
def ofSignificand (negative : Bool) (m : Nat) (q : Int) : Binary64 :=
  let (m, q) := if m = 2 * leadingBit then (leadingBit, q + 1) else (m, q)
  if m < leadingBit then
    ofFields negative 0 m
  else
    let exponent := (q + 1075).toNat
    if exponent < 2047 then ofFields negative exponent (m - leadingBit) else infinity negative

/-- The number nearest to `num / den`. -/
def ofRatio (negative : Bool) (num den : Nat) : Binary64 :=
  if num = 0 then
    zero negative
  else
    let (m, q) := roundRatio 53 (-1074) num den
    ofSignificand negative m q

/-- The number nearest to an integer. -/
def ofInt (n : Int) : Binary64 :=
  ofRatio (n < 0) n.natAbs 1

/-- The number nearest to `digits * 10 ^ exponent`.  Magnitudes far beyond the range are decided
by their decimal order, without calculating the power. -/
def ofDecimal (negative : Bool) (digits : Nat) (exponent : Int) : Binary64 :=
  let order : Int := (natDigitCount digits : Int) + exponent
  if digits = 0 ∨ order < -330 then
    zero negative
  else if 320 < order then
    infinity negative
  else
    let (num, den) := scaleRatio 10 digits 1 exponent
    ofRatio negative num den
where
  /-- The number of decimal digits. -/
  natDigitCount (n : Nat) : Nat :=
    (Number.natDigits n).length

/-- The number rounded to single precision. -/
def toSingle (x : Binary64) : Binary64 :=
  if !x.isFinite then
    x
  else
    let (m, q) := x.decode
    if m = 0 then
      x
    else
      let (num, den) := scaleRatio 2 m 1 q
      let (m, q) := roundRatio 24 (-149) num den
      let (num, den) := scaleRatio 2 m 1 q
      if den <<< 128 ≤ num then infinity x.isNegative else ofRatio x.isNegative num den

end Binary64

end SqlBuilder
