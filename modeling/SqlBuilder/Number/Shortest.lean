import SqlBuilder.Number.Binary64

/-!
# The shortest decimal text of a floating point number

Every finite `Binary64` is the nearest one to all the reals of an interval around it.
`Binary64.shortest` finds the decimal with the fewest digits in that interval, and the nearest to
the number among those: it tries one digit, two digits, and so on up to seventeen, and tests for
each count the two neighbours of the number on the decimal grid.  A `Tie` says which of them is
taken where the number lies in the middle between them.

Two notations are built from it.  `Binary64.positional` writes all digits around the decimal point
and never an exponent (`1000000`, `0.0000001`, `-0`), and takes the upper neighbour in a tie;
`Binary64.scientific` keeps a decimal point or an exponent, so that the text of a number never reads
as an integer (`2.0`, `1e+300`), and takes the even neighbour in a tie.
-/

namespace SqlBuilder.Binary64

open Number

/-! ## The digits -/

/-- The decimal exponent of the leading digit of `num / den`, for a ratio other than zero. -/
def leadingExponent (num den : Nat) : Int :=
  if den ≤ num then
    ((natDigits (num / den)).length : Int) - 1
  else
    -((natDigits ((den - 1) / num)).length : Int)

/-- The interval of reals that round to a number, as numerators over the common denominator
`denominator`, with the number itself. -/
structure Interval where
  low : Nat
  value : Nat
  high : Nat
  denominator : Nat
  /-- Do the ends round to the number as well? -/
  closed : Bool

/-- The interval of a finite number other than zero. -/
def interval (x : Binary64) : Interval :=
  let (m, q) := x.decode
  let (num, den) := scaleRatio 2 1 4 q
  -- The gap below a power of two is half the gap above it.
  let below := if m = leadingBit ∧ x.exponentField ≠ 1 then 1 else 2
  ⟨(4 * m - below) * num, 4 * m * num, (4 * m + 2) * num, den, m % 2 = 0⟩

/-- Does the interval hold `digits * 10 ^ exponent`? -/
def Interval.holds (i : Interval) (digits : Nat) (exponent : Int) : Bool :=
  let (num, den) := scaleRatio 10 digits 1 exponent
  let point := num * i.denominator
  if i.closed then
    i.low * den ≤ point && point ≤ i.high * den
  else
    i.low * den < point && point < i.high * den

/-- The neighbour that is taken of a number in the middle between two. -/
inductive Tie where
  /-- The one farther from zero. -/
  | up
  /-- The one whose last digit is even. -/
  | even
deriving DecidableEq

/-- Does a number that lies `rest / den` above the integer `below` go up to the next integer? -/
def Tie.goesUp (tie : Tie) (below rest den : Nat) : Bool :=
  den < 2 * rest || (2 * rest = den && (tie = up || below % 2 = 1))

/-- The neighbour of the number with `count` digits that lies in the interval, the nearer one if
both do; the answer is `(digits, exponent)`. -/
def Interval.gridPoint? (i : Interval) (tie : Tie) (lead : Int) (count : Nat) :
    Option (Nat × Int) :=
  let exponent := lead + 1 - count
  let (num, den) := scaleRatio 10 i.value i.denominator (-exponent)
  let below := num / den
  let above := below + 1
  match i.holds below exponent, i.holds above exponent with
  | true, true =>
    some (if tie.goesUp below (num % den) den then above else below, exponent)
  | true, false => some (below, exponent)
  | false, true => some (above, exponent)
  | false, false => none

/-- Digits and exponent of the shortest decimal that reads back as the finite number `x`; trailing
zeros go to the exponent. -/
def shortest (x : Binary64) (tie : Tie) : Nat × Int :=
  if x.decode.1 = 0 then
    (0, 0)
  else
    let i := x.interval
    let lead := leadingExponent i.value i.denominator
    match (List.range' 1 17).findSome? (i.gridPoint? tie lead) with
    | some (digits, exponent) => dropZeros 17 digits exponent
    | none => (0, 0)
where
  /-- Moves trailing zeros of the digits to the exponent. -/
  dropZeros : Nat → Nat → Int → Nat × Int
    | n + 1, digits, exponent =>
      if digits % 10 = 0 ∧ digits ≠ 0 then dropZeros n (digits / 10) (exponent + 1)
      else (digits, exponent)
    | 0, digits, exponent => (digits, exponent)

/-! ## Notations -/

/-- Digits around a decimal point that stands before the digit number `point` (which may lie left
or right of all digits). -/
def placePoint (ds : List Char) (point : Int) : List Char :=
  if point ≤ 0 then
    ['0', '.'] ++ List.replicate (-point).toNat '0' ++ ds
  else if (ds.length : Int) ≤ point then
    ds ++ List.replicate (point.toNat - ds.length) '0'
  else
    ds.take point.toNat ++ '.' :: ds.drop point.toNat

/-- A minus sign for a negative number. -/
def signText (x : Binary64) : String :=
  if x.isNegative then "-" else ""

/-- The number without an exponent, and without a fraction when it has none. -/
def positional (x : Binary64) : String :=
  if x.isNaN then
    "NaN"
  else if !x.isFinite then
    x.signText ++ "inf"
  else
    let (digits, exponent) := x.shortest .up
    let ds := natDigits digits
    let body := if digits = 0 then ['0'] else placePoint ds ((ds.length : Int) + exponent)
    x.signText ++ String.ofList body

/-- A finite number with a decimal point (up to sixteen places before it and four zeros after it)
or, beyond that, with an exponent and its sign. -/
def scientific (x : Binary64) : String :=
  let (digits, exponent) := x.shortest .even
  let ds := natDigits digits
  let point : Int := (ds.length : Int) + exponent
  let body :=
    if digits = 0 then
      ['0', '.', '0']
    else if 0 ≤ exponent ∧ point ≤ 16 then
      placePoint ds point ++ ['.', '0']
    else if -5 < point ∧ point ≤ 16 then
      placePoint ds point
    else
      let mantissa := if ds.length = 1 then ds else ds.take 1 ++ '.' :: ds.drop 1
      let sign := if 1 ≤ point then "+" else ""
      mantissa ++ 'e' :: (sign ++ intText (point - 1)).toList
  x.signText ++ String.ofList body

end SqlBuilder.Binary64
