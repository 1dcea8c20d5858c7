import SqlBuilder.Number.Binary64

/-!
# Reading floating point numbers

`Binary64.ofText?` reads a decimal number: a sign, digits with a decimal point before, between or
after them, and an exponent.  `inf`, `infinity` and `nan` are read in any letter case.
-/

namespace SqlBuilder.Binary64

open Number

/-- A sign, and what follows it. -/
def splitSign : List Char → Bool × List Char
  | '-' :: cs => (true, cs)
  | '+' :: cs => (false, cs)
  | cs => (false, cs)

/-- A number for one of the words. -/
def ofWord? (negative : Bool) (cs : List Char) : Option Binary64 :=
  let word := String.ofList (cs.map Char.toLower)
  if word = "inf" ∨ word = "infinity" then some (infinity negative)
  else if word = "nan" then some nan
  else none

/-- The value of an exponent after its mark; none is zero. -/
def exponentOf? : List Char → Option Int
  | [] => some 0
  | _ :: cs =>
    let (negative, ds) := splitSign cs
    if ds.isEmpty || !ds.all Char.isDigit then none
    else
      let n : Int := digitsValue ds
      some (if negative then -n else n)

/-- A number of digits. -/
def ofDigits? (negative : Bool) (cs : List Char) : Option Binary64 := do
  let isMark := fun c : Char => c = 'e' || c = 'E'
  let mantissa := cs.takeWhile (!isMark ·)
  let exponent ← exponentOf? (cs.dropWhile (!isMark ·))
  let whole := mantissa.takeWhile (· ≠ '.')
  let fraction := (mantissa.dropWhile (· ≠ '.')).drop 1
  let ds := whole ++ fraction
  if ds.isEmpty || !ds.all Char.isDigit then none
  else some (ofDecimal negative (digitsValue ds) (exponent - fraction.length))

/-- Reads a number. -/
def ofText? (s : String) : Option Binary64 :=
  let (negative, cs) := splitSign s.toList
  ofWord? negative cs <|> ofDigits? negative cs

end SqlBuilder.Binary64
