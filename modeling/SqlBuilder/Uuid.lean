import SqlBuilder.Number.Digits

/-!
# Universally unique identifiers

A `Uuid` is 128 bits.  It is written as thirty-two digits of base sixteen in lower case, in groups
of 8, 4, 4, 4 and 12 with hyphens between them; it is also read without hyphens, in upper case, in
braces, and with the prefix `urn:uuid:` in any letter case.
-/

namespace SqlBuilder

/-- A universally unique identifier. -/
structure Uuid where
  value : BitVec 128
deriving DecidableEq

namespace Uuid

open Number

/-- The digits of base sixteen, most significant first. -/
def digits (u : Uuid) : List Char :=
  (List.range 32).map fun i => hexDigit (u.value.toNat / Nat.pow 16 (31 - i) % 16)

/-- The groups of digits with hyphens between them. -/
def text (u : Uuid) : String :=
  let ds := u.digits
  let group (start size : Nat) := String.ofList ((ds.drop start).take size)
  String.intercalate "-" [group 0 8, group 8 4, group 12 4, group 16 4, group 20 12]

/-- Thirty-two digits without hyphens. -/
def ofDigits? (cs : List Char) : Option Uuid :=
  if cs.length = 32 then
    (hexValues? cs).map fun n => ⟨BitVec.ofNat 128 n⟩
  else
    none

/-- Thirty-two digits with hyphens between the groups. -/
def ofGroups? (cs : List Char) : Option Uuid :=
  let hyphens := [8, 13, 18, 23]
  if cs.length = 36 ∧ hyphens.all (cs[·]? = some '-') then
    ofDigits? (cs.take 8 ++ (cs.drop 9).take 4 ++ (cs.drop 14).take 4 ++ (cs.drop 19).take 4 ++
      cs.drop 24)
  else
    none

/-- Reads any of the written forms. -/
def ofText? (s : String) : Option Uuid :=
  let cs := s.toList
  if cs.length = 38 ∧ cs.head? = some '{' ∧ cs.getLast? = some '}' then
    ofGroups? ((cs.drop 1).take 36)
  else if cs.length = 45 ∧ (cs.take 9).map Char.toLower = "urn:uuid:".toList then
    ofGroups? (cs.drop 9)
  else
    ofGroups? cs <|> ofDigits? cs

end Uuid

end SqlBuilder
