import SqlBuilder.Proofs.Text.Digits
import SqlBuilder.Uuid

/-!
# Reading an identifier that is written

The thirty-two digits of an identifier read back as its value (`Uuid.hexValues?_digits`), and so
does its text: the hyphens that are put between the groups are taken out again
(`Uuid.ofText?_text`).
-/

namespace SqlBuilder.Uuid

open Number

/-! ## Digits -/

/-- The first `count` digits stand for the value without the digits after them. -/
theorem hexValues?_range_map (n : Nat) {count : Nat} (h : count ≤ 32) :
    hexValues? ((List.range count).map fun i => hexDigit (n / Nat.pow 16 (31 - i) % 16)) =
      some (n / 16 ^ (32 - count) % 16 ^ count) := by
  induction count with
  | zero => simp [hexValues?, Nat.mod_one]
  | succ count ih =>
    have hdigit : n / Nat.pow 16 (31 - count) % 16 < 16 := Nat.mod_lt _ (by decide)
    have hplace : 32 - count = (31 - count) + 1 := by omega
    have hshift : n / 16 ^ (32 - count) = n / 16 ^ (31 - count) / 16 := by
      rw [hplace, Nat.pow_succ, Nat.div_div_eq_div_mul]
    rw [List.range_succ, List.map_append, List.map_singleton,
      hexValues?_append_hexDigit (ih (by omega)) hdigit, hshift, Nat.pow_succ', Nat.mod_mul,
      Nat.add_comm, show 32 - (count + 1) = 31 - count by omega]
    rfl

theorem length_digits (u : Uuid) : u.digits.length = 32 := by
  simp [digits]

theorem hexValues?_digits (u : Uuid) : hexValues? u.digits = some u.value.toNat := by
  have hbound : u.value.toNat < 16 ^ 32 := Nat.lt_of_lt_of_eq u.value.isLt (by decide)
  rw [digits, hexValues?_range_map _ (Nat.le_refl 32), Nat.sub_self, Nat.pow_zero, Nat.div_one,
    Nat.mod_eq_of_lt hbound]

theorem ofDigits?_digits (u : Uuid) : ofDigits? u.digits = some u := by
  rw [ofDigits?, if_pos u.length_digits, hexValues?_digits, Option.map_some]
  simp

/-! ## Groups -/

/-- Hyphens between the groups are taken out again. -/
theorem ofGroups?_hyphenated {a b c d e : List Char} (ha : a.length = 8) (hb : b.length = 4)
    (hc : c.length = 4) (hd : d.length = 4) (he : e.length = 12) :
    ofGroups? (a ++ '-' :: (b ++ '-' :: (c ++ '-' :: (d ++ '-' :: e)))) =
      ofDigits? (a ++ b ++ c ++ d ++ e) := by
  simp [ofGroups?, List.getElem?_append, List.drop_append, List.drop_eq_nil_of_le, ha, hb, hc, hd,
    he]

/-- The text is the digits in five groups with hyphens between them. -/
theorem toList_text (u : Uuid) : ∃ a b c d e : List Char,
    a.length = 8 ∧ b.length = 4 ∧ c.length = 4 ∧ d.length = 4 ∧ e.length = 12 ∧
      u.digits = a ++ b ++ c ++ d ++ e ∧
      u.text.toList = a ++ '-' :: (b ++ '-' :: (c ++ '-' :: (d ++ '-' :: e))) := by
  have hlength := u.length_digits
  refine ⟨u.digits.take 8, (u.digits.drop 8).take 4, (u.digits.drop 12).take 4,
    (u.digits.drop 16).take 4, (u.digits.drop 20).take 12, by simp [hlength], by simp [hlength],
    by simp [hlength], by simp [hlength], by simp [hlength], ?_, by simp [text]⟩
  rw [List.take_of_length_le (by simp [hlength] : (u.digits.drop 20).length ≤ 12)]
  simp only [← List.take_add, List.take_append_drop]

/-- The text of an identifier is read as the identifier. -/
theorem ofText?_text (u : Uuid) : ofText? u.text = some u := by
  obtain ⟨a, b, c, d, e, ha, hb, hc, hd, he, hdigits, htext⟩ := u.toList_text
  have hlength : u.text.toList.length = 36 := by simp [htext, ha, hb, hc, hd, he]
  have hread : ofGroups? u.text.toList = some u := by
    rw [htext, ofGroups?_hyphenated ha hb hc hd he, ← hdigits, ofDigits?_digits]
  simp [ofText?, hlength, hread]

end SqlBuilder.Uuid
