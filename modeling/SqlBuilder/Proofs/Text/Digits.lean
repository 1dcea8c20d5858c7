import Mathlib.Algebra.Group.Nat.Defs
import SqlBuilder.Number.Digits

/-!
# Reading the digits that are written

Decimal digits read back as the number they were written for, with zeros in front or without
(`digitsValue_natDigits`, `digitsValue_padded`), and a reader of digits takes all of them when no
further digit follows (`takeDigits_append_of_isDigit`).  Digits of base sixteen read back one by one
(`hexValues?_append_hexDigit`).
-/

namespace SqlBuilder.Number

/-! ## Base ten -/

/-- Reading digits as core does. -/
theorem digitsValue_eq_ofDigitChars (cs : List Char) :
    digitsValue cs = Nat.ofDigitChars 10 cs 0 :=
  Nat.ofDigitChars_eq_foldl.symm

@[simp] theorem digitsValue_natDigits (n : Nat) : digitsValue (natDigits n) = n := by
  rw [digitsValue_eq_ofDigitChars, natDigits, Nat.ofDigitChars_ten_toDigits]

theorem isDigit_of_mem_natDigits {n : Nat} {c : Char} (h : c ∈ natDigits n) : c.isDigit = true :=
  Nat.isDigit_of_mem_toDigits (by decide) (by decide) h

theorem natDigits_ne_nil (n : Nat) : natDigits n ≠ [] :=
  Nat.toDigits_ne_nil

theorem length_natDigits_le {width n : Nat} (hwidth : 0 < width) (hn : n < 10 ^ width) :
    (natDigits n).length ≤ width :=
  (Nat.length_toDigits_le_iff (by decide) hwidth).mpr hn

/-! ## Padded digits -/

/-- Zeros in front do not change the number. -/
theorem digitsValue_replicate_append (count : Nat) (cs : List Char) :
    digitsValue (List.replicate count '0' ++ cs) = digitsValue cs := by
  rw [digitsValue_eq_ofDigitChars, Nat.ofDigitChars_append, Nat.ofDigitChars_replicate_zero,
    Nat.mul_zero, digitsValue_eq_ofDigitChars]

@[simp] theorem digitsValue_padded (width n : Nat) : digitsValue (padded width n).toList = n := by
  rw [padded, String.toList_ofList, digitsValue_replicate_append, digitsValue_natDigits]

theorem isDigit_of_mem_padded {width n : Nat} {c : Char} (h : c ∈ (padded width n).toList) :
    c.isDigit = true := by
  rw [padded, String.toList_ofList, List.mem_append] at h
  rcases h with h | h
  · rw [List.eq_of_mem_replicate h]
    rfl
  · exact isDigit_of_mem_natDigits h

theorem length_padded {width n : Nat} (hwidth : 0 < width) (hn : n < 10 ^ width) :
    (padded width n).toList.length = width := by
  have hlength := length_natDigits_le hwidth hn
  rw [padded, String.toList_ofList, List.length_append, List.length_replicate]
  omega

theorem padded_ne_nil (width n : Nat) : (padded width n).toList ≠ [] := by
  rw [padded, String.toList_ofList]
  exact List.append_ne_nil_of_right_ne_nil _ (natDigits_ne_nil n)

/-! ## Taking digits -/

/-- No digit stands at the front of the text. -/
def NoDigit (cs : List Char) : Prop :=
  ∀ c ∈ cs.head?, c.isDigit = false

theorem noDigit_nil : NoDigit [] := by
  intro c hc
  simp at hc

theorem noDigit_cons {c : Char} (h : c.isDigit = false) (cs : List Char) : NoDigit (c :: cs) := by
  intro d hd
  obtain rfl : c = d := by simpa using hd
  exact h

/-- A digit is no other character. -/
theorem ne_of_isDigit {c d : Char} (hc : c.isDigit = true) (hd : d.isDigit = false) : c ≠ d := by
  rintro rfl
  exact Bool.noConfusion (hc.symm.trans hd)

theorem NoDigit.dropWhile_eq {cs : List Char} (h : NoDigit cs) :
    cs.dropWhile Char.isDigit = cs := by
  cases cs with
  | nil => rfl
  | cons c cs => rw [List.dropWhile_cons, h c (by simp), if_neg Bool.false_ne_true]

/-- Digits are taken to the last one, if there are not too many of them and no other follows. -/
theorem takeDigits_append_of_isDigit {width : Nat} {ds rest : List Char}
    (hdigits : ∀ c ∈ ds, c.isDigit = true) (hwidth : ds.length ≤ width) (hrest : NoDigit rest) :
    takeDigits width (ds ++ rest) = (ds, rest) := by
  induction ds generalizing width with
  | nil =>
    cases width with
    | zero => simp [takeDigits]
    | succ width =>
      cases rest with
      | nil => simp [takeDigits]
      | cons c rest =>
        have hc : c.isDigit = false := hrest c (by simp)
        simp [takeDigits, hc]
  | cons d ds ih =>
    obtain ⟨width, rfl⟩ : ∃ w, width = w + 1 := ⟨width - 1, by simp at hwidth; omega⟩
    have hd : d.isDigit = true := hdigits d (by simp)
    have htail : takeDigits width (ds ++ rest) = (ds, rest) :=
      ih (fun c hc => hdigits c (by simp [hc])) (by simpa using hwidth)
    simp [takeDigits, hd, htail]

/-! ## Base sixteen -/

theorem hexValue?_hexDigit {n : Nat} (h : n < 16) : hexValue? (hexDigit n) = some n := by
  revert h
  revert n
  decide

/-- A further digit is read after the others. -/
theorem hexValues?_append_hexDigit {cs : List Char} {m n : Nat} (hcs : hexValues? cs = some m)
    (hn : n < 16) : hexValues? (cs ++ [hexDigit n]) = some (16 * m + n) := by
  rw [hexValues?] at hcs ⊢
  rw [List.foldlM_append, hcs]
  simp [hexValue?_hexDigit hn]

end SqlBuilder.Number
