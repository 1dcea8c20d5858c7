import SqlBuilder.Number.Decimal
import SqlBuilder.Proofs.Text.Digits

/-!
# Reading a decimal that is written

The text of a decimal has all digits of its coefficient, and reading goes through them one by one
(`Decimal.scan_whole`, `Decimal.scan_fraction`), so that sign, coefficient and scale come back.
Only the sign of a zero is lost (`Decimal.ofText?_text`, `Decimal.read?_text_eq_some_iff`).
-/

namespace SqlBuilder.Decimal

open Number

/-! ## Reading digits one by one -/

/-- Further digits do not make a number smaller. -/
theorem le_ofDigitChars (ds : List Char) (n : Nat) : n ≤ Nat.ofDigitChars 10 ds n := by
  rw [Nat.ofDigitChars_eq_ofDigitChars_zero]
  have hscale : n ≤ 10 ^ ds.length * n := Nat.le_mul_of_pos_left n (Nat.pow_pos (by decide))
  omega

/-- Digits before the point go into the coefficient. -/
theorem scan_whole {ds : List Char} {data : Nat} (started : Bool) (rest : List Char)
    (hdigits : ∀ c ∈ ds, c.isDigit = true)
    (hfits : Nat.ofDigitChars 10 ds data < coefficientBound) :
    scan false started data 0 (ds ++ rest) =
      scan false (started || !ds.isEmpty) (Nat.ofDigitChars 10 ds data) 0 rest := by
  induction ds generalizing data started with
  | nil => simp
  | cons d ds ih =>
    have hd : d.isDigit = true := hdigits d (by simp)
    rw [Nat.ofDigitChars_cons] at hfits ⊢
    have hnext : 10 * data + (d.toNat - '0'.toNat) < coefficientBound :=
      Nat.lt_of_le_of_lt (le_ofDigitChars ds _) hfits
    have htail := ih true (fun c hc => hdigits c (by simp [hc])) hfits
    rw [List.cons_append, scan]
    simpa only [hd, hnext, Bool.false_and, Bool.false_eq_true, ↓reduceIte, Bool.true_or,
      List.isEmpty_cons, Bool.not_false, Bool.or_true] using htail

/-- Digits after the point go into the coefficient and the scale. -/
theorem scan_fraction {ds : List Char} {data : Nat} (scale : Nat)
    (hdigits : ∀ c ∈ ds, c.isDigit = true)
    (hfits : Nat.ofDigitChars 10 ds data < coefficientBound) (hscale : scale + ds.length ≤ 28) :
    scan true true data scale ds = some (Nat.ofDigitChars 10 ds data, scale + ds.length) := by
  induction ds generalizing data scale with
  | nil => simp [scan]
  | cons d ds ih =>
    have hd : d.isDigit = true := hdigits d (by simp)
    rw [Nat.ofDigitChars_cons] at hfits ⊢
    rw [List.length_cons] at hscale ⊢
    have hnext : 10 * data + (d.toNat - '0'.toNat) < coefficientBound :=
      Nat.lt_of_le_of_lt (le_ofDigitChars ds _) hfits
    have hroom : ¬28 ≤ scale := by omega
    have htail := ih (scale + 1) (fun c hc => hdigits c (by simp [hc])) hfits (by omega)
    rw [scan]
    simpa only [hd, hnext, hroom, decide_false, Bool.and_false, Bool.false_eq_true, ↓reduceIte,
      Nat.add_assoc, Nat.add_comm 1] using htail

/-! ## Reading the text -/

/-- The digits that are written, with at least one before the point. -/
def writtenDigits (d : Decimal) : List Char :=
  List.replicate (d.scale + 1 - (natDigits d.coefficient).length) '0' ++ natDigits d.coefficient

theorem isDigit_of_mem_writtenDigits {d : Decimal} {c : Char} (h : c ∈ d.writtenDigits) :
    c.isDigit = true := by
  rw [writtenDigits, List.mem_append] at h
  rcases h with h | h
  · rw [List.eq_of_mem_replicate h]
    rfl
  · exact isDigit_of_mem_natDigits h

theorem ofDigitChars_writtenDigits (d : Decimal) :
    Nat.ofDigitChars 10 d.writtenDigits 0 = d.coefficient := by
  rw [writtenDigits, ← digitsValue_eq_ofDigitChars, digitsValue_replicate_append,
    digitsValue_natDigits]

theorem scale_lt_length_writtenDigits (d : Decimal) : d.scale < d.writtenDigits.length := by
  rw [writtenDigits, List.length_append, List.length_replicate]
  omega

/-- Digits around a point are read as the number of all of them. -/
theorem scan_point {whole fraction : List Char} {n : Nat}
    (hwhole : ∀ c ∈ whole, c.isDigit = true) (hfraction : ∀ c ∈ fraction, c.isDigit = true)
    (hne : whole ≠ []) (hvalue : Nat.ofDigitChars 10 (whole ++ fraction) 0 = n)
    (hfits : n < coefficientBound) (hscale : fraction.length ≤ 28) :
    scan false false 0 0 (if fraction.length = 0 then whole else whole ++ '.' :: fraction) =
      some (n, fraction.length) := by
  rw [Nat.ofDigitChars_append] at hvalue
  have hwholeFits : Nat.ofDigitChars 10 whole 0 < coefficientBound := by
    have hle := le_ofDigitChars fraction (Nat.ofDigitChars 10 whole 0)
    omega
  have hstarted : (false || !whole.isEmpty) = true := by simpa using hne
  split
  case isTrue hempty =>
    obtain rfl := List.eq_nil_of_length_eq_zero hempty
    have hread := scan_whole false [] hwhole hwholeFits
    rw [List.append_nil, hstarted, scan, if_pos rfl] at hread
    rw [hread, ← hvalue, Nat.ofDigitChars_nil, List.length_nil]
  case isFalse =>
    have hread := scan_whole false ('.' :: fraction) hwhole hwholeFits
    rw [hstarted, scan] at hread
    have hrest := scan_fraction 0 hfraction (by rw [hvalue]; exact hfits) (by omega)
    rw [hvalue, Nat.zero_add] at hrest
    rw [hread]
    simpa using hrest

/-- The digits before the point. -/
def wholeDigits (d : Decimal) : List Char :=
  d.writtenDigits.take (d.writtenDigits.length - d.scale)

/-- The digits after the point. -/
def fractionDigits (d : Decimal) : List Char :=
  d.writtenDigits.drop (d.writtenDigits.length - d.scale)

theorem length_fractionDigits (d : Decimal) : d.fractionDigits.length = d.scale := by
  have hscale := d.scale_lt_length_writtenDigits
  rw [fractionDigits, List.length_drop]
  omega

/-- A digit stands before the point. -/
theorem wholeDigits_ne_nil (d : Decimal) : d.wholeDigits ≠ [] := by
  have hscale := d.scale_lt_length_writtenDigits
  apply List.ne_nil_of_length_pos
  rw [wholeDigits, List.length_take]
  omega

theorem isDigit_of_mem_wholeDigits {d : Decimal} {c : Char} (h : c ∈ d.wholeDigits) :
    c.isDigit = true :=
  isDigit_of_mem_writtenDigits (List.mem_of_mem_take h)

theorem isDigit_of_mem_fractionDigits {d : Decimal} {c : Char} (h : c ∈ d.fractionDigits) :
    c.isDigit = true :=
  isDigit_of_mem_writtenDigits (List.mem_of_mem_drop h)

/-- What the text has after the sign. -/
def unsignedText (d : Decimal) : List Char :=
  if d.scale = 0 then d.wholeDigits else d.wholeDigits ++ '.' :: d.fractionDigits

theorem toList_text (d : Decimal) :
    d.text.toList = (if d.negative then ['-'] else []) ++ d.unsignedText := by
  have htext : d.text =
      (if d.negative then "-" else "") ++ String.ofList d.unsignedText := rfl
  rw [htext, String.toList_append, String.toList_ofList]
  cases d.negative <;> rfl

/-- All digits come back, and so does the sign, unless the number is zero. -/
theorem ofDigits?_unsignedText (negative : Bool) (d : Decimal) :
    ofDigits? negative d.unsignedText =
      mk? (negative && d.coefficient ≠ 0) d.coefficient d.scale := by
  have hvalue : Nat.ofDigitChars 10 (d.wholeDigits ++ d.fractionDigits) 0 = d.coefficient := by
    rw [wholeDigits, fractionDigits, List.take_append_drop, ofDigitChars_writtenDigits]
  have hread := scan_point (fun _ => isDigit_of_mem_wholeDigits)
    (fun _ => isDigit_of_mem_fractionDigits) d.wholeDigits_ne_nil hvalue d.coefficient_lt
    (by rw [length_fractionDigits]; exact d.scale_le)
  rw [length_fractionDigits] at hread
  rw [ofDigits?, unsignedText, hread]
  rfl

/-- A text that begins with a digit has no sign. -/
theorem ofText?_of_head_isDigit {s : String} {c : Char} {cs : List Char}
    (hs : s.toList = c :: cs) (hc : c.isDigit = true) : ofText? s = ofDigits? false s.toList := by
  have hminus : c ≠ '-' := ne_of_isDigit hc (by decide)
  have hplus : c ≠ '+' := ne_of_isDigit hc (by decide)
  rw [ofText?, hs]
  split
  case h_1 heq => exact absurd (List.cons.inj heq).1 hminus
  case h_2 heq => exact absurd (List.cons.inj heq).1 hplus
  case h_3 => rfl

/-- The text of a decimal is read as the decimal, but for the sign of a zero. -/
theorem ofText?_text (d : Decimal) :
    ofText? d.text = mk? (d.negative && d.coefficient ≠ 0) d.coefficient d.scale := by
  have htext := d.toList_text
  cases hnegative : d.negative with
  | true =>
    rw [hnegative, if_pos rfl, List.singleton_append] at htext
    rw [ofText?, htext]
    exact ofDigits?_unsignedText true d
  | false =>
    rw [hnegative, if_neg Bool.false_ne_true, List.nil_append] at htext
    obtain ⟨c, cs, hwhole⟩ := List.exists_cons_of_ne_nil d.wholeDigits_ne_nil
    have hc : c.isDigit = true := isDigit_of_mem_wholeDigits (d := d) (by simp [hwhole])
    have hhead : ∃ rest, d.text.toList = c :: rest := by
      rw [htext, unsignedText, hwhole]
      split
      · exact ⟨cs, rfl⟩
      · exact ⟨cs ++ '.' :: d.fractionDigits, rfl⟩
    obtain ⟨rest, hrest⟩ := hhead
    rw [ofText?_of_head_isDigit hrest hc, htext]
    exact ofDigits?_unsignedText false d

/-- A decimal reads back from its text unless it is a zero with a sign. -/
theorem read?_text_eq_some_iff (d : Decimal) :
    read? d.text = some d ↔ (d.negative = true → d.coefficient ≠ 0) := by
  have hread : read? d.text =
      some ⟨d.negative && d.coefficient ≠ 0, d.coefficient, d.scale, d.coefficient_lt,
        d.scale_le⟩ := by
    rw [read?, ofText?_text, mk?, dif_pos ⟨d.coefficient_lt, d.scale_le⟩]
    rfl
  rw [hread]
  obtain ⟨negative, coefficient, scale, hcoefficient, hscale⟩ := d
  simp

end SqlBuilder.Decimal
