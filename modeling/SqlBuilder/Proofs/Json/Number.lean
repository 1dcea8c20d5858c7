import SqlBuilder.Json.Reader
import SqlBuilder.Proofs.Text.Digits

/-!
# Reading numbers

The readers of the parts of a number stop where the tree ends that the number is
(`stopsAtEnd_readNumber`), so that a number is read from the middle of a text as it is read when it
stands alone.  The integers of 64 bits, with or without a sign, are read as they were written
(`readNumber_intText`).
-/

namespace SqlBuilder.Json

open Number

/-! ## What follows a tree -/

/-- A text that may stand after a tree: there is none, or it begins with a comma or a closing
bracket. -/
def EndsTree (cs : List Char) : Prop :=
  ∀ c ∈ cs.head?, c = ',' ∨ c = ']' ∨ c = '\x7d'

theorem endsTree_nil : EndsTree [] := by
  intro c hc
  simp at hc

theorem endsTree_cons {c : Char} (h : c = ',' ∨ c = ']' ∨ c = '\x7d') (cs : List Char) :
    EndsTree (c :: cs) := by
  intro d hd
  obtain rfl : c = d := by simpa using hd
  exact h

theorem EndsTree.noDigit {cs : List Char} (h : EndsTree cs) : NoDigit cs := by
  intro c hc
  obtain rfl | rfl | rfl := h c hc <;> rfl

/-- A reader that stops where a tree may end, whatever follows there. -/
def StopsAtEnd {α : Type} (read : List Char → Option (α × List Char)) : Prop :=
  ∀ cs rest, EndsTree rest → read (cs ++ rest) = (read cs).map fun p => (p.1, p.2 ++ rest)

/-- A reader that makes nothing of the end of a tree stops there if it does after every first
character. -/
theorem stopsAtEnd_of_cons {α : Type} {read : List Char → Option (α × List Char)}
    (hend : ∀ c rest, c = ',' ∨ c = ']' ∨ c = '\x7d' →
      read (c :: rest) = (read []).map fun p => (p.1, p.2 ++ c :: rest))
    (hcons : ∀ c cs rest, EndsTree rest →
      read (c :: (cs ++ rest)) = (read (c :: cs)).map fun p => (p.1, p.2 ++ rest)) :
    StopsAtEnd read := by
  intro cs rest h
  cases cs with
  | cons c cs => exact hcons c cs rest h
  | nil =>
    cases rest with
    | cons c rest => exact hend c rest (h c rfl)
    | nil => cases hread : read [] <;> simp [hread]

/-! ## Numbers -/

theorem spanDigits_append {rest : List Char} (h : NoDigit rest) (cs : List Char) :
    spanDigits (cs ++ rest) = ((spanDigits cs).1, (spanDigits cs).2 ++ rest) := by
  induction cs with
  | nil =>
    have htake : rest.takeWhile Char.isDigit = [] := by
      cases rest with
      | nil => rfl
      | cons c rest => rw [List.takeWhile_cons, h c (by simp), if_neg Bool.false_ne_true]
    simp [spanDigits, htake, h.dropWhile_eq]
  | cons c cs ih =>
    simp only [spanDigits, Prod.mk.injEq] at ih
    by_cases hc : c.isDigit = true <;> simp [spanDigits, hc, ih]

theorem spanDigits_of_isDigit {ds : List Char} (h : ∀ c ∈ ds, c.isDigit = true) :
    spanDigits ds = (ds, []) := by
  induction ds with
  | nil => rfl
  | cons d ds ih =>
    rw [List.forall_mem_cons] at h
    simp only [spanDigits, Prod.mk.injEq] at ih
    simp [spanDigits, h.1, ih h.2]

theorem stopsAtEnd_readInteger (negative : Bool) : StopsAtEnd (readInteger negative) := by
  intro cs rest h
  simp only [readInteger, spanDigits_append h.noDigit]
  split <;> rfl

theorem stopsAtEnd_readExponent : StopsAtEnd readExponent := by
  refine stopsAtEnd_of_cons (by rintro c rest (rfl | rfl | rfl) <;> rfl) fun c cs rest h => ?_
  by_cases hminus : c = '-'
  · subst hminus
    exact stopsAtEnd_readInteger true cs rest h
  by_cases hplus : c = '+'
  · subst hplus
    exact stopsAtEnd_readInteger false cs rest h
  have hread : ∀ cs, readExponent (c :: cs) = readInteger false (c :: cs) := fun cs => by
    simp [readExponent, hminus, hplus]
  rw [hread, hread]
  exact stopsAtEnd_readInteger false (c :: cs) rest h

theorem stopsAtEnd_readScale : StopsAtEnd readScale := by
  refine stopsAtEnd_of_cons (by rintro c rest (rfl | rfl | rfl) <;> rfl) fun c cs rest h => ?_
  by_cases hmark : c = 'e' ∨ c = 'E'
  · have hread : ∀ cs, readScale (c :: cs) =
        (readExponent cs).map fun p => (some p.1, p.2) := by
      obtain rfl | rfl := hmark <;> exact fun cs => rfl
    rw [hread, hread, stopsAtEnd_readExponent cs rest h]
    cases readExponent cs <;> rfl
  · rw [not_or] at hmark
    simp [readScale, hmark]

theorem stopsAtEnd_readFraction : StopsAtEnd readFraction := by
  refine stopsAtEnd_of_cons (by rintro c rest (rfl | rfl | rfl) <;> rfl) fun c cs rest h => ?_
  by_cases hpoint : c = '.'
  · subst hpoint
    simp only [readFraction, spanDigits_append h.noDigit]
    split <;> rfl
  · simp [readFraction, hpoint]

theorem stopsAtEnd_readUnsigned (negative : Bool) : StopsAtEnd (readUnsigned negative) := by
  intro cs rest h
  simp only [readUnsigned, spanDigits_append h.noDigit]
  split
  · rfl
  · rw [stopsAtEnd_readFraction _ rest h]
    cases readFraction (spanDigits cs).2 with
    | none => rfl
    | some fraction =>
      simp only [Option.map_some, Option.bind_eq_bind, Option.bind_some]
      rw [stopsAtEnd_readScale _ rest h]
      cases readScale fraction.2 with
      | none => rfl
      | some exponent =>
        simp only [Option.map_some, Option.bind_some]
        cases ofParts? negative (spanDigits cs).1 fraction.1 exponent.1 <;> rfl

/-- A number without a minus sign. -/
theorem readNumber_cons {c : Char} (h : c ≠ '-') (cs : List Char) :
    readNumber (c :: cs) = readUnsigned false (c :: cs) := by
  simp [readNumber, h]

/-- A number is read as it stands, whatever follows the tree. -/
theorem stopsAtEnd_readNumber : StopsAtEnd readNumber := by
  refine stopsAtEnd_of_cons (by rintro c rest (rfl | rfl | rfl) <;> rfl) fun c cs rest h => ?_
  by_cases hminus : c = '-'
  · subst hminus
    exact stopsAtEnd_readUnsigned true cs rest h
  · rw [readNumber_cons hminus, readNumber_cons hminus]
    exact stopsAtEnd_readUnsigned false (c :: cs) rest h

/-- A number begins with a digit or a minus sign. -/
theorem exists_cons_of_readNumber {cs rest : List Char} {j : Json}
    (h : readNumber cs = some (j, rest)) :
    ∃ c cs', cs = c :: cs' ∧ (c = '-' ∨ c.isDigit = true) := by
  cases cs with
  | nil => simp [readNumber, readUnsigned, spanDigits] at h
  | cons c cs =>
    refine ⟨c, cs, rfl, ?_⟩
    by_cases hminus : c = '-'
    · exact .inl hminus
    · cases hdigit : c.isDigit with
      | true => exact .inr rfl
      | false =>
        rw [readNumber_cons hminus] at h
        simp [readUnsigned, spanDigits, hdigit] at h

/-! ### Integers -/

/-- An integer of 64 bits, with or without a sign. -/
def IntFits (n : Int) : Prop :=
  Int64.minValue.toInt ≤ n ∧ n < UInt64.size

/-- Only zero begins with the digit zero. -/
theorem head?_natDigits_ne {n : Nat} (h : n ≠ 0) : (natDigits n).head? ≠ some '0' := by
  induction n using Nat.strongRecOn with
  | ind n ih =>
    by_cases hsmall : n < 10
    · have hdigit : ∀ n < 10, n ≠ 0 → n.digitChar ≠ '0' := by decide
      rw [natDigits, Nat.toDigits_of_lt_base hsmall, List.head?_cons, ne_eq, Option.some.injEq]
      exact hdigit n hsmall h
    · have hdigits : natDigits n = natDigits (n / 10) ++ [(n % 10).digitChar] :=
        Nat.toDigits_of_base_le (by decide) (by omega)
      have hfront := ih (n / 10) (by omega) (by omega)
      obtain ⟨c, cs, hcs⟩ := List.exists_cons_of_ne_nil (natDigits_ne_nil (n / 10))
      rwa [hdigits, hcs, List.cons_append, List.head?_cons, ← List.head?_cons (l := cs), ← hcs]

theorem toList_intText (n : Int) :
    (intText n).toList = if n < 0 then '-' :: natDigits n.natAbs else natDigits n.natAbs := by
  unfold intText
  split <;> simp [natText]

/-- Digits are read as the integer that they were written for, if it fits. -/
theorem readUnsigned_natDigits (negative : Bool) (m : Nat)
    (hfits : if negative then m ≠ 0 ∧ m ≤ 1 <<< 63 else m < UInt64.size) :
    readUnsigned negative (natDigits m) = some (int (if negative then -m else m), []) := by
  have hspan : spanDigits (natDigits m) = (natDigits m, []) :=
    spanDigits_of_isDigit fun c => isDigit_of_mem_natDigits
  have hleading : ¬((natDigits m).isEmpty = true ∨
      (natDigits m).head? = some '0' ∧ 1 < (natDigits m).length) := by
    rintro (hempty | ⟨hzero, hlength⟩)
    · exact natDigits_ne_nil m (List.isEmpty_iff.mp hempty)
    · by_cases hm : m = 0
      · subst hm
        exact absurd hlength (by decide)
      · exact head?_natDigits_ne hm hzero
  have hparts : ofParts? negative (natDigits m) none none =
      some (int (if negative then -m else m)) := by
    have hvalue : digitsValue (natDigits m ++ (none : Option (List Char)).getD []) = m := by simp
    simp only [ofParts?, hvalue]
    rw [if_pos ⟨rfl, rfl, by simpa using hfits⟩]
  simp only [readUnsigned, hspan, if_neg hleading]
  simp [readFraction, readScale, hparts]

/-- An integer that fits is read as it is. -/
theorem readNumber_intText {n : Int} (h : IntFits n) :
    readNumber (intText n).toList = some (int n, []) := by
  obtain ⟨hlow, hhigh⟩ := h
  have hmin : Int64.minValue.toInt = -9223372036854775808 := by decide
  have hsize : UInt64.size = 18446744073709551616 := rfl
  rw [toList_intText]
  by_cases hn : n < 0
  · have hfits : n.natAbs ≠ 0 ∧ n.natAbs ≤ 1 <<< 63 := by
      have hshift : 1 <<< 63 = 9223372036854775808 := rfl
      omega
    have hread := readUnsigned_natDigits true n.natAbs hfits
    rw [if_pos rfl, Int.ofNat_natAbs_of_nonpos (Int.le_of_lt hn), Int.neg_neg] at hread
    rwa [if_pos hn, readNumber]
  · have hfits : n.natAbs < UInt64.size := by omega
    have hread := readUnsigned_natDigits false n.natAbs hfits
    rw [if_neg Bool.false_ne_true, Int.natAbs_of_nonneg (by omega)] at hread
    obtain ⟨c, cs, hcs⟩ := List.exists_cons_of_ne_nil (natDigits_ne_nil n.natAbs)
    have hc : c ≠ '-' :=
      ne_of_isDigit (isDigit_of_mem_natDigits (n := n.natAbs) (by simp [hcs])) rfl
    rwa [if_neg hn, hcs, readNumber_cons hc, ← hcs]

end SqlBuilder.Json
