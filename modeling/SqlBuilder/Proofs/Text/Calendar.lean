import SqlBuilder.Calendar.Text
import SqlBuilder.Proofs.Text.Digits

/-!
# Reading a date or a time that is written

Each part of the text of a date or a time is taken by the reader of that part, which leaves what
follows (`Reader.bind_eq` chains the readers).  So dates, times of day, and both together, with or
without the mark of universal time, are read as what they were written for: `Date.ofText?_text`,
`TimeOfDay.ofText?_text`, `DateTime.ofText?_text` and `DateTime.ofOffsetText?_text`.
-/

namespace SqlBuilder

open Number

namespace Text

/-- Digits are not blank. -/
theorem isBlank_of_isDigit {c : Char} (h : c.isDigit = true) : isBlank c = false := by
  have hlow : 48 ≤ c.toNat ∧ c.toNat ≤ 57 := by
    simp only [Char.isDigit, Bool.and_eq_true, decide_eq_true_eq] at h
    exact ⟨h.1, h.2⟩
  have hne : ∀ k, (k < 48 ∨ 57 < k) → (c.toNat == k) = false := by
    intro k hk
    rw [beq_eq_false_iff_ne]
    omega
  have h13 : ¬c.toNat ≤ 13 := by omega
  have h2000 : ¬8192 ≤ c.toNat := by omega
  simp [isBlank, hne, h13, h2000]

end Text

namespace Calendar.Reader

variable {α β : Type}

/-! ## Running readers -/

/-- A reader goes on with what another one has read and left. -/
theorem bind_eq {r : Reader α} {cs rest : List Char} {a : α} (h : r cs = some (a, rest))
    (f : α → Reader β) : (r >>= f) cs = f a rest := by
  change (r cs).bind (fun p => f p.1 p.2) = f a rest
  rw [h, Option.bind_some]

/-- The first of two readers that can read is taken. -/
theorem orElse_eq {r : Reader α} {cs : List Char} {p : α × List Char} (h : r cs = some p)
    (r' : Reader α) : (r <|> r') cs = some p := by
  change (r cs).orElse (fun _ => r' cs) = some p
  rw [h]
  rfl

theorem whole_eq {r : Reader α} {s : String} {a : α} (h : r s.toList = some (a, [])) :
    r.whole s = some a := by
  rw [whole, h]
  rfl

/-! ## Characters and digits -/

theorem blanks_cons {c : Char} (h : Text.isBlank c = false) (cs : List Char) :
    blanks (c :: cs) = some ((), c :: cs) := by
  change some ((), Text.trimStartList (c :: cs)) = _
  rw [Text.trimStartList, List.dropWhile_cons, h]
  rfl

theorem blanks_append {ds : List Char} (hdigits : ∀ c ∈ ds, c.isDigit = true) (hne : ds ≠ [])
    (rest : List Char) : blanks (ds ++ rest) = some ((), ds ++ rest) := by
  obtain ⟨d, ds, rfl⟩ := List.exists_cons_of_ne_nil hne
  exact blanks_cons (Text.isBlank_of_isDigit (hdigits d (by simp))) _

theorem get_eq (cs : List Char) : (get : Reader (List Char)) cs = some (cs, cs) :=
  rfl

theorem set_eq (cs rest : List Char) : (set rest : Reader Unit) cs = some ((), rest) :=
  rfl

theorem pure_eq (a : α) (cs : List Char) : (pure a : Reader α) cs = some (a, cs) :=
  rfl

theorem separator_cons {c : Char} (h : Text.isBlank c = false) (rest : List Char) :
    separator c (c :: rest) = some ((), rest) := by
  rw [separator, bind_eq (blanks_cons h rest), char, bind_eq (get_eq _)]
  change (if c = c then set rest else failure : Reader Unit) (c :: rest) = _
  rw [if_pos rfl, set_eq]

/-- All digits are read if there are not too many of them and no other follows. -/
theorem digits_append {width : Nat} {ds rest : List Char} (hdigits : ∀ c ∈ ds, c.isDigit = true)
    (hne : ds ≠ []) (hwidth : ds.length ≤ width) (hrest : NoDigit rest) :
    digits width (ds ++ rest) = some (ds, rest) := by
  have hempty : ds.isEmpty = false := by simpa using hne
  rw [digits, bind_eq (get_eq _), takeDigits_append_of_isDigit hdigits hwidth hrest]
  change (if ds.isEmpty = true then failure >>= fun _ => _ else _ : Reader _) _ = _
  rw [if_neg (by simp [hempty])]
  rfl

/-- A padded number is read if it is not too long and no other digit follows. -/
theorem number_padded {width n : Nat} {rest : List Char} (hwidth : 0 < width)
    (hn : n < 10 ^ width) (hrest : NoDigit rest) :
    number width ((padded width n).toList ++ rest) = some (n, rest) := by
  have hdigits : ∀ c ∈ (padded width n).toList, c.isDigit = true := fun _ => isDigit_of_mem_padded
  have hne : (padded width n).toList ≠ [] := padded_ne_nil width n
  rw [number, bind_eq (blanks_append hdigits hne rest),
    bind_eq (digits_append hdigits hne (Nat.le_of_eq (length_padded hwidth hn)) hrest), pure_eq,
    digitsValue_padded]

/-! ## Dates -/

/-- A year without a sign has four digits at most. -/
theorem year_digits {ds rest : List Char} (hdigits : ∀ c ∈ ds, c.isDigit = true) (hne : ds ≠ [])
    (hlength : ds.length ≤ 4) (hrest : NoDigit rest) :
    year (ds ++ rest) = some ((digitsValue ds : Int), rest) := by
  have hread := digits_append hdigits hne hlength hrest
  rw [year, bind_eq (blanks_append hdigits hne rest), bind_eq (get_eq _)]
  obtain ⟨c, cs, rfl⟩ := List.exists_cons_of_ne_nil hne
  have hc : c.isDigit = true := hdigits c (by simp)
  have hminus : c ≠ '-' := ne_of_isDigit hc (by decide)
  have hplus : c ≠ '+' := ne_of_isDigit hc (by decide)
  rw [List.cons_append] at hread ⊢
  refine (congrFun (?_ : _ = (do return (digitsValue (← digits 4) : Int) : Reader Int)) _).trans ?_
  · split
    case h_1 heq => exact absurd (List.cons.inj heq).1 hminus
    case h_2 heq => exact absurd (List.cons.inj heq).1 hplus
    case h_3 => rfl
  · rw [bind_eq hread, pure_eq]

/-- After a sign, a year has any number of digits. -/
theorem year_signed {ds rest : List Char} (hdigits : ∀ c ∈ ds, c.isDigit = true) (hne : ds ≠ [])
    (hrest : NoDigit rest) :
    year ('-' :: (ds ++ rest)) = some (-(digitsValue ds : Int), rest) ∧
      year ('+' :: (ds ++ rest)) = some ((digitsValue ds : Int), rest) := by
  have hlength : ds.length ≤ (ds ++ rest).length := by simp
  have hread := digits_append hdigits hne hlength hrest
  constructor
  · rw [year, bind_eq (blanks_cons (by decide) _), bind_eq (get_eq _)]
    change (set (ds ++ rest) >>= fun _ : Unit => _ : Reader Int) _ = _
    rw [bind_eq (set_eq _ _), bind_eq hread, pure_eq]
  · rw [year, bind_eq (blanks_cons (by decide) _), bind_eq (get_eq _)]
    change (set (ds ++ rest) >>= fun _ : Unit => _ : Reader Int) _ = _
    rw [bind_eq (set_eq _ _), bind_eq hread, pure_eq]

theorem year_yearText (d : Date) {rest : List Char} (hrest : NoDigit rest) :
    year (d.yearText.toList ++ rest) = some (d.year, rest) := by
  have hdigits : ∀ c ∈ (padded 4 d.year.natAbs).toList, c.isDigit = true :=
    fun _ => isDigit_of_mem_padded
  have hne : (padded 4 d.year.natAbs).toList ≠ [] := padded_ne_nil 4 _
  rw [Date.yearText]
  split
  case isTrue hyear =>
    have hlength : (padded 4 d.year.natAbs).toList.length = 4 :=
      length_padded (by decide) (by omega)
    rw [year_digits hdigits hne (Nat.le_of_eq hlength) hrest, digitsValue_padded,
      Int.natAbs_of_nonneg hyear.1]
  case isFalse hyear =>
    have hminus : "-".toList = ['-'] := rfl
    have hplus : "+".toList = ['+'] := rfl
    have hread := year_signed hdigits hne hrest
    rw [digitsValue_padded] at hread
    rw [String.toList_append, List.append_assoc]
    split
    case isTrue hnegative =>
      rw [show -(d.year.natAbs : Int) = d.year by omega] at hread
      rw [hminus, List.singleton_append]
      exact hread.1
    case isFalse hpositive =>
      rw [Int.natAbs_of_nonneg (by omega)] at hread
      rw [hplus, List.singleton_append]
      exact hread.2

theorem daysInMonth_le (year : Int) (month : Nat) : daysInMonth year month ≤ 31 := by
  rw [daysInMonth]
  split
  · split <;> decide
  · split <;> decide

theorem date_text (d : Date) {rest : List Char} (hrest : NoDigit rest) :
    date (d.text.toList ++ rest) = some (d, rest) := by
  have hmonth : d.month < 10 ^ 2 := Nat.lt_of_le_of_lt d.month_le (by decide)
  have hday : d.day < 10 ^ 2 :=
    Nat.lt_of_le_of_lt (Nat.le_trans d.day_le (daysInMonth_le _ _)) (by decide)
  have htext : d.text.toList ++ rest =
      d.yearText.toList ++ '-' :: ((padded 2 d.month).toList ++ '-' ::
        ((padded 2 d.day).toList ++ rest)) := by
    simp [Date.text]
  have hdash : ∀ cs : List Char, NoDigit ('-' :: cs) := noDigit_cons (by decide)
  rw [htext, date, bind_eq (year_yearText d (hdash _)), bind_eq (separator_cons (by decide) _),
    bind_eq (number_padded (by decide) hmonth (hdash _)), bind_eq (separator_cons (by decide) _),
    bind_eq (number_padded (by decide) hday hrest), Date.mk?,
    dif_pos ⟨d.year_ge, d.year_le, d.month_pos, d.month_le, d.day_pos, d.day_le⟩]
  rfl

/-! ## Times -/

/-- What follows the seconds: neither a digit nor a decimal point. -/
structure EndsTime (rest : List Char) : Prop where
  noDigit : NoDigit rest
  noPoint : rest.head? ≠ some '.'

theorem endsTime_nil : EndsTime [] :=
  ⟨noDigit_nil, by simp⟩

theorem fraction_of_noPoint {rest : List Char} (h : rest.head? ≠ some '.') :
    fraction rest = some (0, rest) := by
  rw [fraction, bind_eq (get_eq _)]
  refine (congrFun (?_ : _ = (pure 0 : Reader Nat)) _).trans (pure_eq _ _)
  split
  case h_1 => exact absurd rfl h
  case h_2 => rfl

/-- Digits after the point are the leading ones of nine. -/
theorem fraction_padded {width n : Nat} {rest : List Char} (hwidth : 0 < width) (hnine : width ≤ 9)
    (hn : n < 10 ^ width) (hrest : NoDigit rest) :
    fraction ('.' :: ((padded width n).toList ++ rest)) =
      some (n * Nat.pow 10 (9 - width), rest) := by
  have hlength : (padded width n).toList.length = width := length_padded hwidth hn
  have hread : digits 9 ((padded width n).toList ++ rest) = some ((padded width n).toList, rest) :=
    digits_append (fun _ => isDigit_of_mem_padded) (padded_ne_nil width n) (by omega) hrest
  rw [fraction, bind_eq (get_eq _)]
  change (set ((padded width n).toList ++ rest) >>= fun _ : Unit => _ : Reader Nat) _ = _
  rw [bind_eq (set_eq _ _), bind_eq hread]
  change some (digitsValue (padded width n).toList * _, rest.dropWhile Char.isDigit) = _
  rw [digitsValue_padded, hlength, hrest.dropWhile_eq]

theorem fraction_fractionText (t : TimeOfDay) {rest : List Char} (hrest : EndsTime rest) :
    fraction (t.fractionText.toList ++ rest) = some (t.nanosecond, rest) := by
  have hbound : t.nanosecond < 1000000000 := t.nanosecond_lt
  rw [TimeOfDay.fractionText]
  split
  case isTrue hzero =>
    rw [hzero, String.toList_empty, List.nil_append]
    exact fraction_of_noPoint hrest.noPoint
  case isFalse =>
    split
    case isTrue hmilli =>
      rw [String.toList_append]
      refine (fraction_padded (by decide) (by decide) (by omega) hrest.noDigit).trans ?_
      rw [show Nat.pow 10 (9 - 3) = 1000000 from rfl, Nat.div_mul_cancel (by omega)]
    case isFalse =>
      split
      case isTrue hmicro =>
        rw [String.toList_append]
        refine (fraction_padded (by decide) (by decide) (by omega) hrest.noDigit).trans ?_
        rw [show Nat.pow 10 (9 - 6) = 1000 from rfl, Nat.div_mul_cancel (by omega)]
      case isFalse =>
        rw [String.toList_append]
        refine (fraction_padded (by decide) (by decide) (by omega) hrest.noDigit).trans ?_
        rw [show Nat.pow 10 (9 - 9) = 1 from rfl, Nat.mul_one]

theorem noDigit_fractionText (t : TimeOfDay) {rest : List Char} (hrest : EndsTime rest) :
    NoDigit (t.fractionText.toList ++ rest) := by
  rw [TimeOfDay.fractionText]
  split
  · rw [String.toList_empty, List.nil_append]
    exact hrest.noDigit
  · have hpoint : ∀ (s : String), NoDigit (("." ++ s).toList ++ rest) := fun s => by
      rw [String.toList_append]
      exact noDigit_cons (by decide) _
    split
    · exact hpoint _
    · split <;> exact hpoint _

/-- What is written between the minutes and the end of a time. -/
theorem seconds_text (t : TimeOfDay) {rest : List Char} (hrest : EndsTime rest) :
    seconds (':' :: ((padded 2 t.second).toList ++ (t.fractionText.toList ++ rest))) =
      some ((t.second, t.nanosecond), rest) := by
  have hsecond : t.second < 10 ^ 2 := Nat.lt_of_le_of_lt t.second_le (by decide)
  have hlimit : ¬60 < t.second := Nat.not_lt.mpr t.second_le
  rw [seconds, bind_eq (separator_cons (by decide) _),
    bind_eq (number_padded (by decide) hsecond (noDigit_fractionText t hrest)), if_neg hlimit]
  exact (bind_eq (fraction_fractionText t hrest) _).trans (pure_eq _ _)

theorem hoursAndMinutes_clockText (t : TimeOfDay) {rest : List Char} (hrest : NoDigit rest) :
    hoursAndMinutes ((padded 2 t.hour).toList ++ ':' :: ((padded 2 t.minute).toList ++ rest)) =
      some ((t.hour, t.minute), rest) := by
  have hhour : t.hour < 10 ^ 2 := Nat.lt_trans t.hour_lt (by decide)
  have hminute : t.minute < 10 ^ 2 := Nat.lt_trans t.minute_lt (by decide)
  rw [hoursAndMinutes, bind_eq (number_padded (by decide) hhour (noDigit_cons (by decide) _)),
    bind_eq (separator_cons (by decide) _), bind_eq (number_padded (by decide) hminute hrest),
    pure_eq]

theorem timeOf_eq (t : TimeOfDay) (cs : List Char) :
    timeOf (t.hour, t.minute) (t.second, t.nanosecond) cs = some (t, cs) := by
  rw [timeOf, TimeOfDay.mk?, dif_pos ⟨t.hour_lt, t.minute_lt, t.second_le, t.nanosecond_lt⟩]
  rfl

theorem toList_text_append (t : TimeOfDay) (rest : List Char) :
    t.text.toList ++ rest =
      (padded 2 t.hour).toList ++ ':' :: ((padded 2 t.minute).toList ++ ':' ::
        ((padded 2 t.second).toList ++ (t.fractionText.toList ++ rest))) := by
  simp [TimeOfDay.text, TimeOfDay.clockText]

/-- A time of day is read by the reader that demands seconds and by the one that does not. -/
theorem fullTime_text (t : TimeOfDay) {rest : List Char} (hrest : EndsTime rest) :
    fullTime (t.text.toList ++ rest) = some (t, rest) := by
  rw [toList_text_append, fullTime,
    bind_eq (hoursAndMinutes_clockText t (noDigit_cons (by decide) _)),
    bind_eq (seconds_text t hrest), timeOf_eq]

theorem shortTime_text (t : TimeOfDay) {rest : List Char} (hrest : EndsTime rest) :
    shortTime (t.text.toList ++ rest) = some (t, rest) := by
  rw [toList_text_append, shortTime,
    bind_eq (hoursAndMinutes_clockText t (noDigit_cons (by decide) _)),
    bind_eq (orElse_eq (seconds_text t hrest) _), timeOf_eq]

end Calendar.Reader

/-! ## Whole texts -/

open Calendar Reader

/-- The text of a date is read as the date. -/
theorem Date.ofText?_text (d : Date) : ofText? d.text = some d :=
  whole_eq (by simpa using date_text d noDigit_nil)

/-- The text of a time of day is read as the time. -/
theorem TimeOfDay.ofText?_text (t : TimeOfDay) : ofText? t.text = some t :=
  whole_eq (by simpa using shortTime_text t endsTime_nil)

namespace DateTime

theorem toList_text_append (t : DateTime) (rest : List Char) :
    t.text.toList ++ rest = t.date.text.toList ++ 'T' :: (t.time.text.toList ++ rest) := by
  simp [text]

/-- The text of a date and time is read as what it was written for. -/
theorem ofText?_text (t : DateTime) : ofText? t.text = some t := by
  apply whole_eq
  have htext := t.toList_text_append []
  rw [List.append_nil] at htext
  rw [htext, bind_eq (date_text t.date (noDigit_cons (by decide) _)),
    bind_eq (separator_cons (by decide) _), bind_eq (fullTime_text t.time endsTime_nil), pure_eq]

/-- Without an offset, a time stays as it is. -/
theorem minusMinutes?_zero (t : DateTime) : t.minusMinutes? 0 = some t := by
  obtain ⟨date, hour, minute, second, nanosecond, hhour, hminute, hsecond, hnanosecond⟩ := t
  have hminutes : (((hour * 60 + minute : Nat) : Int) % 1440).toNat = hour * 60 + minute := by omega
  have hdiv : (hour * 60 + minute) / 60 = hour := by omega
  have hmod : (hour * 60 + minute) % 60 = minute := by omega
  have hlow : ¬((hour * 60 + minute : Nat) : Int) < 0 := by omega
  have hhigh : ((hour * 60 + minute : Nat) : Int) < 1440 := by omega
  simp only [minusMinutes?, Int.sub_zero, if_neg hlow, if_pos hhigh, hminutes, hdiv, hmod,
    TimeOfDay.mk?, dif_pos (show _ ∧ _ ∧ _ ∧ _ from ⟨hhour, hminute, hsecond, hnanosecond⟩)]
  rfl

theorem endsTime_universal : EndsTime ['Z'] :=
  ⟨noDigit_cons (by decide) [], by decide⟩

/-- The text of a date and time with the mark of universal time is read as what it was written
for. -/
theorem ofOffsetText?_text (t : DateTime) : ofOffsetText? (t.text ++ "Z") = some t := by
  apply whole_eq
  have hoffset : offset ['Z'] = some (0, []) := rfl
  have hmark : "Z".toList = ['Z'] := rfl
  rw [String.toList_append, hmark, toList_text_append,
    bind_eq (date_text t.date (noDigit_cons (by decide) _)), bind_eq (get_eq _)]
  change (set (t.time.text.toList ++ ['Z']) >>= fun _ : Unit => _ : Reader DateTime) _ = _
  rw [bind_eq (set_eq _ _), bind_eq (fullTime_text t.time endsTime_universal), bind_eq hoffset,
    minusMinutes?_zero]
  rfl

end DateTime

end SqlBuilder
