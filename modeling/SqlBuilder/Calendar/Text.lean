import SqlBuilder.Calendar.Basic
import SqlBuilder.Number.Digits
import SqlBuilder.Text.Blank

/-!
# The text of dates and times

Writing is in the extended format of ISO 8601: `2024-01-02`, `10:30:00.250`, the two joined by `T`,
and `Z` after a time in universal time.  A fraction of a second has 3, 6 or 9 digits, as few as
hold it.  A year outside 0 to 9999 has a sign and at least four digits.

Reading is laxer than writing.  Blanks may stand before every number and separator, numbers may
have fewer digits than are written, a time of day may lack its seconds, and a time with an offset
(`+02:00`) is converted to universal time.
-/

namespace SqlBuilder

open Number

/-! ## Writing -/

namespace Date

/-- The year, with a sign if it does not have four digits. -/
def yearText (d : Date) : String :=
  if 0 ≤ d.year ∧ d.year ≤ 9999 then
    padded 4 d.year.natAbs
  else
    (if d.year < 0 then "-" else "+") ++ padded 4 d.year.natAbs

/-- Year, month and day, joined by hyphens. -/
def text (d : Date) : String :=
  d.yearText ++ "-" ++ padded 2 d.month ++ "-" ++ padded 2 d.day

end Date

namespace TimeOfDay

/-- Hour, minute and second, joined by colons. -/
def clockText (t : TimeOfDay) : String :=
  padded 2 t.hour ++ ":" ++ padded 2 t.minute ++ ":" ++ padded 2 t.second

/-- A decimal point and 3, 6 or 9 digits, or nothing for a whole second. -/
def fractionText (t : TimeOfDay) : String :=
  if t.nanosecond = 0 then
    ""
  else if t.nanosecond % 1000000 = 0 then
    "." ++ padded 3 (t.nanosecond / 1000000)
  else if t.nanosecond % 1000 = 0 then
    "." ++ padded 6 (t.nanosecond / 1000)
  else
    "." ++ padded 9 t.nanosecond

/-- The time with its fraction. -/
def text (t : TimeOfDay) : String :=
  t.clockText ++ t.fractionText

end TimeOfDay

/-- Date and time joined by `T`. -/
def DateTime.text (t : DateTime) : String :=
  t.date.text ++ "T" ++ t.time.text

/-- Date and time joined by a space, without the fraction of a second. -/
def DateTime.plainText (t : DateTime) : String :=
  t.date.text ++ " " ++ t.time.clockText

/-! ## Reading -/

namespace Calendar

/-- A reader of the front of a text: what it read, and the rest. -/
abbrev Reader (α : Type) := StateT (List Char) Option α

namespace Reader

/-- Skips blanks. -/
def blanks : Reader Unit :=
  modify Text.trimStartList

/-- Reads one character. -/
def char (c : Char) : Reader Unit := do
  match ← get with
  | d :: rest => if c = d then set rest else failure
  | [] => failure

/-- Reads at least one and at most `width` digits. -/
def digits (width : Nat) : Reader (List Char) := do
  let (ds, rest) := takeDigits width (← get)
  if ds.isEmpty then failure
  set rest
  return ds

/-- Reads a number of at most `width` digits after blanks. -/
def number (width : Nat) : Reader Nat := do
  blanks
  return digitsValue (← digits width)

/-- Reads a year: four digits at most, or any number of them after a sign. -/
def year : Reader Int := do
  blanks
  match ← get with
  | '-' :: rest =>
    set rest
    return -(digitsValue (← digits rest.length))
  | '+' :: rest =>
    set rest
    return digitsValue (← digits rest.length)
  | _ => return digitsValue (← digits 4)

/-- Reads a separator after blanks. -/
def separator (c : Char) : Reader Unit := do
  blanks
  char c

/-- Reads year, month and day with hyphens between them. -/
def date : Reader Date := do
  let y ← year
  separator '-'
  let m ← number 2
  separator '-'
  let d ← number 2
  match Date.mk? y m d with
  | some date => return date
  | none => failure

/-- Reads the fraction of a second, if a decimal point follows; digits after the ninth are
dropped. -/
def fraction : Reader Nat := do
  match ← get with
  | '.' :: rest =>
    set rest
    let ds ← digits 9
    modify (·.dropWhile Char.isDigit)
    return digitsValue ds * Nat.pow 10 (9 - ds.length)
  | _ => return 0

/-- Reads seconds with their fraction, after a colon. -/
def seconds : Reader (Nat × Nat) := do
  separator ':'
  let s ← number 2
  if 60 < s then failure
  return (s, ← fraction)

/-- Reads hours and minutes. -/
def hoursAndMinutes : Reader (Nat × Nat) := do
  let h ← number 2
  separator ':'
  return (h, ← number 2)

/-- Builds a time of day. -/
def timeOf (hm sn : Nat × Nat) : Reader TimeOfDay :=
  match TimeOfDay.mk? hm.1 hm.2 sn.1 sn.2 with
  | some t => return t
  | none => failure

/-- Reads a time of day with seconds. -/
def fullTime : Reader TimeOfDay := do
  let hm ← hoursAndMinutes
  timeOf hm (← seconds)

/-- Reads a time of day whose seconds may be missing. -/
def shortTime : Reader TimeOfDay := do
  let hm ← hoursAndMinutes
  let sn ← (seconds <|> return (0, 0))
  timeOf hm sn

/-- Reads an offset from universal time in minutes: `Z`, `UTC`, or a sign with hours and minutes. -/
def offset : Reader Int := do
  blanks
  match ← get with
  | u :: t :: c :: rest =>
    if [u, t, c].map Char.toUpper = ['U', 'T', 'C'] then
      set rest
      return 0
  | _ => pure ()
  match ← get with
  | 'Z' :: rest | 'z' :: rest =>
    set rest
    return 0
  | '+' :: rest =>
    set rest
    return (← hoursMinutes : Nat)
  | '-' :: rest | '−' :: rest =>
    set rest
    return -(← hoursMinutes : Nat)
  | _ => failure
where
  /-- Two digits of hours and two of minutes, with colons or blanks between them. -/
  hoursMinutes : Reader Nat := do
    let h ← digits 2
    modify (·.dropWhile fun c => c = ':' || Text.isBlank c)
    let m ← digits 2
    if h.length = 2 ∧ m.length = 2 ∧ digitsValue m < 60 ∧ digitsValue h < 24 then
      return digitsValue h * 60 + digitsValue m
    else
      failure

/-- Runs a reader on a whole text; only blanks may be left over. -/
def whole {α : Type} (r : Reader α) (s : String) : Option α :=
  match r s.toList with
  | some (a, rest) => if (Text.trimStartList rest).isEmpty then some a else none
  | none => none

end Reader

end Calendar

open Calendar

/-- Reads a date. -/
def Date.ofText? (s : String) : Option Date :=
  Reader.date.whole s

/-- Reads a time of day. -/
def TimeOfDay.ofText? (s : String) : Option TimeOfDay :=
  Reader.shortTime.whole s

/-- Reads a date and a time joined by `T`. -/
def DateTime.ofText? (s : String) : Option DateTime :=
  Reader.whole (do
    let d ← Reader.date
    Reader.separator 'T'
    return ⟨d, ← Reader.fullTime⟩) s

/-- Reads a date and a time with an offset, joined by `T`, `t` or a space, as universal time. -/
def DateTime.ofOffsetText? (s : String) : Option DateTime :=
  Reader.whole (do
    let d ← Reader.date
    match ← get with
    | 'T' :: rest | 't' :: rest | ' ' :: rest => set rest
    | _ => failure
    let t ← Reader.fullTime
    let o ← Reader.offset
    match (DateTime.mk d t).minusMinutes? o with
    | some u => return u
    | none => failure) s

end SqlBuilder
