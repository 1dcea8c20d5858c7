import SqlBuilder.Proofs.Markup.Marker
import SqlBuilder.Proofs.Text.Placeholder

/-!
# Escapes in raw SQL

In raw SQL a backslash before a marker keeps the marker, and a backslash before a question mark
keeps it from being a placeholder.  Markers are turned into quotes first (`Dialect.wrapMarkers`),
which takes the backslashes of the first kind away.  What stood after such a backslash is a marker
and stays, and neither markers nor quotes are backslashes or question marks, so that each question
mark has a backslash directly before it just if it had one (`questionMarks_wrapMarkersList`).  Raw
SQL has the placeholders it has as written.

With its markers escaped (`escapeMarkers`) every text comes through as it is, so that raw SQL can
say whatever SQL can say (`Env.raw_escapeMarkers`).
-/

namespace SqlBuilder

open Dialect

/-! ## Question marks -/

/-- The question marks of a text in order: one directly after a backslash is escaped, any other is a
placeholder.  `escaped` says whether the text comes directly after a backslash. -/
def questionMarks (escaped : Bool) : List Char → List Token
  | [] => []
  | c :: cs =>
    if c = '?' then
      (if escaped then .escaped else .mark) :: questionMarks false cs
    else
      questionMarks (c == '\\') cs

theorem questionMarks_of_head {cs : List Char} (h : cs.head? ≠ some '?') (escaped : Bool) :
    questionMarks escaped cs = questionMarks false cs := by
  cases cs with
  | nil => rfl
  | cons c cs =>
    have hc : c ≠ '?' := fun hc => h (congrArg some hc)
    rw [questionMarks, questionMarks, if_neg hc, if_neg hc]

namespace Token

/-- Is the token a question mark, of either kind? -/
def isQuestionMark : Token → Bool
  | char _ => false
  | _ => true

/-- Scanning a text finds its question marks. -/
theorem filter_scan (cs : List Char) :
    (scan cs).filter isQuestionMark = questionMarks false cs := by
  fun_induction scan cs with
  | case1 cs ih =>
    rw [questionMarks, if_neg (by decide), questionMarks, if_pos rfl, ← ih]
    rfl
  | case2 cs ih =>
    rw [questionMarks, if_pos rfl, ← ih]
    rfl
  | case3 c cs hescaped hmark ih =>
    have hnext : questionMarks (c == '\\') cs = questionMarks false cs := by
      by_cases hc : c = '\\'
      · exact questionMarks_of_head (head?_ne_of_scan hescaped hc) _
      · rw [beq_eq_false_iff_ne.mpr hc]
    rw [questionMarks, if_neg hmark, hnext, ← ih]
    rfl
  | case4 => rfl

end Token

/-- The placeholders of a text are those of its question marks that are not escaped. -/
theorem countMarks_eq_count_questionMarks (s : String) :
    countMarks s = (questionMarks false s.toList).count .mark := by
  rw [← Token.filter_scan, List.count_filter rfl, countMarks]

/-! ## Markers -/

namespace Dialect

variable {d : Dialect}

/-- Turning markers into quotes keeps every question mark, with the backslash before it. -/
theorem questionMarks_wrapMarkersList (escaped : Bool) (cs : List Char) :
    questionMarks escaped (d.wrapMarkersList cs) = questionMarks escaped cs := by
  fun_induction wrapMarkersList d cs generalizing escaped with
  | case1 => rfl
  | case2 c cs hmarker ih =>
    -- The backslash that goes stood before a marker, which is no question mark.
    obtain ⟨hmark, hbackslash⟩ := ne_of_isMarker hmarker
    rw [questionMarks, if_neg hmark, questionMarks, if_neg (by decide), questionMarks,
      if_neg hmark, beq_eq_false_iff_ne.mpr hbackslash, ih]
  | case3 c cs hmarker ih =>
    have hbackslash : '\\' ≠ '?' := by decide
    rw [questionMarks, if_neg hbackslash, questionMarks, if_neg hbackslash, ih]
  | case4 c cs hescape ih =>
    obtain ⟨hmark, hbackslash⟩ := Markup.wrapped_char d c
    rw [questionMarks, questionMarks, if_congr hmark rfl rfl, hbackslash, ih, ih]

/-! ## Escaping markers -/

/-- Puts a backslash before each marker. -/
def escapeMarkersList (cs : List Char) : List Char :=
  cs.flatMap fun c => if isMarker c then ['\\', c] else [c]

/-- Puts a backslash before each marker. -/
def escapeMarkers (s : String) : String :=
  String.ofList (escapeMarkersList s.toList)

/-- An escaped text does not begin with a marker. -/
theorem head?_escapeMarkersList (cs : List Char) :
    ∀ c ∈ (escapeMarkersList cs).head?, isMarker c = false := by
  intro c hc
  cases cs with
  | nil => exact nomatch hc
  | cons first cs =>
    rw [escapeMarkersList, List.flatMap_cons] at hc
    split at hc
    case isTrue =>
      obtain rfl : '\\' = c := Option.some.inj hc
      decide
    case isFalse hmarker =>
      obtain rfl : first = c := Option.some.inj hc
      exact Bool.eq_false_iff.mpr hmarker

/-- Turning markers into quotes takes away the backslashes that escaping has put in, and nothing
else. -/
theorem wrapMarkersList_escapeMarkersList (cs : List Char) :
    d.wrapMarkersList (escapeMarkersList cs) = cs := by
  induction cs with
  | nil => rfl
  | cons c cs ih =>
    rw [escapeMarkersList, List.flatMap_cons, ← escapeMarkersList]
    split
    case isTrue hmarker =>
      change d.wrapMarkersList ('\\' :: c :: escapeMarkersList cs) = c :: cs
      rw [wrapMarkersList]
      exact (if_pos hmarker).trans (congrArg _ ih)
    case isFalse hmarker =>
      -- A backslash of the text is not taken for one of these, as no marker comes after it.
      obtain ⟨hopen, hclose⟩ := Bool.or_eq_false_iff.mp (Bool.eq_false_iff.mpr hmarker)
      rw [List.singleton_append, wrapMarkersList_cons fun _ => head?_escapeMarkersList cs,
        hopen, hclose, ih]
      rfl

theorem wrapMarkers_escapeMarkers (s : String) : d.wrapMarkers (escapeMarkers s) = s := by
  rw [wrapMarkers, escapeMarkers, String.toList_ofList, wrapMarkersList_escapeMarkersList,
    String.ofList_toList]

/-- **Escapes in raw SQL.**  In every dialect, turning the markers of a text into quotes leaves the
question marks of the text as they are, placeholders and escaped ones in the same order, and so as
many placeholders as there were.  And every text is what comes of some raw SQL: of the text itself
with a backslash before each of its markers. -/
theorem wrapMarkers_keeps_escapes (d : Dialect) :
    (∀ s : String,
      questionMarks false (d.wrapMarkers s).toList = questionMarks false s.toList ∧
        countMarks (d.wrapMarkers s) = countMarks s) ∧
    ∀ s : String, d.wrapMarkers (escapeMarkers s) = s := by
  refine ⟨fun s => ?_, wrapMarkers_escapeMarkers⟩
  have hmarks : questionMarks false (d.wrapMarkers s).toList = questionMarks false s.toList := by
    rw [wrapMarkers, String.toList_ofList, questionMarks_wrapMarkersList]
  exact ⟨hmarks, by rw [countMarks_eq_count_questionMarks, hmarks,
    ← countMarks_eq_count_questionMarks]⟩

/-- Of two backslashes before a marker only the second one goes, and a question mark that comes
after the marker is a placeholder still. -/
example : mySql.wrapMarkersList "\\\\[? \x7b\\?".toList = "\\[? \x60\\?".toList ∧
    questionMarks false "\\\\[? \x7b\\?".toList = [.mark, .escaped] := by decide

end Dialect

/-! ## Raw expressions -/

/-- Every text with a value for each of its placeholders can be given as raw SQL: it is written as
it stands, with the values in their places. -/
theorem Env.raw_escapeMarkers (d : Dialect) (env : Env) {s : String} {values : List Value}
    (h : countMarks s = values.length) :
    env.raw d ⟨escapeMarkers s, values⟩ = do
      let texts ← values.mapM env.placeholder
      return String.ofList (interleave (cutMarks false s.toList) (texts.map String.toList)) := by
  rw [Env.raw_pieces, wrapMarkers_escapeMarkers, if_pos h]

end SqlBuilder
