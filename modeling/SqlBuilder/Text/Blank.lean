/-!
# Blanks

Which characters count as blank, and the two operations that depend on it: cutting the blanks off
both ends of a text (`trim`) and cutting a text into its words (`words`).

`isBlank` is the `White_Space` property of the Unicode standard, so a no-break space or an
ideographic space separates words like an ASCII space.  The operations are defined on lists of
characters, with a form on `String` beside them; `trimStartList_sublist` and its companions say that
trimming only drops characters.
-/

namespace SqlBuilder.Text

/-! ## The class -/

/-- The characters with the Unicode `White_Space` property. -/
def isBlank (c : Char) : Bool :=
  let n := c.toNat
  (0x9 ≤ n && n ≤ 0xD) || n == 0x20 || n == 0x85 || n == 0xA0 || n == 0x1680 ||
    (0x2000 ≤ n && n ≤ 0x200A) || n == 0x2028 || n == 0x2029 || n == 0x202F || n == 0x205F ||
    n == 0x3000

/-! ## Trimming -/

/-- The text without its leading blanks. -/
def trimStartList (cs : List Char) : List Char :=
  cs.dropWhile isBlank

/-- The text without its trailing blanks. -/
def trimEndList (cs : List Char) : List Char :=
  (cs.reverse.dropWhile isBlank).reverse

/-- The text without the blanks at either end. -/
def trimList (cs : List Char) : List Char :=
  trimEndList (trimStartList cs)

/-- The text without the blanks at either end. -/
def trim (s : String) : String :=
  String.ofList (trimList s.toList)

theorem trimStartList_sublist (cs : List Char) : (trimStartList cs).Sublist cs :=
  List.dropWhile_sublist _

theorem trimEndList_sublist (cs : List Char) : (trimEndList cs).Sublist cs := by
  have h := (List.dropWhile_sublist (l := cs.reverse) isBlank).reverse
  rwa [List.reverse_reverse] at h

theorem trimList_sublist (cs : List Char) : (trimList cs).Sublist cs :=
  (trimEndList_sublist _).trans (trimStartList_sublist _)

theorem length_trimList_le (cs : List Char) : (trimList cs).length ≤ cs.length :=
  (trimList_sublist cs).length_le

/-! ## Words -/

/-- The maximal runs of characters that are not blank, in order. -/
def wordsList (cs : List Char) : List (List Char) :=
  (go cs).filter (· ≠ [])
where
  /-- Cuts at every blank, empty pieces included. -/
  go : List Char → List (List Char)
    | [] => [[]]
    | c :: cs =>
      if isBlank c then
        [] :: go cs
      else
        match go cs with
        | [] => [[c]]
        | w :: ws => (c :: w) :: ws

/-- The words of a text. -/
def words (s : String) : List String :=
  (wordsList s.toList).map String.ofList

end SqlBuilder.Text
