/-!
# Cutting and replacing

Cutting a text at a separator character (`splitOn`), at its last separator (`splitLast?`), at the
first or last occurrence of a pattern (`cutFirst?`, `cutLast?`), and replacing a character by a text
(`replaceChar`).
All are total functions on lists of characters with a form on `String` where one is used.
-/

namespace SqlBuilder.Text

/-! ## Cutting at a character -/

/-- The pieces between the occurrences of `sep`; a text without one is its only piece. -/
def splitOnList (sep : Char) : List Char → List (List Char)
  | [] => [[]]
  | c :: cs =>
    if c = sep then
      [] :: splitOnList sep cs
    else
      match splitOnList sep cs with
      | [] => [[c]]
      | w :: ws => (c :: w) :: ws

/-- The pieces between the occurrences of `sep`; a text without one is its only piece. -/
def splitOn (sep : Char) (s : String) : List String :=
  (splitOnList sep s.toList).map String.ofList

theorem splitOnList_ne_nil (sep : Char) (cs : List Char) : splitOnList sep cs ≠ [] := by
  cases cs with
  | nil => simp [splitOnList]
  | cons c cs =>
    simp only [splitOnList]
    split
    · simp
    · split <;> simp

/-- Before and after the last occurrence of `sep`. -/
def splitLastList? (sep : Char) : List Char → Option (List Char × List Char)
  | [] => none
  | c :: cs =>
    match splitLastList? sep cs with
    | some (before, after) => some (c :: before, after)
    | none => if c = sep then some ([], cs) else none

/-- Before and after the last occurrence of `sep`. -/
def splitLast? (sep : Char) (s : String) : Option (String × String) :=
  (splitLastList? sep s.toList).map fun p => (String.ofList p.1, String.ofList p.2)

/-! ## Cutting at a pattern -/

/-- Before and after the last place where `isHere` accepts the rest of the text; `width` characters
are dropped there. -/
def cutLast? (isHere : List Char → Bool) (width : Nat) : List Char → Option (List Char × List Char)
  | [] => none
  | c :: cs =>
    match cutLast? isHere width cs with
    | some (before, after) => some (c :: before, after)
    | none => if isHere (c :: cs) then some ([], (c :: cs).drop width) else none

/-- What stands before the cut is shorter than the text. -/
theorem length_of_cutLast? {isHere : List Char → Bool} {width : Nat} {cs before after : List Char}
    (h : cutLast? isHere width cs = some (before, after)) : before.length < cs.length := by
  induction cs generalizing before with
  | nil => simp [cutLast?] at h
  | cons c cs ih =>
    simp only [cutLast?] at h
    split at h
    · next b a hb =>
      obtain ⟨rfl, rfl⟩ := by simpa using h
      have := ih hb
      simp only [List.length_cons]
      omega
    · split at h
      · obtain ⟨rfl, -⟩ := by simpa using h
        simp
      · simp at h

/-- Before and after the first place where `isHere` accepts the rest of the text; `width` characters
are dropped there. -/
def cutFirst? (isHere : List Char → Bool) (width : Nat) : List Char → Option (List Char × List Char)
  | [] => none
  | c :: cs =>
    if isHere (c :: cs) then
      some ([], (c :: cs).drop width)
    else
      (cutFirst? isHere width cs).map fun p => (c :: p.1, p.2)

/-! ## Replacing -/

/-- Every `c` written as `t`. -/
def replaceChar (c : Char) (t : List Char) (s : String) : String :=
  String.ofList (s.toList.flatMap fun x => if x = c then t else [x])

/-- Every `c` written twice, as a quoted text writes its closing quote. -/
def double (c : Char) (s : String) : String :=
  replaceChar c [c, c] s

end SqlBuilder.Text
