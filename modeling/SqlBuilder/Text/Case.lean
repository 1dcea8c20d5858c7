import SqlBuilder.Text.Case.Table

/-!
# Upper and lower case

The full case mappings of the Unicode standard, without a locale: `toLower` and `toUpper` on texts,
where one character may become several (`ß` is `SS` in upper case, `İ` is `i̇` in lower case), and
the ASCII mapping `toLowerAscii`, which leaves every other character alone.

Only one mapping looks at its neighbours: a capital sigma at the end of a word becomes `ς`, any
other `σ`.  Such an end is a sigma with a letter before it and none after it, marks and other
`isCaseIgnorable` characters not counting.
-/

namespace SqlBuilder.Text

/-! ## Single characters -/

/-- Is the character skipped when looking for the letters around a sigma? -/
def isCaseIgnorable (c : Char) : Bool :=
  inRanges ignorableRanges c.toNat

/-- Is the character a letter with case, and not one that is skipped around a sigma? -/
def isCasedLetter (c : Char) : Bool :=
  inRanges casedRanges c.toNat

/-- Lower case of a character by itself. -/
def lowerChar (c : Char) : List Char :=
  if c = 'İ' then
    ['i', '\u0307']
  else
    match CaseRun.lookup lowerRuns c.toNat with
    | some n => [Char.ofNat n]
    | none => [c]

/-- Upper case of a character. -/
def upperChar (c : Char) : List Char :=
  match upperExpansions.lookup c.toNat with
  | some ns => ns.map Char.ofNat
  | none =>
    match CaseRun.lookup upperRuns c.toNat with
    | some n => [Char.ofNat n]
    | none => [c]

/-! ## Texts -/

/-- Is the first character that is not skipped a letter with case? -/
def leadsWithLetter (cs : List Char) : Bool :=
  match cs.dropWhile isCaseIgnorable with
  | c :: _ => isCasedLetter c
  | [] => false

/-- Lower case of `cs`, which stands after the characters `before` (nearest first). -/
def lowerList (before : List Char) : List Char → List Char
  | [] => []
  | c :: after =>
    (if c = 'Σ' then
        if leadsWithLetter before && !leadsWithLetter after then ['ς'] else ['σ']
      else
        lowerChar c) ++ lowerList (c :: before) after

/-- The text in lower case. -/
def toLower (s : String) : String :=
  String.ofList (lowerList [] s.toList)

/-- The text in upper case. -/
def toUpper (s : String) : String :=
  String.ofList (s.toList.flatMap upperChar)

/-- The text with its ASCII letters in lower case. -/
def toLowerAscii (s : String) : String :=
  String.ofList (s.toList.map Char.toLower)

end SqlBuilder.Text
