/-!
# Placeholders

SQL text marks the place of each value by a `?`.  A `?` after a backslash is not such a mark but a
question mark of its own.  `Token.scan` cuts a text into marks, escaped question marks and other
characters, and everything that looks for placeholders goes through it: counting them
(`countMarks`), giving them a text each (`fillMarks`), and writing out the question marks
(`Token.final`).

`Token.written_scan` says that cutting loses nothing.
-/

namespace SqlBuilder

/-- A piece of SQL text. -/
inductive Token where
  /-- The place of a value. -/
  | mark
  /-- A question mark that is no such place, with its backslash. -/
  | escaped
  | char (c : Char)
deriving DecidableEq

namespace Token

/-- Cuts a text into tokens. -/
def scan : List Char → List Token
  | '\\' :: '?' :: cs => escaped :: scan cs
  | '?' :: cs => mark :: scan cs
  | c :: cs => char c :: scan cs
  | [] => []

/-- A token as it was written. -/
def written : Token → List Char
  | mark => ['?']
  | escaped => ['\\', '?']
  | char c => [c]

/-- A token as the database sees it, without the backslash of an escape. -/
def final : Token → List Char
  | mark => ['?']
  | escaped => ['?']
  | char c => [c]

/-- The tokens of a text make up the text. -/
theorem written_scan (cs : List Char) : (scan cs).flatMap written = cs := by
  fun_induction scan cs with
  | case1 cs ih => simp [written, ih]
  | case2 cs ih => simp [written, ih]
  | case3 c cs _ _ ih => simp [written, ih]
  | case4 => rfl

end Token

/-- The number of placeholders in a text. -/
def countMarks (sql : String) : Nat :=
  (Token.scan sql.toList).count .mark

/-- Writes the `n`th placeholder, counted from `n`, as the function says, and every other token as
`other` says. -/
def fillMarks (other : Token → List Char) (text : Nat → List Char) : Nat → List Token → List Char
  | n, .mark :: ts => text n ++ fillMarks other text (n + 1) ts
  | n, t :: ts => other t ++ fillMarks other text n ts
  | _, [] => []

end SqlBuilder
