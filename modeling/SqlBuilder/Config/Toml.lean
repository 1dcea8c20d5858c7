import SqlBuilder.Number.Reader
import SqlBuilder.Text.Split

/-!
# Configuration files

A configuration file is a list of lines.  A line is blank, or sets a key (`key = value`), or begins
a table (`[table]`) that the keys after it belong to; a comment may end it.  Keys and tables may be
dotted.  A value is a truth value, an integer of 64 bits, a floating point number, a text in double
quotes (with escapes) or in single quotes (without any), or an array of values, which may go on over
several lines.

A `TomlFile` holds the values by their full paths.  `TomlFile.ofText?` reads a file and refuses one
that sets a key twice, begins a table twice, or uses one path both for a value and for a table.
-/

namespace SqlBuilder

open Number

/-- A value of a configuration file. -/
inductive Toml where
  | bool (b : Bool)
  | int (n : Int)
  | float (x : Binary64)
  | text (s : String)
  | array (items : List Toml)

namespace Toml

/-! ## Characters -/

/-- The front of a line without blanks. -/
def skipBlanks (cs : List Char) : List Char :=
  cs.dropWhile fun c => c = ' ' || c = '\t'

/-- May the character stand in a text or a comment? -/
def isPrintable (c : Char) : Bool :=
  c = '\t' || (32 ≤ c.toNat && c.toNat ≠ 127)

/-- What follows the end of the line, if nothing but a comment stands before it. -/
def endLine? (cs : List Char) : Option (List Char) :=
  match skipBlanks cs with
  | [] => some []
  | '\n' :: rest => some rest
  | '#' :: cs =>
    if (cs.takeWhile (· ≠ '\n')).all isPrintable then some ((cs.dropWhile (· ≠ '\n')).drop 1)
    else none
  | _ => none

/-- What follows blanks, line breaks and comments; `inComment` says that a comment has begun. -/
def skipSpace? (inComment : Bool) : List Char → Option (List Char)
  | [] => some []
  | c :: cs =>
    if c = '\n' then skipSpace? false cs
    else if inComment then if isPrintable c then skipSpace? true cs else none
    else if c = '#' then skipSpace? true cs
    else if c = ' ' || c = '\t' then skipSpace? false cs
    else some (c :: cs)

/-! ## Texts -/

/-- The character of a short escape. -/
def shortEscape? (c : Char) : Option Char :=
  [('"', '"'), ('\\', '\\'), ('n', '\n'), ('t', '\t'), ('r', '\r'), ('b', Char.ofNat 8),
    ('f', Char.ofNat 12)].lookup c

/-- The character with a code in base sixteen. -/
def codeChar? (digits : List Char) : Option Char := do
  let n ← hexValues? digits
  if n.isValidChar then some (Char.ofNat n) else none

/-- Reads a text after its opening quote: its characters, and what follows the closing quote. -/
def readBasic : List Char → Option (List Char × List Char)
  | '"' :: cs => some ([], cs)
  | '\\' :: 'u' :: a :: b :: c :: d :: cs => do
    let x ← codeChar? [a, b, c, d]
    let (s, rest) ← readBasic cs
    some (x :: s, rest)
  | '\\' :: 'U' :: a :: b :: c :: d :: e :: f :: g :: h :: cs => do
    let x ← codeChar? [a, b, c, d, e, f, g, h]
    let (s, rest) ← readBasic cs
    some (x :: s, rest)
  | '\\' :: c :: cs => do
    let x ← shortEscape? c
    let (s, rest) ← readBasic cs
    some (x :: s, rest)
  | c :: cs =>
    if isPrintable c then (readBasic cs).map fun (s, rest) => (c :: s, rest) else none
  | [] => none

/-- Reads a text without escapes after its opening quote. -/
def readLiteral (cs : List Char) : Option (List Char × List Char) :=
  let s := cs.takeWhile (· ≠ '\'')
  match cs.dropWhile (· ≠ '\'') with
  | _ :: rest => if s.all isPrintable then some (s, rest) else none
  | [] => none

/-! ## Keys -/

/-- The characters of a key without quotes. -/
def isKeyChar (c : Char) : Bool :=
  c.isAlphanum || c = '_' || c = '-'

/-- Reads one part of a key, with the blanks around it. -/
def readKeyPart (cs : List Char) : Option (String × List Char) := do
  let (part, rest) ← match skipBlanks cs with
    | '"' :: cs => readBasic cs
    | '\'' :: cs => readLiteral cs
    | cs =>
      let part := cs.takeWhile isKeyChar
      if part.isEmpty then none else some (part, cs.dropWhile isKeyChar)
  some (String.ofList part, skipBlanks rest)

/-- Reads a key of at most `bound` parts with dots between them. -/
def readPath : Nat → List Char → Option (List String × List Char)
  | 0, _ => none
  | bound + 1, cs => do
    let (part, rest) ← readKeyPart cs
    match rest with
    | '.' :: rest =>
      let (parts, rest) ← readPath bound rest
      some (part :: parts, rest)
    | rest => some ([part], rest)

/-! ## Numbers -/

/-- A run of digits without the underscores in it, each of which stands between digits. -/
def ofDigitRun? (cs : List Char) : Option (List Char) :=
  let runs := Text.splitOnList '_' cs
  if runs.all fun run => !run.isEmpty && run.all Char.isDigit then some runs.flatten else none

/-- A whole number without a sign; only zero begins with a zero. -/
def whole? (cs : List Char) : Option (List Char) := do
  let ds ← ofDigitRun? cs
  if ds.head? = some '0' ∧ 1 < ds.length then none else some ds

/-- An integer of 64 bits. -/
def integer? (cs : List Char) : Option Toml := do
  let (negative, cs) := Binary64.splitSign cs
  let ds ← whole? cs
  let n : Int := if negative then -digitsValue ds else digitsValue ds
  if Int64.minValue.toInt ≤ n ∧ n ≤ Int64.maxValue.toInt then some (int n) else none

/-- A floating point number: a whole number with a fraction, an exponent, or both.  One beyond the
largest number is refused. -/
def float? (cs : List Char) : Option Toml := do
  let (negative, cs) := Binary64.splitSign cs
  if cs = "inf".toList then return float (Binary64.infinity negative)
  if cs = "nan".toList then return float Binary64.nan
  let isMark := fun c : Char => c = 'e' || c = 'E'
  if !cs.any fun c => c = '.' || isMark c then none
  let mantissa := cs.takeWhile (!isMark ·)
  let ds ← whole? (mantissa.takeWhile (· ≠ '.'))
  let fraction ← match mantissa.dropWhile (· ≠ '.') with
    | _ :: cs => ofDigitRun? cs
    | [] => some []
  let exponent ← match cs.dropWhile (!isMark ·) with
    | _ :: cs =>
      let (negative, cs) := Binary64.splitSign cs
      (ofDigitRun? cs).map fun ds => if negative then -(digitsValue ds : Int) else digitsValue ds
    | [] => some 0
  let x := Binary64.ofDecimal negative (digitsValue (ds ++ fraction)) (exponent - fraction.length)
  if x = Binary64.infinity false then none else some (float x)

/-! ## Values -/

/-- A value written as a single word. -/
def ofWord? (cs : List Char) : Option Toml :=
  if cs = "true".toList then some (bool true)
  else if cs = "false".toList then some (bool false)
  else integer? cs <|> float? cs

/-- Does the character end a word? -/
def endsWord (c : Char) : Bool :=
  c = ' ' || c = '\t' || c = '\n' || c = ',' || c = ']' || c = '#'

mutual

/-- Reads a value. -/
def readValue : Nat → List Char → Option (Toml × List Char)
  | 0, _ => none
  | bound + 1, cs =>
    match skipBlanks cs with
    | '"' :: cs => (readBasic cs).map fun (s, rest) => (text (String.ofList s), rest)
    | '\'' :: cs => (readLiteral cs).map fun (s, rest) => (text (String.ofList s), rest)
    | '[' :: cs => (readItems bound cs).map fun (items, rest) => (array items, rest)
    | cs => (ofWord? (cs.takeWhile (!endsWord ·))).map (·, cs.dropWhile (!endsWord ·))

/-- Reads the items of an array up to its closing bracket; a comma may follow the last one. -/
def readItems : Nat → List Char → Option (List Toml × List Char)
  | 0, _ => none
  | bound + 1, cs => do
    match ← skipSpace? false cs with
    | ']' :: rest => some ([], rest)
    | cs =>
      let (item, rest) ← readValue bound cs
      match ← skipSpace? false rest with
      | ']' :: rest => some ([item], rest)
      | ',' :: rest =>
        let (items, rest) ← readItems bound rest
        some (item :: items, rest)
      | _ => none

end

end Toml

/-! ## Files -/

/-- The contents of a configuration file, in the order of its lines. -/
structure TomlFile where
  values : List (List String × Toml) := []
  /-- The tables that were begun by a line of their own. -/
  tables : List (List String) := []
  /-- The tables that were begun by a dotted key. -/
  dotted : List (List String) := []
  /-- The table that the next key belongs to. -/
  current : List String := []

namespace TomlFile

open Toml

/-- What stands at a path. -/
inductive Entry where
  | value (v : Toml)
  | table

/-- What stands at a path: a value, or a table if something stands below the path. -/
def entry? (f : TomlFile) (path : List String) : Option Entry :=
  match f.values.lookup path with
  | some v => some (.value v)
  | none =>
    if f.tables.any path.isPrefixOf || f.values.any (path.isPrefixOf ·.1) then some .table else none

/-- Does a value stand at a path or above it? -/
def isCovered (f : TomlFile) (path : List String) : Bool :=
  f.values.any (·.1.isPrefixOf path)

/-- Begins a table. -/
def beginTable? (f : TomlFile) (path : List String) : Option TomlFile :=
  if path ∈ f.tables ∨ path ∈ f.dotted ∨ f.isCovered path then none
  else some { f with tables := path :: f.tables, current := path }

/-- The paths of the tables that a dotted key of the current table goes through. -/
def through (f : TomlFile) (key : List String) : List (List String) :=
  (List.range' 1 (key.length - 1)).map fun n => f.current ++ key.take n

/-- Sets a key of the current table. -/
def set? (f : TomlFile) (key : List String) (v : Toml) : Option TomlFile :=
  let path := f.current ++ key
  let passed := f.through key
  if f.isCovered path ∨ (f.entry? path).isSome ∨ passed.any (· ∈ f.tables) then none
  else some { f with values := f.values ++ [(path, v)], dotted := passed ++ f.dotted }

/-- Reads a line, or the lines that an array goes on over, and returns what follows. -/
def addLine? (f : TomlFile) (cs : List Char) : Option (TomlFile × List Char) :=
  let bound := cs.length + 1
  match skipBlanks cs with
  | '[' :: cs => do
    let (path, rest) ← readPath bound cs
    match rest with
    | ']' :: rest => some (← f.beginTable? path, ← endLine? rest)
    | _ => none
  | cs =>
    match endLine? cs with
    | some rest => some (f, rest)
    | none => do
      let (key, rest) ← readPath bound cs
      match rest with
      | '=' :: rest =>
        let (v, rest) ← readValue (bound + 1) rest
        some (← f.set? key v, ← endLine? rest)
      | _ => none

/-- Reads lines, at most `bound` of them. -/
def addLines? : Nat → TomlFile → List Char → Option TomlFile
  | _, f, [] => some f
  | 0, _, _ => none
  | bound + 1, f, cs => do
    let (f, rest) ← f.addLine? cs
    addLines? bound f rest

/-- The text without the carriage returns that begin a line break. -/
def lineFeeds : List Char → List Char
  | '\r' :: '\n' :: cs => '\n' :: lineFeeds cs
  | c :: cs => c :: lineFeeds cs
  | [] => []

/-- The text without a byte order mark in front. -/
def dropByteOrderMark : List Char → List Char
  | '\uFEFF' :: cs => cs
  | cs => cs

/-- Reads a file. -/
def ofText? (s : String) : Option TomlFile :=
  let cs := lineFeeds (dropByteOrderMark s.toList)
  addLines? cs.length {} cs

end TomlFile

end SqlBuilder
