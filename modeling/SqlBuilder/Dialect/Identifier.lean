import SqlBuilder.Dialect
import SqlBuilder.Text.Alias

/-!
# Identifiers

How a dialect quotes the names of tables and columns.  `Identifier.ofText` reads a name that may be
dotted and may carry aliases (`dbo.users.id as key`), and `Identifier.text` quotes each of its
parts, so that `Dialect.wrap` is reading followed by writing.  A quote that belongs to a name is
doubled, and `*` is never quoted.

In raw SQL, `Dialect.wrapMarkers` turns the markers around `{name}` and `[name]` into the quotes of
the dialect; a backslash before a marker keeps it as it is.
-/

namespace SqlBuilder

open Text

/-! ## Quoting -/

namespace Dialect

/-- The opening and the closing quote around a name. -/
def quotes : Dialect → Char × Char
  | sqlServer => ('[', ']')
  | mySql => ('\x60', '\x60')
  | _ => ('"', '"')

/-- The word before an alias, with the space after it. -/
def aliasKeyword : Dialect → String
  | oracle => ""
  | _ => "AS "

/-- The name as the database stores it. -/
def storedName : Dialect → String → String
  | firebird, name => toUpper name
  | _, name => name

/-- A single name in quotes; `*` is left alone. -/
def quoteIdentifier (d : Dialect) (name : String) : String :=
  if name = "*" then
    name
  else
    String.singleton d.quotes.1 ++ double d.quotes.2 (d.storedName name) ++
      String.singleton d.quotes.2

end Dialect

/-! ## Dotted names with aliases -/

/-- A dotted name and the aliases after it, in the order in which they are written. -/
structure Identifier where
  path : List String
  aliases : List String

namespace Identifier

/-- Cuts the aliases off the end of a text. -/
def splitAliases (cs : List Char) : List Char × List (List Char) :=
  match h : splitAliasList? cs with
  | some (name, aliasName) =>
    have := length_of_splitAliasList? h
    let (base, aliases) := splitAliases name
    (base, aliases ++ [aliasName])
  | none => (cs, [])
termination_by cs.length

/-- Reads a dotted name with aliases; blanks around the parts do not belong to them. -/
def ofText (s : String) : Identifier :=
  let (base, aliases) := splitAliases s.toList
  { path := (splitOnList '.' base).map fun part => String.ofList (trimList part)
    aliases := aliases.map String.ofList }

/-- The identifier in a dialect. -/
def text (d : Dialect) (i : Identifier) : String :=
  let path := String.intercalate "." (i.path.map d.quoteIdentifier)
  i.aliases.foldl (fun s a => s ++ " " ++ d.aliasKeyword ++ d.quoteIdentifier a) path

end Identifier

namespace Dialect

/-- A name that may be dotted and may carry aliases, quoted part by part. -/
def wrap (d : Dialect) (s : String) : String :=
  (Identifier.ofText s).text d

/-! ## Markers in raw SQL -/

/-- Does the character open a marked name? -/
def opensMarker (c : Char) : Bool :=
  c == '{' || c == '['

/-- Does the character close a marked name? -/
def closesMarker (c : Char) : Bool :=
  c == '}' || c == ']'

/-- Turns the markers of raw SQL into quotes. -/
def wrapMarkersList (d : Dialect) : List Char → List Char
  | [] => []
  | '\\' :: c :: cs =>
    if opensMarker c || closesMarker c then
      c :: wrapMarkersList d cs
    else
      '\\' :: wrapMarkersList d (c :: cs)
  | c :: cs =>
    (if opensMarker c then d.quotes.1 else if closesMarker c then d.quotes.2 else c) ::
      wrapMarkersList d cs

/-- Turns the markers of raw SQL into quotes. -/
def wrapMarkers (d : Dialect) (s : String) : String :=
  String.ofList (d.wrapMarkersList s.toList)

end Dialect

end SqlBuilder
