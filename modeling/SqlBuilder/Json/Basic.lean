import SqlBuilder.Number.Binary64

/-!
# JSON trees

The tree of a JSON document.  A number is an integer or a floating point number, as it was written:
`2` and `2.0` are different trees.  The fields of an object that is built by `Json.ofFields` stand
in the order of their names and have different names; of two fields with one name the later one is
kept (`insertField`).  `Json.sorted` builds all objects of a tree anew in this way.

`Json.depth` bounds how deep a tree is nested, which is what a reader that descends into it needs.
-/

namespace SqlBuilder

/-- The tree of a JSON document. -/
inductive Json where
  | null
  | bool (b : Bool)
  | int (n : Int)
  | float (x : Binary64)
  | text (s : String)
  | array (items : List Json)
  | object (fields : List (String × Json))

namespace Json

instance : Inhabited Json := ⟨null⟩

/-! ## Objects -/

/-- Puts a field into its place among fields in the order of their names, instead of an earlier
field of that name. -/
def insertField (name : String) (value : Json) : List (String × Json) → List (String × Json)
  | [] => [(name, value)]
  | (n, v) :: rest =>
    if name = n then
      (name, value) :: rest
    else if name < n then
      (name, value) :: (n, v) :: rest
    else
      (n, v) :: insertField name value rest

/-- An object with the given fields, the last one of each name. -/
def ofFields (fields : List (String × Json)) : Json :=
  object (fields.foldl (fun acc f => insertField f.1 f.2 acc) [])

mutual

/-- The tree with the fields of all its objects in order, the last one of each name. -/
def sorted : Json → Json
  | array items => array (sortedList items)
  | object fields => ofFields (sortedFields fields)
  | j => j

/-- The trees of a list with their fields in order. -/
def sortedList : List Json → List Json
  | [] => []
  | j :: js => j.sorted :: sortedList js

/-- The fields of an object, each of which has its own fields in order. -/
def sortedFields : List (String × Json) → List (String × Json)
  | [] => []
  | (name, j) :: fs => (name, j.sorted) :: sortedFields fs

end

/-- The first field of a name, if the tree is an object that has one. -/
def field? (name : String) : Json → Option Json
  | object fields => fields.lookup name
  | _ => none

/-- A text, or null. -/
def ofOptionText : Option String → Json
  | some s => text s
  | none => null

/-! ## Nesting -/

mutual

/-- The number of arrays and objects around the deepest leaf. -/
def depth : Json → Nat
  | array items => listDepth items + 1
  | object fields => fieldsDepth fields + 1
  | _ => 0

/-- The greatest depth of a list of trees. -/
def listDepth : List Json → Nat
  | [] => 0
  | j :: js => max j.depth (listDepth js)

/-- The greatest depth of a list of fields. -/
def fieldsDepth : List (String × Json) → Nat
  | [] => 0
  | (_, j) :: fs => max j.depth (fieldsDepth fs)

end

end Json

end SqlBuilder
