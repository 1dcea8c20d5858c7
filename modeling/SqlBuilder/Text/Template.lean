/-!
# Templates

A template is a text with slots, which are names in braces.  `fillTemplate` puts a text in the place
of each slot.  It goes over the template once and never over what it has put there.  A brace that
opens no slot, because no brace closes it or the name between them is not known, stands for itself.
-/

namespace SqlBuilder.Text

/-- What is put in the place of a slot, given what follows its opening brace, and how many
characters of that belong to the slot. -/
def slotAt? (text : String → Option String) (cs : List Char) : Option (String × Nat) :=
  let name := cs.takeWhile (· ≠ '}')
  if name.length < cs.length then
    (text (String.ofList name)).map fun s => (s, name.length + 1)
  else
    none

/-- Fills the slots of a template, of which the given number of characters belongs to a slot that
is filled already. -/
def fillSlots (text : String → Option String) : Nat → List Char → List Char
  | n + 1, _ :: cs => fillSlots text n cs
  | 0, c :: cs =>
    match if c = '{' then slotAt? text cs else none with
    | some (s, n) => s.toList ++ fillSlots text n cs
    | none => c :: fillSlots text 0 cs
  | _, [] => []

/-- A template with a text in the place of each slot. -/
def fillTemplate (text : String → Option String) (template : String) : String :=
  String.ofList (fillSlots text 0 template.toList)

end SqlBuilder.Text
