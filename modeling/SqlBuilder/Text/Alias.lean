import SqlBuilder.Text.Blank
import SqlBuilder.Text.Split

/-!
# Aliases

A table or a column may carry an alias: `users as u`.  `splitAlias?` cuts such a text at its last
` as `, in any ASCII letter case, into name and alias without the blanks around them; a text with
nothing on one side of it carries no alias.  A name may carry a further alias of its own
(`a as b as c`), so `length_of_splitAliasList?` says that it is shorter than the text.
-/

namespace SqlBuilder.Text

/-- Does the text begin with ` as `, in any letter case? -/
def atAliasMark (cs : List Char) : Bool :=
  (cs.take 4).map Char.toLower == [' ', 'a', 's', ' ']

/-- The name and the alias of a text that carries an alias. -/
def splitAliasList? (cs : List Char) : Option (List Char × List Char) :=
  match cutLast? atAliasMark 4 cs with
  | some (before, after) =>
    let name := trimList before
    let aliasName := trimList after
    if name.isEmpty || aliasName.isEmpty then none else some (name, aliasName)
  | none => none

/-- The name and the alias of a text that carries an alias. -/
def splitAlias? (s : String) : Option (String × String) :=
  (splitAliasList? s.toList).map fun p => (String.ofList p.1, String.ofList p.2)

/-- The name is shorter than the text that carries the alias. -/
theorem length_of_splitAliasList? {cs name aliasName : List Char}
    (h : splitAliasList? cs = some (name, aliasName)) : name.length < cs.length := by
  simp only [splitAliasList?] at h
  split at h
  · next before after hc =>
    split at h
    · simp at h
    · obtain ⟨rfl, -⟩ := by simpa using h
      exact Nat.lt_of_le_of_lt (length_trimList_le _) (length_of_cutLast? hc)
  · simp at h

end SqlBuilder.Text
