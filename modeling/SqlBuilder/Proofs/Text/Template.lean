import SqlBuilder.Text.Template

/-!
# Filled templates

Filling goes over a template character by character (`fillSlots`).  A text without an opening brace
is passed as it is (`fillSlots_text`), and a slot as a whole is replaced (`fillSlots_slot`),
whatever the text that is put in its place.  So a template made of such pieces is filled piece by
piece (`fillTemplate_written`): what is put into a slot is copied, even if it looks like a slot
itself.
-/

namespace SqlBuilder.Text

/-- A piece of a template. -/
inductive TemplatePiece where
  /-- A text that stands for itself. -/
  | text (s : String)
  | slot (name : String)

namespace TemplatePiece

/-- A piece as it stands in a template. -/
def written : TemplatePiece → String
  | text s => s
  | slot name => "\x7b" ++ name ++ "\x7d"

/-- A piece with the text of its slot. -/
def filled (f : String → Option String) : TemplatePiece → String
  | text s => s
  | slot name => (f name).getD ""

/-- Filling a template can tell the piece from others: a text opens no slot, and the slot has a
name that is known and ends at the first closing brace. -/
def Fits (f : String → Option String) : TemplatePiece → Prop
  | text s => '{' ∉ s.toList
  | slot name => '}' ∉ name.toList ∧ (f name).isSome

variable {f : String → Option String}

theorem Fits.text {s : String} (h : '{' ∉ s.toList) : (text s).Fits f :=
  h

theorem Fits.slot {name s : String} (hname : '}' ∉ name.toList) (hs : f name = some s) :
    (slot name).Fits f :=
  ⟨hname, by rw [hs, Option.isSome_some]⟩

end TemplatePiece

variable {f : String → Option String}

/-- The characters of a slot that is filled already are left out. -/
theorem fillSlots_skip (skipped rest : List Char) :
    fillSlots f skipped.length (skipped ++ rest) = fillSlots f 0 rest := by
  induction skipped with
  | nil => rfl
  | cons c cs ih =>
    rw [List.length_cons, List.cons_append, fillSlots, ih]

/-- A text without an opening brace stays. -/
theorem fillSlots_text {cs : List Char} (h : '{' ∉ cs) (rest : List Char) :
    fillSlots f 0 (cs ++ rest) = cs ++ fillSlots f 0 rest := by
  induction cs with
  | nil => rfl
  | cons c cs ih =>
    rw [List.mem_cons, not_or] at h
    obtain ⟨hc, hcs⟩ := h
    have hopen : c ≠ '{' := fun heq => hc heq.symm
    rw [List.cons_append, fillSlots, if_neg hopen, ih hcs, List.cons_append]

/-- The name of a slot ends at the first closing brace. -/
theorem slotAt?_name {name : List Char} (hname : '}' ∉ name) (rest : List Char) :
    slotAt? f (name ++ '}' :: rest) =
      (f (String.ofList name)).map fun s => (s, name.length + 1) := by
  have htake : (name ++ '}' :: rest).takeWhile (· ≠ '}') = name := by
    rw [List.takeWhile_append_of_pos fun c hc => by simpa using fun h : c = '}' => hname (h ▸ hc)]
    simp
  unfold slotAt?
  rw [htake, if_pos (by simp)]

/-- A slot whose name is known is replaced by its text. -/
theorem fillSlots_slot {name : List Char} (hname : '}' ∉ name) {s : String}
    (hs : f (String.ofList name) = some s) (rest : List Char) :
    fillSlots f 0 ('{' :: name ++ '}' :: rest) = s.toList ++ fillSlots f 0 rest := by
  have hskip : fillSlots f (name.length + 1) (name ++ '}' :: rest) = fillSlots f 0 rest := by
    have hsplit : name ++ '}' :: rest = (name ++ ['}']) ++ rest := by simp
    have hlength : name.length + 1 = (name ++ ['}']).length := by simp
    rw [hsplit, hlength, fillSlots_skip]
  rw [List.cons_append, fillSlots, if_pos rfl, slotAt?_name hname, hs, Option.map_some]
  dsimp only
  rw [hskip]

/-- **Templates.**  A template is filled piece by piece. -/
theorem fillTemplate_written {pieces : List TemplatePiece} (h : ∀ p ∈ pieces, p.Fits f) :
    fillTemplate f (String.join (pieces.map (·.written))) =
      String.join (pieces.map (·.filled f)) := by
  apply String.toList_injective
  rw [fillTemplate, String.toList_ofList]
  induction pieces with
  | nil => rfl
  | cons p pieces ih =>
    obtain ⟨hp, hpieces⟩ := List.forall_mem_cons.mp h
    rw [List.map_cons, String.join_cons, String.toList_append, List.map_cons, String.join_cons,
      String.toList_append, ← ih hpieces]
    cases p with
    | text s => exact fillSlots_text hp _
    | slot name =>
      obtain ⟨hname, hknown⟩ := hp
      obtain ⟨s, hs⟩ := Option.isSome_iff_exists.mp hknown
      have hwritten : (TemplatePiece.slot name).written.toList =
          '{' :: name.toList ++ ['}'] := by
        simp [TemplatePiece.written]
      have hfilled : (TemplatePiece.slot name).filled f = s := by
        rw [TemplatePiece.filled, hs, Option.getD_some]
      rw [hwritten, hfilled, List.append_assoc]
      exact fillSlots_slot hname (by rw [String.ofList_toList, hs]) _

end SqlBuilder.Text
