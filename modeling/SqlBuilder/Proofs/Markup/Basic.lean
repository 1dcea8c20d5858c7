import SqlBuilder.Dialect.Identifier
import SqlBuilder.Render.Placeholder
import SqlBuilder.Value.Basic

/-!
# Markup

SQL text with the values in their places.  A `Markup` is what a statement would be if every value
stood where it is written, instead of a `?` in the text and an entry in a list of bindings: reading
off its characters gives the text (`Markup.text`), and reading off its values gives the bindings
(`Markup.bound`), both from left to right.

Two more cells describe statements that go wrong.  `Cell.silent` is a value that is bound but has no
place in the text, and `Cell.again` is a `?` for a value that is bound elsewhere.  A markup without
them is `Direct`: its `n`th place is the place of its `n`th binding.

## Places in the text

The places of a markup are found in its text by scanning for marks (`markPlaces`), as long as no
character of it is taken for a place and no place for an escaped question mark.  This is
`Markup.Sound`: a `?` among the characters comes right after a backslash, and a place never does.
Both depend on the character before, so that soundness is stated for a text that goes on after a
backslash or not, and `Markup.exit` says which of the two holds behind a markup.
-/

namespace SqlBuilder

/-- A piece of SQL text that may hold a value. -/
inductive Cell where
  | char (c : Char)
  /-- A bound value, written as `?`. -/
  | value (v : Value)
  /-- A `?` for a value that is bound elsewhere. -/
  | again
  /-- A bound value that is not written. -/
  | silent (v : Value)

/-- SQL text with the values in their places. -/
abbrev Markup := List Cell

namespace Cell

/-- The characters of a cell. -/
def text : Cell → List Char
  | char c => [c]
  | value _ | again => ['?']
  | silent _ => []

/-- The binding of a cell. -/
def bound : Cell → List Value
  | value v | silent v => [v]
  | char _ | again => []

/-- For each character, whether it is the place of a value. -/
def places : Cell → List Bool
  | char _ => [false]
  | value _ | again => [true]
  | silent _ => []

/-- Is the cell a value that is bound but not written? -/
def isSilent : Cell → Bool
  | silent _ => true
  | _ => false

/-- Is the cell a place for a value that is bound elsewhere? -/
def isAgain : Cell → Bool
  | again => true
  | _ => false

/-- Is every value of the cell bound where it is written? -/
def IsDirect (c : Cell) : Prop :=
  c.isSilent = false ∧ c.isAgain = false

end Cell

namespace Markup

/-- Text without values. -/
def ofString (s : String) : Markup :=
  s.toList.map .char

instance : Coe String Markup where
  coe := ofString

/-- The text, with a `?` in each place. -/
def text (m : Markup) : List Char :=
  m.flatMap Cell.text

/-- The bindings, from left to right. -/
def bound (m : Markup) : List Value :=
  m.flatMap Cell.bound

/-- For each character of the text, whether it is the place of a value. -/
def places (m : Markup) : List Bool :=
  m.flatMap Cell.places

/-- The number of values that are bound but not written. -/
def silentCount (m : Markup) : Nat :=
  m.countP Cell.isSilent

/-- The number of places for values that are bound elsewhere. -/
def againCount (m : Markup) : Nat :=
  m.countP Cell.isAgain

/-- Every value is bound where it is written. -/
def Direct (m : Markup) : Prop :=
  ∀ c ∈ m, c.IsDirect

/-! ## Texts and bindings of sequences -/

section Append

variable (m n : Markup)

@[simp] theorem text_nil : text [] = [] := rfl

@[simp] theorem bound_nil : bound [] = [] := rfl

@[simp] theorem text_append : text (m ++ n) = m.text ++ n.text := by
  simp [text]

@[simp] theorem bound_append : bound (m ++ n) = m.bound ++ n.bound := by
  simp [bound]

@[simp] theorem text_ofString (s : String) : text (ofString s) = s.toList := by
  simp [text, ofString, List.flatMap_map, Cell.text]

@[simp] theorem bound_ofString (s : String) : bound (ofString s) = [] := by
  simp [bound, ofString, List.flatMap_map, Cell.bound]

theorem direct_append : Direct (m ++ n) ↔ m.Direct ∧ n.Direct := by
  simp [Direct, or_imp, forall_and]

theorem direct_ofString (s : String) : Direct (ofString s) := by
  intro c hc
  obtain ⟨ch, -, rfl⟩ := List.mem_map.mp hc
  exact ⟨rfl, rfl⟩

/-- Every cell of a direct markup has a text. -/
theorem Direct.eq_nil {m : Markup} (h : Direct m) (htext : m.text = []) : m = [] := by
  cases m with
  | nil => rfl
  | cons cell m =>
    obtain ⟨hsilent, -⟩ := h cell (by simp)
    cases cell with
    | silent v => exact absurd hsilent (by simp [Cell.isSilent])
    | _ => simp [text, Cell.text] at htext

end Append

/-! ## Soundness -/

/-- After a text that ends in a backslash or not, the places of the markup can be told from its
other characters. -/
def Sound : Bool → Markup → Prop
  | _, [] => True
  | b, .char c :: m => (c = '?' → b = true) ∧ Sound (c == '\\') m
  | b, .value _ :: m => b = false ∧ Sound false m
  | b, .again :: m => b = false ∧ Sound false m
  | b, .silent _ :: m => Sound b m

/-- Does a text end in a backslash when the markup follows it? -/
def exit : Bool → Markup → Bool
  | b, [] => b
  | _, .char c :: m => exit (c == '\\') m
  | _, .value _ :: m => exit false m
  | _, .again :: m => exit false m
  | b, .silent _ :: m => exit b m

theorem sound_append (b : Bool) (m n : Markup) :
    Sound b (m ++ n) ↔ Sound b m ∧ Sound (exit b m) n := by
  induction m generalizing b with
  | nil => simp [Sound, exit]
  | cons c m ih => cases c <;> simp [Sound, exit, ih, and_assoc]

theorem exit_append (b : Bool) (m n : Markup) : exit b (m ++ n) = exit (exit b m) n := by
  induction m generalizing b with
  | nil => rfl
  | cons c m ih => cases c <;> simp [exit, ih]

/-- Text without question marks is sound after any text. -/
theorem sound_ofString {s : String} (h : '?' ∉ s.toList) (b : Bool) : Sound b (ofString s) := by
  have hlist : ∀ cs : List Char, '?' ∉ cs → ∀ b, Sound b (cs.map .char) := by
    intro cs
    induction cs with
    | nil => exact fun _ _ => trivial
    | cons c cs ih =>
      intro hcs b
      rw [List.mem_cons, not_or] at hcs
      exact ⟨fun hc => absurd hc.symm hcs.1, ih hcs.2 _⟩
  exact hlist s.toList h b

/-- What a text without values ends in. -/
theorem exit_ofString (b : Bool) (s : String) :
    exit b (ofString s) = s.toList.getLast?.elim b (· == '\\') := by
  have hlist : ∀ (cs : List Char) (b : Bool),
      exit b (cs.map .char) = cs.getLast?.elim b (· == '\\') := by
    intro cs
    induction cs with
    | nil => exact fun b => rfl
    | cons c cs ih =>
      intro b
      rw [List.map_cons, exit, ih]
      cases cs <;> simp [List.getLast?_cons]
  exact hlist s.toList b

/-! ## Markups without their text or without their values -/

/-- The values of a markup that is not written. -/
def silenced (m : Markup) : Markup :=
  m.bound.map .silent

/-- A markup written once more: its values are bound where they stood first. -/
def repeated (m : Markup) : Markup :=
  m.flatMap fun
    | .char c => [.char c]
    | .value _ | .again => [.again]
    | .silent _ => []

section Elsewhere

variable (m : Markup)

theorem text_silenced : m.silenced.text = [] := by
  simp [silenced, text, List.flatMap_map, Cell.text]

theorem bound_silenced : m.silenced.bound = m.bound := by
  unfold silenced
  generalize m.bound = vs
  induction vs with
  | nil => rfl
  | cons v vs ih => exact congrArg (v :: ·) ih

theorem sound_silenced (b : Bool) : Sound b m.silenced := by
  unfold silenced
  generalize m.bound = vs
  induction vs with
  | nil => trivial
  | cons v vs ih => exact ih

theorem text_repeated : m.repeated.text = m.text := by
  induction m with
  | nil => rfl
  | cons c m ih =>
    change text (_ ++ repeated m) = c.text ++ text m
    rw [text_append, ih]
    cases c <;> rfl

theorem bound_repeated : m.repeated.bound = [] := by
  induction m with
  | nil => rfl
  | cons c m ih =>
    change bound (_ ++ repeated m) = []
    rw [bound_append, ih]
    cases c <;> rfl

theorem sound_repeated {m : Markup} {b : Bool} (h : Sound b m) : Sound b m.repeated := by
  induction m generalizing b with
  | nil => trivial
  | cons c m ih =>
    cases c with
    | char c => exact ⟨h.1, ih h.2⟩
    | value v => exact ⟨h.1, ih h.2⟩
    | again => exact ⟨h.1, ih h.2⟩
    | silent v => exact ih h

/-- A direct markup without values is the same when it is written once more. -/
theorem Direct.repeated_eq {m : Markup} (h : Direct m) (hbound : m.bound = []) :
    m.repeated = m := by
  induction m with
  | nil => rfl
  | cons c m ih =>
    obtain ⟨hc, hm⟩ := List.forall_mem_cons.mp h
    cases c with
    | char c => exact congrArg (Cell.char c :: ·) (ih hm hbound)
    | value v => exact absurd hbound (by simp [bound, Cell.bound])
    | again => exact absurd hc.2 (by simp [Cell.isAgain])
    | silent v => exact absurd hc.1 (by simp [Cell.isSilent])

end Elsewhere

end Markup

/-! ## Places and marks -/

/-- For each character of a token, whether it is the place of a value. -/
def Token.places : Token → List Bool
  | .mark => [true]
  | .escaped => [false, false]
  | .char _ => [false]

/-- For each character of a text, whether it is the place of a value: a question mark that is not
escaped. -/
def markPlaces (cs : List Char) : List Bool :=
  (Token.scan cs).flatMap Token.places

/-- The placeholders that are counted are the places. -/
theorem countMarks_eq (sql : String) : countMarks sql = (markPlaces sql.toList).count true := by
  rw [countMarks, markPlaces]
  induction Token.scan sql.toList with
  | nil => rfl
  | cons t ts ih => cases t <;> simp [Token.places, ih]

/-- Scanning after a backslash goes on with the next character, unless it is a question mark. -/
theorem markPlaces_backslash {c : Char} (h : c ≠ '?') (cs : List Char) :
    markPlaces ('\\' :: c :: cs) = false :: markPlaces (c :: cs) := by
  have hscan : Token.scan ('\\' :: c :: cs) = .char '\\' :: Token.scan (c :: cs) :=
    Token.scan.eq_3 _ _ (by rintro rest - hc; exact h (List.cons.inj hc).1) (by decide)
  rw [markPlaces, hscan]
  rfl

/-- Scanning any other character goes on with the next one. -/
theorem markPlaces_char {c : Char} (hmark : c ≠ '?') (hbackslash : c ≠ '\\') (cs : List Char) :
    markPlaces (c :: cs) = false :: markPlaces cs := by
  have hscan : Token.scan (c :: cs) = .char c :: Token.scan cs :=
    Token.scan.eq_3 _ _ (fun _ hc _ => hbackslash hc) hmark
  rw [markPlaces, hscan]
  rfl

theorem markPlaces_mark (cs : List Char) : markPlaces ('?' :: cs) = true :: markPlaces cs := by
  rw [markPlaces, Token.scan]
  rfl

theorem markPlaces_escaped (cs : List Char) :
    markPlaces ('\\' :: '?' :: cs) = false :: false :: markPlaces cs := by
  rw [markPlaces, Token.scan]
  rfl

namespace Markup

/-- Scanning the text of a sound markup finds its places. -/
theorem markPlaces_text {m : Markup} (h : Sound false m) : markPlaces m.text = m.places := by
  -- A backslash before the text is scanned together with it: it may escape the first character.
  have hscan : ∀ (m : Markup) (b : Bool), Sound b m →
      markPlaces ((if b then ['\\'] else []) ++ text m) =
        (if b then [false] else []) ++ places m := by
    intro m
    induction m with
    | nil => intro b _; cases b <;> rfl
    | cons cell m ih =>
      intro b hsound
      cases cell with
      | char c =>
        obtain ⟨hmark, hrest⟩ := hsound
        by_cases hc : c = '?'
        · -- The backslash before it makes the question mark a character.
          subst hc
          obtain rfl : b = true := hmark rfl
          exact (markPlaces_escaped (text m)).trans
            (congrArg (false :: false :: ·) (ih false hrest))
        · have hplaces : markPlaces (c :: text m) = false :: places m := by
            by_cases hbackslash : c = '\\'
            · subst hbackslash
              exact ih true hrest
            · rw [beq_eq_false_iff_ne.mpr hbackslash] at hrest
              exact (markPlaces_char hc hbackslash (text m)).trans
                (congrArg (false :: ·) (ih false hrest))
          cases b with
          | false => exact hplaces
          | true => exact (markPlaces_backslash hc (text m)).trans (congrArg (false :: ·) hplaces)
      | value v =>
        obtain ⟨rfl, hrest⟩ := hsound
        exact (markPlaces_mark (text m)).trans (congrArg (true :: ·) (ih false hrest))
      | again =>
        obtain ⟨rfl, hrest⟩ := hsound
        exact (markPlaces_mark (text m)).trans (congrArg (true :: ·) (ih false hrest))
      | silent v => exact ih b hsound
  exact hscan m false h

/-- A text without placeholders is a markup without places. -/
theorem markPlaces_of_countMarks {sql : String} (h : countMarks sql = 0) :
    markPlaces sql.toList = (ofString sql).places := by
  have hlength : (markPlaces sql.toList).length = sql.toList.length := by
    have hwritten : ((Token.scan sql.toList).flatMap Token.written).length = sql.toList.length := by
      rw [Token.written_scan]
    rw [← hwritten, markPlaces]
    generalize Token.scan sql.toList = ts
    induction ts with
    | nil => rfl
    | cons t ts ih =>
      rw [List.flatMap_cons, List.flatMap_cons, List.length_append, List.length_append, ih]
      cases t <;> rfl
  have hfalse : ∀ b ∈ markPlaces sql.toList, b = false := by
    intro b hb
    rw [countMarks_eq, List.count_eq_zero] at h
    cases b with
    | false => rfl
    | true => exact absurd hb h
  have hplaces : (ofString sql).places = List.replicate sql.toList.length false := by
    unfold ofString places
    generalize sql.toList = cs
    induction cs with
    | nil => rfl
    | cons c cs ih => exact congrArg (false :: ·) ih
  rw [hplaces, ← hlength]
  exact List.eq_replicate_of_mem hfalse

/-- The ledger: places and silent values on one side, bindings and repeated places on the other. -/
theorem count_places (m : Markup) :
    m.places.count true + m.silentCount = m.bound.length + m.againCount := by
  induction m with
  | nil => rfl
  | cons c m ih =>
    have hplaces : places (c :: m) = c.places ++ places m := rfl
    have hbound : bound (c :: m) = c.bound ++ bound m := rfl
    have hcell : c.places.count true + (if c.isSilent then 1 else 0) =
        c.bound.length + (if c.isAgain then 1 else 0) := by
      cases c <;> rfl
    have hsilent : silentCount (c :: m) = silentCount m + if c.isSilent then 1 else 0 :=
      List.countP_cons
    have hagain : againCount (c :: m) = againCount m + if c.isAgain then 1 else 0 :=
      List.countP_cons
    rw [hplaces, hbound, hsilent, hagain, List.count_append, List.length_append]
    omega

/-- A direct markup has its values in its places: nothing is silent or repeated. -/
theorem Direct.counts {m : Markup} (h : Direct m) : m.silentCount = 0 ∧ m.againCount = 0 := by
  constructor
  · exact List.countP_eq_zero.mpr fun c hc => by simp [(h c hc).1]
  · exact List.countP_eq_zero.mpr fun c hc => by simp [(h c hc).2]

end Markup

end SqlBuilder
