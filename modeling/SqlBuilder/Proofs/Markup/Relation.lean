import Mathlib.Data.List.Forall2
import SqlBuilder.Proofs.Markup.Basic
import SqlBuilder.Proofs.Text.Plain
import SqlBuilder.Render.Emit

/-!
# What a markup spells

The relation between the two ways of rendering.  A renderer gives a text and, on the side, the
bindings for it; its counterpart gives a markup.  `Markup.Spells` says that a markup comes to that
text and those bindings, and `Emit.Renders` lifts such a relation to renderers that may fail.

The laws here are what every renderer is treated with.  Text without question marks may be put
anywhere (`Spells.add`), and another markup after a text that does not end in a backslash
(`SpellsClosed.append`), since there its first place cannot be taken for an escaped question mark.
Renderers are put together as their results are (`Renders.bind`), their bindings following one
another.
-/

namespace SqlBuilder

/-- A value that is bound as it is. -/
def Value.IsScalar : Value → Prop
  | .array _ | .reference _ | .literal _ => False
  | _ => True

/-- Is the error a mismatch between the placeholders and the bindings of a finished statement? -/
def Error.isBindingCount : Error → Bool
  | .bindingCount _ _ => true
  | _ => false

/-- A text without question marks after which a place may follow: it does not end in a backslash. -/
def Divider (s : String) : Prop :=
  Plain s ∧ s.toList.getLast?.any (· != '\\') = true

instance (s : String) : Decidable (Divider s) :=
  inferInstanceAs (Decidable (_ ∧ _))

namespace Markup

/-! ## Texts and bindings -/

/-- The markup comes to the text with the bindings.  When `strict` holds, no value of it is bound
elsewhere than where it is written. -/
structure Spells (strict : Prop) (m : Markup) (s : String) (bs : List Value) : Prop where
  text : m.text = s.toList
  bound : m.bound = bs
  sound : Sound false m
  scalar : ∀ v ∈ bs, v.IsScalar
  empty : s = "" → m = []
  direct : strict → m.Direct

/-- The markup comes to the text with the bindings, and a place may follow it. -/
structure SpellsClosed (strict : Prop) (m : Markup) (s : String) (bs : List Value) : Prop
    extends Spells strict m s bs where
  closed : exit false m = false

variable {strict : Prop} {m n : Markup} {s t : String} {bs cs : List Value}

/-- Nothing is written by nothing. -/
theorem spells_nil : SpellsClosed strict [] "" [] where
  text := rfl
  bound := rfl
  sound := trivial
  scalar := by simp
  empty _ := rfl
  direct _ := by simp [Direct]
  closed := rfl

/-- A text spells itself. -/
theorem spells_text (h : Plain s) : Spells strict (ofString s) s [] where
  text := text_ofString s
  bound := bound_ofString s
  sound := sound_ofString h false
  scalar := by simp
  empty := by rintro rfl; rfl
  direct _ := direct_ofString s

theorem exit_divider (h : Divider s) (b : Bool) : exit b (ofString s) = false := by
  rw [exit_ofString]
  obtain ⟨-, hlast⟩ := h
  cases hs : s.toList.getLast? with
  | none => simp [hs] at hlast
  | some c => simpa [hs] using hlast

theorem spells_divider (h : Divider s) : SpellsClosed strict (ofString s) s [] :=
  { spells_text h.1 with closed := exit_divider h false }

/-- A place for a value. -/
theorem spells_value {v : Value} (h : v.IsScalar) :
    SpellsClosed strict [.value v] "?" [v] where
  text := rfl
  bound := rfl
  sound := ⟨rfl, trivial⟩
  scalar := by simpa using h
  empty hs := absurd hs (by decide)
  direct _ := by simp [Direct, Cell.IsDirect, Cell.isSilent, Cell.isAgain]
  closed := rfl

/-- One markup after another, where a place may follow the first. -/
theorem SpellsClosed.append (h : SpellsClosed strict m s bs) (h' : Spells strict n t cs) :
    Spells strict (m ++ n) (s ++ t) (bs ++ cs) where
  text := by rw [text_append, h.text, h'.text, String.toList_append]
  bound := by rw [bound_append, h.bound, h'.bound]
  sound := by
    rw [sound_append, h.closed]
    exact ⟨h.sound, h'.sound⟩
  scalar v hv := (List.mem_append.mp hv).elim (h.scalar v) (h'.scalar v)
  empty hst := by
    obtain ⟨hs, ht⟩ := String.append_eq_empty_iff.mp hst
    rw [h.empty hs, h'.empty ht, List.append_nil]
  direct hstrict := (direct_append m n).mpr ⟨h.direct hstrict, h'.direct hstrict⟩

theorem SpellsClosed.appendClosed (h : SpellsClosed strict m s bs)
    (h' : SpellsClosed strict n t cs) :
    SpellsClosed strict (m ++ n) (s ++ t) (bs ++ cs) :=
  { h.append h'.toSpells with closed := by rw [exit_append, h.closed, h'.closed] }

/-- Text without question marks may follow any markup. -/
theorem Spells.add (h : Spells strict m s bs) (ht : Plain t) :
    Spells strict (m ++ ofString t) (s ++ t) bs where
  text := by rw [text_append, h.text, text_ofString, String.toList_append]
  bound := by rw [bound_append, h.bound, bound_ofString, List.append_nil]
  sound := (sound_append false m _).mpr ⟨h.sound, sound_ofString ht _⟩
  scalar := h.scalar
  empty hst := by
    obtain ⟨hs, ht⟩ := String.append_eq_empty_iff.mp hst
    rw [h.empty hs, ht]
    rfl
  direct hstrict := (direct_append m _).mpr ⟨h.direct hstrict, direct_ofString t⟩

/-- After a divider a place may follow. -/
theorem Spells.divide (h : Spells strict m s bs) (ht : Divider t) :
    SpellsClosed strict (m ++ ofString t) (s ++ t) bs :=
  { h.add ht.1 with closed := by rw [exit_append, exit_divider ht] }

/-- The markup is empty just when its text is. -/
theorem Spells.isEmpty_eq (h : Spells strict m s bs) : List.isEmpty m = s.isEmpty := by
  rw [Bool.eq_iff_iff, List.isEmpty_iff, String.isEmpty_iff]
  refine ⟨fun hm => ?_, h.empty⟩
  have htext := h.text
  rw [hm, text_nil] at htext
  exact String.toList_eq_nil_iff.mp htext.symm

/-- Values that are bound but not written may follow any markup. -/
theorem Spells.silence (h : Spells strict m s bs) (hs : s ≠ "") (hstrict : strict → cs = [])
    (hn : Spells strict n t cs) : Spells strict (m ++ n.silenced) s (bs ++ cs) where
  text := by rw [text_append, text_silenced, h.text, List.append_nil]
  bound := by rw [bound_append, bound_silenced, h.bound, hn.bound]
  sound := (sound_append false m _).mpr ⟨h.sound, sound_silenced n _⟩
  scalar v hv := (List.mem_append.mp hv).elim (h.scalar v) (hn.scalar v)
  empty hempty := absurd hempty hs
  direct hd := by
    have hbound : n.bound = [] := hn.bound.trans (hstrict hd)
    rw [silenced, hbound, List.map_nil, List.append_nil]
    exact h.direct hd

/-- A text written once more binds nothing. -/
theorem Spells.repeat (h : Spells strict m s bs) (hstrict : strict → bs = []) :
    Spells strict m.repeated s [] where
  text := by rw [text_repeated, h.text]
  bound := bound_repeated m
  sound := sound_repeated h.sound
  scalar := by simp
  empty hs := by rw [h.empty hs]; rfl
  direct hs := by
    have hbound : m.bound = [] := h.bound.trans (hstrict hs)
    rw [(h.direct hs).repeated_eq hbound]
    exact h.direct hs

/-- An empty text has no bindings. -/
theorem Spells.bindings_eq_nil (h : Spells strict m "" bs) : bs = [] := by
  rw [← h.bound, h.empty rfl, bound_nil]

/-- The scan of the text finds the places of the markup. -/
theorem Spells.places_eq (h : Spells strict m s bs) : markPlaces s.toList = m.places := by
  rw [← h.text, markPlaces_text h.sound]

/-- The ledger of a rendered text: the placeholders and the values that are not written on one side,
the bindings and the placeholders for values that are bound elsewhere on the other. -/
theorem Spells.ledger (h : Spells strict m s bs) :
    countMarks s + m.silentCount = bs.length + m.againCount := by
  rw [countMarks_eq, h.places_eq, ← h.bound, count_places]

/-- A text that is strictly written has a placeholder for each binding. -/
theorem Spells.countMarks_eq (h : Spells True m s bs) : countMarks s = bs.length := by
  obtain ⟨hsilent, hagain⟩ := (h.direct trivial).counts
  have hledger := h.ledger
  omega

/-! ## Sequences -/

/-- The markups of a list come to the texts of another, with all bindings. -/
inductive Sequence {α β : Type} (R : β → α → List Value → Prop) :
    List β → List α → List Value → Prop
  | nil : Sequence R [] [] []
  | cons {b : β} {a : α} {bs : List β} {as : List α} {vs ws : List Value} :
      R b a vs → Sequence R bs as ws → Sequence R (b :: bs) (a :: as) (vs ++ ws)

/-- Markups with a text between them. -/
def intercalate (sep : String) : List Markup → Markup
  | [] => []
  | [m] => m
  | m :: n :: ms => m ++ ofString sep ++ intercalate sep (n :: ms)

section Sequences

variable {ms : List Markup} {ss : List String} {sep : String}

theorem Sequence.isEmpty_eq {α β : Type} {R : β → α → List Value → Prop} {ms : List β}
    {ss : List α} (h : Sequence R ms ss bs) : ms.isEmpty = ss.isEmpty := by
  cases h <;> rfl

theorem Sequence.append {α β : Type} {R : β → α → List Value → Prop} {ms ns : List β}
    {ss ts : List α} (h : Sequence R ms ss bs) (h' : Sequence R ns ts cs) :
    Sequence R (ms ++ ns) (ss ++ ts) (bs ++ cs) := by
  induction h with
  | nil => exact h'
  | cons hm _ ih =>
    rw [List.append_assoc]
    exact .cons hm ih

/-- Markups with a divider between them. -/
theorem Sequence.intercalate (h : Sequence (Spells strict) ms ss bs) (hsep : Divider sep) :
    Spells strict (intercalate sep ms) (String.intercalate sep ss) bs := by
  induction h with
  | nil => simpa [Markup.intercalate] using spells_nil.toSpells
  | @cons m s ms ss vs ws hm hms ih =>
    cases hms with
    | nil => simpa [Markup.intercalate] using hm
    | cons hn hns =>
      rw [String.intercalate_cons_cons]
      exact (hm.divide hsep).append ih

theorem Sequence.intercalateClosed (h : Sequence (SpellsClosed strict) ms ss bs)
    (hsep : Divider sep) :
    SpellsClosed strict (Markup.intercalate sep ms) (String.intercalate sep ss) bs := by
  induction h with
  | nil => simpa [Markup.intercalate] using spells_nil
  | @cons m s ms ss vs ws hm hms ih =>
    cases hms with
    | nil => simpa [Markup.intercalate] using hm
    | cons hn hns =>
      rw [String.intercalate_cons_cons]
      exact (hm.toSpells.divide hsep).appendClosed ih

/-- Dropping the empty ones drops no bindings. -/
theorem Sequence.filter {R : Markup → String → List Value → Prop}
    (hR : ∀ {m s bs}, R m s bs → Spells strict m s bs) (h : Sequence R ms ss bs) :
    Sequence R (ms.filter (!List.isEmpty ·)) (ss.filter (!·.isEmpty)) bs := by
  induction h with
  | nil => exact .nil
  | @cons m s ms ss vs ws hm hms ih =>
    rw [List.filter_cons, List.filter_cons, (hR hm).isEmpty_eq]
    cases hs : s.isEmpty with
    | false => exact .cons hm ih
    | true =>
      obtain rfl : s = "" := String.isEmpty_iff.mp hs
      rw [(hR hm).bindings_eq_nil]
      exact ih

theorem Sequence.imp {α β : Type} {R R' : β → α → List Value → Prop} {ms : List β} {ss : List α}
    (hR : ∀ b a vs, R b a vs → R' b a vs) (h : Sequence R ms ss bs) : Sequence R' ms ss bs := by
  induction h with
  | nil => exact .nil
  | cons hm _ ih => exact .cons (hR _ _ _ hm) ih

/-- Sequences of results, one by one. -/
theorem Sequence.map {α β α' β' : Type} {R : β → α → List Value → Prop}
    {R' : β' → α' → List Value → Prop} {ms : List β} {ss : List α} {f : β → β'} {g : α → α'}
    (hR : ∀ b a vs, R b a vs → R' (f b) (g a) vs) (h : Sequence R ms ss bs) :
    Sequence R' (ms.map f) (ss.map g) bs := by
  induction h with
  | nil => exact .nil
  | cons hm _ ih => exact .cons (hR _ _ _ hm) ih

end Sequences

end Markup

/-! ## Renderers -/

namespace Emit

variable {α β α' β' : Type} {R : β → α → List Value → Prop} {R' : β' → α' → List Value → Prop}
  {x : Emit α} {y : Except Error β}

/-- A result with a property, or an error that is no mismatch of placeholders. -/
def Yields (P : α → Prop) : Except Error α → Prop
  | .ok a => P a
  | .error e => e.isBindingCount = false

/-- A renderer and its counterpart come to related results, or to the same error, which is no
mismatch of placeholders. -/
inductive Renders (R : β → α → List Value → Prop) : Except Error β → Emit α → Prop
  | ok {b : β} {a : α} {bs : List Value} : R b a bs → Renders R (.ok b) ⟨bs, .ok a⟩
  | error {e : Error} {bs : List Value} : e.isBindingCount = false →
      Renders R (.error e) ⟨bs, .error e⟩

namespace Renders

theorem pure {b : β} {a : α} (h : R b a []) :
    Renders R (Pure.pure b) (Pure.pure a) :=
  .ok h

theorem fail {e : Error} (h : e.isBindingCount = false) :
    Renders R (.error e) (Emit.fail e) :=
  .error h

/-- A result that both take from elsewhere. -/
theorem ofExcept {P : α → Prop} {z : Except Error α} (h : Yields P z) :
    Renders (fun b a bs => b = a ∧ P a ∧ bs = []) z (Emit.ofExcept z) := by
  cases z with
  | ok a => exact .ok ⟨rfl, h, rfl⟩
  | error e => exact .error h

/-- A text without question marks that both take from elsewhere. -/
theorem ofPlain {strict : Prop} {z : Except Error String} (h : Yields Plain z) :
    Renders (Markup.Spells strict) (do let s ← z; return (s : Markup)) (Emit.ofExcept z) := by
  cases z with
  | ok s => exact .ok (Markup.spells_text h)
  | error e => exact .error h

/-- What is known when the renderer succeeds. -/
theorem of_ok (h : Renders R y x) {a : α} (ha : x.outcome = .ok a) :
    ∃ b, y = .ok b ∧ R b a x.bindings := by
  cases h with
  | @ok b a' bs hR =>
    obtain rfl : a' = a := Except.ok.inj ha
    exact ⟨b, rfl, hR⟩
  | error he => exact nomatch ha

/-- What is known when the renderer fails. -/
theorem of_error (h : Renders R y x) {e : Error} (he : x.outcome = .error e) :
    y = .error e ∧ e.isBindingCount = false := by
  cases h with
  | ok hR => exact nomatch he
  | @error e' bs hcount =>
    obtain rfl : e' = e := Except.error.inj he
    exact ⟨rfl, hcount⟩

/-- One renderer after another: the second is related to its counterpart with the bindings of the
first before its own. -/
theorem bind {f : α → Emit α'} {g : β → Except Error β'} (h : Renders R y x)
    (hf : ∀ b a bs, R b a bs → Renders (fun b' a' cs => R' b' a' (bs ++ cs)) (g b) (f a)) :
    Renders R' (y >>= g) (x >>= f) := by
  cases h with
  | error hcount =>
    rw [bind_of_error rfl]
    exact .error hcount
  | @ok b a bs hR =>
    rw [bind_of_ok rfl]
    change Renders R' (g b) ⟨bs ++ (f a).bindings, (f a).outcome⟩
    have hcont := hf b a bs hR
    generalize g b = y' at hcont
    generalize f a = x' at hcont
    cases hcont with
    | ok hR' => exact .ok hR'
    | error hcount => exact .error hcount

/-- A renderer whose result is put into something else. -/
theorem map {f : α → α'} {g : β → β'} (h : Renders R y x)
    (hf : ∀ b a bs, R b a bs → R' (g b) (f a) bs) :
    Renders R' (do return g (← y)) (do return f (← x)) :=
  bind h fun b a bs hR => pure (by simpa only [List.append_nil] using hf b a bs hR)

theorem mono {R' : β → α → List Value → Prop} (h : Renders R y x)
    (hR : ∀ b a bs, R b a bs → R' b a bs) : Renders R' y x := by
  cases h with
  | ok hb => exact .ok (hR _ _ _ hb)
  | error hcount => exact .error hcount

/-- Both sides branch on the same condition. -/
theorem ite {c : Prop} [Decidable c] {x' : Emit α} {y' : Except Error β} (h : c → Renders R y x)
    (h' : ¬ c → Renders R y' x') : Renders R (if c then y else y') (if c then x else x') := by
  by_cases hc : c
  · rw [if_pos hc, if_pos hc]
    exact h hc
  · rw [if_neg hc, if_neg hc]
    exact h' hc

/-- The bindings that are related are those of the renderer. -/
theorem self (h : Renders R y x) : Renders (fun b a bs => R b a bs ∧ bs = x.bindings) y x := by
  cases h with
  | ok hb => exact .ok ⟨hb, rfl⟩
  | error hcount => exact .error hcount

/-- A renderer whose bindings are taken out. -/
theorem capture (h : Renders R y x) :
    Renders (fun b (a : α × List Value) bs => R b a.1 a.2 ∧ bs = []) y x.capture := by
  cases h with
  | ok hb => exact .ok ⟨hb, rfl⟩
  | error hcount => exact .error hcount

/-- Rendering the elements of two lists, one by one. -/
theorem mapM_forall₂ {δ ε : Type} {f : δ → Except Error β} {g : ε → Emit α} {ys : List δ}
    {zs : List ε} (h : List.Forall₂ (fun y z => Renders R (f y) (g z)) ys zs) :
    Renders (Markup.Sequence R) (ys.mapM f) (zs.mapM g) := by
  induction h with
  | nil => exact pure .nil
  | cons hyz _ ih =>
    rw [List.mapM_cons, List.mapM_cons]
    refine bind hyz fun b a vs hb => ?_
    refine map ih fun bs as ws hbs => ?_
    exact .cons hb hbs

/-- Rendering the elements of a list, which both come from one list. -/
theorem mapM {γ δ ε : Type} {p : γ → δ} {q : γ → ε} {f : δ → Except Error β} {g : ε → Emit α}
    (xs : List γ) (h : ∀ x ∈ xs, Renders R (f (p x)) (g (q x))) :
    Renders (Markup.Sequence R) ((xs.map p).mapM f) ((xs.map q).mapM g) := by
  refine mapM_forall₂ ?_
  rw [List.forall₂_map_left_iff, List.forall₂_map_right_iff, List.forall₂_same]
  exact h

/-- Rendering the elements of one list. -/
theorem mapM_same {γ : Type} {f : γ → Except Error β} {g : γ → Emit α} {xs : List γ}
    (h : ∀ x ∈ xs, Renders R (f x) (g x)) :
    Renders (Markup.Sequence R) (xs.mapM f) (xs.mapM g) :=
  mapM_forall₂ (List.forall₂_same.mpr h)

/-- There is one result for each element. -/
theorem mapM_length {γ : Type} {f : γ → Except Error β} {g : γ → Emit α} {xs : List γ}
    (h : ∀ x ∈ xs, Renders R (f x) (g x)) :
    Renders (fun bs as vs => Markup.Sequence R bs as vs ∧ as.length = xs.length) (xs.mapM f)
      (xs.mapM g) := by
  induction xs with
  | nil => exact pure ⟨.nil, rfl⟩
  | cons x xs ih =>
    obtain ⟨hx, hxs⟩ := List.forall_mem_cons.mp h
    rw [List.mapM_cons, List.mapM_cons]
    refine bind hx fun b a vs hb => ?_
    refine map (ih hxs) fun bs as ws hbs => ?_
    exact ⟨.cons hb hbs.1, congrArg (· + 1) hbs.2⟩

/-- A bound value. -/
theorem bound {strict : Prop} {v : Value} (h : v.IsScalar) :
    Renders (Markup.SpellsClosed strict) (Pure.pure [.value v])
      (do Emit.bound v; Pure.pure "?") :=
  .ok (Markup.spells_value h)

end Renders

end Emit

end SqlBuilder
