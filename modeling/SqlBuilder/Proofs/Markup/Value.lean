import SqlBuilder.Proofs.Markup.Relation
import SqlBuilder.Proofs.Markup.Unmarked

/-!
# Values and raw SQL as markup

The counterparts of `Env.placeholder` and `Env.raw`: a value that is bound stands in the markup where
the renderer writes its `?`.  Values come out closed, since unmarked literals do not end in a
backslash, so that whatever follows a value in a statement cannot be escaped by it.

Raw SQL is cut into tokens, and a mark among them never comes right after a backslash
(`Token.soundFrom_scan`); this is what makes a filled fragment sound.  Its text may itself be raw
SQL again: `Env.raw_spelled` renders the text of a markup with its bindings, and finds the values
where they were (`Markup.wrapMarkers`).
-/

namespace SqlBuilder

open Markup

/-! ## Values -/

/-- The markups of a list that are not empty, separated by commas. -/
def Markup.commaList (parts : List Markup) : Markup :=
  Markup.intercalate ", " (parts.filter (!List.isEmpty ·))

namespace Env

mutual

/-- A value as markup; `expand` writes the variables in it. -/
def valueMarkupWith (expand : String → Except Error Markup) : Value → Except Error Markup
  | .literal sql => return sql
  | .reference name => expand name
  | .array items => do
    let parts ← valueMarkupsWith expand items
    return Markup.commaList parts
  | v => return [.value v]

/-- The values of a list as markups. -/
def valueMarkupsWith (expand : String → Except Error Markup) :
    List Value → Except Error (List Markup)
  | [] => return []
  | v :: vs => do
    let part ← valueMarkupWith expand v
    let parts ← valueMarkupsWith expand vs
    return part :: parts

end

/-- What a variable stands for, as markup.  `resolving` holds the variables being replaced, and
`left` bounds how many more there can be. -/
def referenceMarkup (env : Env) : Nat → List String → String → Except Error Markup
  | left, resolving, name =>
    if name ∈ resolving then
      .error (.variableCycle name)
    else
      match env.resolve name, left with
      | .error e, _ => .error e
      | .ok _, 0 => .error (.variableCycle name)
      | .ok v, left + 1 => valueMarkupWith (env.referenceMarkup left (name :: resolving)) v

/-- A value as markup. -/
def valueMarkup (env : Env) (v : Value) : Except Error Markup :=
  valueMarkupWith (env.referenceMarkup env.names.length []) v

/-- The values of a list as markup, separated by commas. -/
def valueMarkups (env : Env) (vs : List Value) : Except Error Markup := do
  let parts ← vs.mapM env.valueMarkup
  return Markup.commaList parts

/-! ## Raw SQL -/

/-- Raw SQL with its values in the places of its placeholders. -/
def fillMarkup (env : Env) : List Value → List Token → Except Error Markup
  | v :: vs, .mark :: ts => do
    let p ← env.valueMarkup v
    let rest ← env.fillMarkup vs ts
    return p ++ rest
  | vs, t :: ts => do
    let rest ← env.fillMarkup vs ts
    return t.written.map .char ++ rest
  | _, [] => return []

/-- Raw SQL as markup; it must have a placeholder for each of its values. -/
def rawMarkup (d : Dialect) (env : Env) (f : Fragment) : Except Error Markup :=
  let wrapped := d.wrapMarkers f.expression
  let count := countMarks wrapped
  if count = f.bindings.length then
    env.fillMarkup f.bindings (Token.scan wrapped.toList)
  else
    .error (.rawBindingCount f.expression count f.bindings.length)

end Env

/-! ## Rendering values -/

variable {strict : Prop} {env : Env}

/-- The parts of a list that are not empty, separated by commas. -/
theorem Markup.Sequence.commaList {ms : List Markup} {ss : List String} {bs : List Value}
    (h : Sequence (SpellsClosed strict) ms ss bs) :
    SpellsClosed strict (Markup.commaList ms) (Env.commaList ss) bs :=
  (h.filter (·.toSpells)).intercalateClosed (by decide)

/-- An unmarked literal is written as it is, and a place may follow it. -/
theorem Markup.spells_literal {sql : String} (h : (Value.literal sql).Unmarked) :
    SpellsClosed strict (ofString sql) sql [] := by
  obtain ⟨hplain, hlast⟩ := h
  refine { spells_text hplain with closed := ?_ }
  rw [exit_ofString]
  cases hsql : sql.toList.getLast? with
  | none => rfl
  | some c =>
    rw [hsql] at hlast
    exact beq_eq_false_iff_ne.mpr fun hc => hlast (congrArg some hc)

namespace Env

section Values

variable {expand : String → Emit String} {expand' : String → Except Error Markup}

mutual

theorem placeholderWith_renders
    (hexpand : ∀ name, Emit.Renders (SpellsClosed strict) (expand' name) (expand name)) :
    ∀ v : Value, v.Unmarked →
    Emit.Renders (SpellsClosed strict) (valueMarkupWith expand' v) (placeholderWith expand v)
  | .literal sql, h => by
    rw [valueMarkupWith, placeholderWith]
    exact .pure (Markup.spells_literal h)
  | .reference name, _ => by
    rw [valueMarkupWith, placeholderWith]
    exact hexpand name
  | .array items, h => by
    rw [Value.Unmarked] at h
    rw [valueMarkupWith, placeholderWith]
    exact .map (placeholdersWith_renders hexpand items h) fun _ _ _ hparts => hparts.commaList
  | .null, _ | .bool _, _ | .int _, _ | .float _, _ | .decimal _, _ | .text _, _ | .uuid _, _
  | .date _, _ | .time _, _ | .timestamp _, _ | .timestampUtc _, _ | .bytes _, _ | .json _, _ => by
    rw [valueMarkupWith, placeholderWith] <;> first | exact .bound trivial | simp

theorem placeholdersWith_renders
    (hexpand : ∀ name, Emit.Renders (SpellsClosed strict) (expand' name) (expand name)) :
    ∀ vs : List Value, Value.AllUnmarked vs →
    Emit.Renders (Sequence (SpellsClosed strict)) (valueMarkupsWith expand' vs)
      (placeholdersWith expand vs)
  | [], _ => by
    rw [valueMarkupsWith, placeholdersWith]
    exact .pure .nil
  | v :: vs, h => by
    rw [Value.AllUnmarked] at h
    rw [valueMarkupsWith, placeholdersWith]
    refine .bind (placeholderWith_renders hexpand v h.1) fun m s bs hm => ?_
    exact .map (placeholdersWith_renders hexpand vs h.2) fun _ _ _ hms => .cons hm hms

end

end Values

theorem isBindingCount_of_resolve {name : String} {e : Error} (h : env.resolve name = .error e) :
    e.isBindingCount = false := by
  rw [resolve] at h
  split at h
  · simp at h
  · obtain rfl := Except.error.inj h
    rfl

/-- What a variable stands for is written with its values in place. -/
theorem expandReference_renders (henv : env.Unmarked) (left : Nat) (resolving : List String)
    (name : String) :
    Emit.Renders (SpellsClosed strict) (env.referenceMarkup left resolving name)
      (env.expandReference left resolving name) := by
  induction left generalizing resolving name with
  | zero =>
    unfold referenceMarkup expandReference
    by_cases hmem : name ∈ resolving
    · rw [if_pos hmem, if_pos hmem]
      exact .fail rfl
    · rw [if_neg hmem, if_neg hmem]
      cases hname : env.resolve name with
      | error e => exact .fail (isBindingCount_of_resolve hname)
      | ok v => exact .fail rfl
  | succ left ih =>
    unfold referenceMarkup expandReference
    by_cases hmem : name ∈ resolving
    · rw [if_pos hmem, if_pos hmem]
      exact .fail rfl
    · rw [if_neg hmem, if_neg hmem]
      cases hname : env.resolve name with
      | error e => exact .fail (isBindingCount_of_resolve hname)
      | ok v => exact placeholderWith_renders (ih (name :: resolving)) v (henv.resolve hname)

theorem placeholder_renders (strict : Prop) (henv : env.Unmarked) {v : Value} (hv : v.Unmarked) :
    Emit.Renders (SpellsClosed strict) (env.valueMarkup v) (env.placeholder v) :=
  placeholderWith_renders (expandReference_renders henv _ _) v hv

/-- A value that is bound as it is. -/
theorem placeholder_scalar {v : Value} (h : v.IsScalar) :
    env.placeholder v = ⟨[v], .ok "?"⟩ := by
  cases v <;> first | exact h.elim | (rw [placeholder, placeholderWith] <;> first | rfl | simp)

theorem placeholders_renders (strict : Prop) (henv : env.Unmarked) {vs : List Value}
    (hvs : ∀ v ∈ vs, v.Unmarked) :
    Emit.Renders (SpellsClosed strict) (env.valueMarkups vs) (env.placeholders vs) := by
  have hparts : Emit.Renders (Sequence (SpellsClosed strict)) (vs.mapM env.valueMarkup)
      (vs.mapM env.placeholder) :=
    .mapM_same fun v hv => placeholder_renders strict henv (hvs v hv)
  exact .map hparts fun _ _ _ hparts => hparts.commaList

/-- Following a variable gives an unmarked value. -/
theorem resolveValue_unmarked (henv : env.Unmarked) {v : Value} (hv : v.Unmarked) :
    Emit.Yields Value.Unmarked (env.resolveValue v) := by
  have hfollow : ∀ (left : Nat) (seen : List String) (v : Value), v.Unmarked →
      Emit.Yields Value.Unmarked (env.follow left seen v) := by
    intro left
    induction left with
    | zero =>
      intro seen v hv
      cases v with
      | reference name =>
        unfold follow
        split
        · exact rfl
        · cases hname : env.resolve name with
          | error e => exact isBindingCount_of_resolve hname
          | ok v => exact rfl
      | _ => exact hv
    | succ left ih =>
      intro seen v hv
      cases v with
      | reference name =>
        unfold follow
        split
        · exact rfl
        · cases hname : env.resolve name with
          | error e => exact isBindingCount_of_resolve hname
          | ok v => exact ih (name :: seen) v (henv.resolve hname)
      | _ => exact hv
  exact hfollow _ _ v hv

/-! ## Rendering raw SQL -/

end Env

/-- After a text that ends in a backslash or not, none of the marks is escaped, and no other
character is a question mark. -/
def Token.SoundFrom : Bool → List Token → Prop
  | _, [] => True
  | b, .mark :: ts => b = false ∧ SoundFrom false ts
  | _, .escaped :: ts => SoundFrom false ts
  | _, .char c :: ts => c ≠ '?' ∧ SoundFrom (c == '\\') ts

/-- Scanning finds every mark. -/
theorem Token.soundFrom_scan (cs : List Char) (b : Bool) (h : b = true → cs.head? ≠ some '?') :
    SoundFrom b (scan cs) := by
  fun_induction scan cs generalizing b with
  | case1 cs ih => exact ih false (by simp)
  | case2 cs ih =>
    refine ⟨?_, ih false (by simp)⟩
    cases b with
    | false => rfl
    | true => exact absurd rfl (h rfl)
  | case3 c cs hescaped hmark ih =>
    refine ⟨fun hc => hmark hc, ih _ ?_⟩
    intro hc hhead
    obtain ⟨rest, rfl⟩ := List.head?_eq_some_iff.mp hhead
    exact hescaped rest (beq_iff_eq.mp hc) rfl
  | case4 => trivial

namespace Markup

/-- A markup that goes on after a text: it comes to the characters with the bindings, and has all
its values in place. -/
structure Continues (b : Bool) (m : Markup) (cs : List Char) (bs : List Value) : Prop where
  text : m.text = cs
  bound : m.bound = bs
  sound : Sound b m
  scalar : ∀ v ∈ bs, v.IsScalar
  empty : cs = [] → m = []
  direct : m.Direct

theorem Continues.spells {strict : Prop} {m : Markup} {cs : List Char} {bs : List Value}
    (h : Continues false m cs bs) : Spells strict m (String.ofList cs) bs where
  text := by rw [h.text, String.toList_ofList]
  bound := h.bound
  sound := h.sound
  scalar := h.scalar
  empty hs := h.empty (String.ofList_eq_empty_iff.mp hs)
  direct _ := h.direct

end Markup

namespace Env

variable {env : Env}

theorem fillMarkup_cons {t : Token} (ht : t ≠ .mark) (vs : List Value) (ts : List Token) :
    env.fillMarkup vs (t :: ts) =
      (do let rest ← env.fillMarkup vs ts; return t.written.map .char ++ rest) := by
  cases t with
  | mark => exact absurd rfl ht
  | escaped => cases vs <;> rw [fillMarkup] <;> simp
  | char c => cases vs <;> rw [fillMarkup] <;> simp

theorem fillValues_cons {t : Token} (ht : t ≠ .mark) (vs : List Value) (ts : List Token) :
    env.fillValues vs (t :: ts) =
      (do let rest ← env.fillValues vs ts; return t.written ++ rest) := by
  cases t with
  | mark => exact absurd rfl ht
  | escaped => cases vs <;> rw [fillValues] <;> simp
  | char c => cases vs <;> rw [fillValues] <;> simp

/-- Filling the tokens of a raw text, as many marks as there are values. -/
theorem fillValues_renders (henv : env.Unmarked) {vs : List Value} {ts : List Token}
    (hvs : ∀ v ∈ vs, v.Unmarked) {b : Bool} (hts : Token.SoundFrom b ts)
    (hcount : ts.count .mark = vs.length) :
    Emit.Renders (Continues b) (env.fillMarkup vs ts) (env.fillValues vs ts) := by
  induction ts generalizing vs b with
  | nil =>
    have hnil : Emit.Renders (Continues b) (pure []) (pure []) :=
      .pure ⟨rfl, rfl, trivial, by simp, fun _ => rfl, by simp [Direct]⟩
    cases vs <;> exact hnil
  | cons t ts ih =>
    cases t with
    | mark =>
      obtain ⟨rfl, hts⟩ := hts
      cases vs with
      | nil => simp at hcount
      | cons v vs =>
        rw [List.count_cons_self, List.length_cons, Nat.add_right_cancel_iff] at hcount
        rw [fillMarkup, fillValues]
        refine .bind (placeholder_renders True henv (hvs v (by simp)))
          fun m s bs hm => ?_
        refine .map (ih (fun w hw => hvs w (by simp [hw])) hts hcount) fun n cs ws hn => ?_
        exact
          { text := by rw [text_append, hm.text, hn.text]
            bound := by rw [bound_append, hm.bound, hn.bound]
            sound := by
              rw [sound_append, hm.closed]
              exact ⟨hm.sound, hn.sound⟩
            scalar := fun w hw => (List.mem_append.mp hw).elim (hm.scalar w) (hn.scalar w)
            empty := fun h => by
              obtain ⟨hs, hcs⟩ := List.append_eq_nil_iff.mp h
              rw [hm.empty (String.toList_eq_nil_iff.mp hs), hn.empty hcs, List.append_nil]
            direct := (direct_append m n).mpr ⟨hm.direct trivial, hn.direct⟩ }
    | escaped =>
      rw [List.count_cons_of_ne (by decide)] at hcount
      rw [fillMarkup_cons (by decide), fillValues_cons (by decide)]
      refine .map (ih hvs hts hcount) fun m cs bs hm => ?_
      exact
        { text := congrArg ('\\' :: '?' :: ·) hm.text
          bound := hm.bound
          sound := ⟨fun h => absurd h (by decide), fun _ => rfl, hm.sound⟩
          scalar := hm.scalar
          empty := fun h => absurd h (List.cons_ne_nil _ _)
          direct := (direct_append _ m).mpr ⟨by simp [Direct, Token.written, Cell.IsDirect,
            Cell.isSilent, Cell.isAgain], hm.direct⟩ }
    | char c =>
      rw [List.count_cons_of_ne (by simp)] at hcount
      rw [fillMarkup_cons (by simp), fillValues_cons (by simp)]
      obtain ⟨hc, hts⟩ := hts
      refine .map (ih hvs hts hcount) fun m cs bs hm => ?_
      exact
        { text := congrArg (c :: ·) hm.text
          bound := hm.bound
          sound := ⟨fun h => absurd h hc, hm.sound⟩
          scalar := hm.scalar
          empty := fun h => absurd h (List.cons_ne_nil _ _)
          direct := (direct_append _ m).mpr ⟨by simp [Direct, Token.written, Cell.IsDirect,
            Cell.isSilent, Cell.isAgain], hm.direct⟩ }

/-- Raw SQL is written with its values in the places of its placeholders. -/
theorem raw_renders (strict : Prop) (henv : env.Unmarked) (d : Dialect) (f : Fragment)
    (hf : f.Unmarked) :
    Emit.Renders (Spells strict) (env.rawMarkup d f) (env.raw d f) := by
  rw [rawMarkup, raw]
  split
  case isTrue hcount =>
    have hscan := Token.soundFrom_scan (d.wrapMarkers f.expression).toList false (by simp)
    have hfill := fillValues_renders henv hf hscan hcount
    rw [← bind_pure (env.fillMarkup f.bindings _)]
    exact .map hfill fun m cs bs hm => hm.spells
  case isFalse => exact .fail rfl

end Env

end SqlBuilder
