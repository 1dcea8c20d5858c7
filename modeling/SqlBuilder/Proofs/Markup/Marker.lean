import SqlBuilder.Proofs.Markup.Value

/-!
# Rendered text as raw SQL

The markers of raw SQL are turned into quotes character by character (`wrapMarkersList_cons`), and
so part by part (`wrapMarkersList_append`), as long as no backslash at the end of a part belongs to
a marker that the next one begins with.

The row numbers of the older paging put a rendered ORDER BY into a raw column, together with its
bindings, so that a text is read as raw SQL that has been rendered already.  Turning its markers into
quotes once more moves no value: `Markup.wrapMarkers` does the same to a markup, and
`Env.raw_spelled` says that the text of a markup, read as raw SQL with the bindings of the markup, is
rendered to that.
-/

namespace SqlBuilder

open Dialect

/-! ## Markers -/

namespace Dialect

variable {d : Dialect}

/-- Is the character a marker around names? -/
def isMarker (c : Char) : Bool :=
  opensMarker c || closesMarker c

/-- Markers are neither question marks nor backslashes. -/
theorem ne_of_isMarker {c : Char} (h : isMarker c) : c ≠ '?' ∧ c ≠ '\\' := by
  have hc : (c = '{' ∨ c = '[') ∨ (c = '}' ∨ c = ']') := by
    simpa [isMarker, opensMarker, closesMarker] using h
  rcases hc with (rfl | rfl) | rfl | rfl <;> decide

/-- A character is turned by itself unless a backslash stands before a marker. -/
theorem wrapMarkersList_cons {c : Char} {cs : List Char}
    (h : c = '\\' → ∀ c' ∈ cs.head?, isMarker c' = false) :
    d.wrapMarkersList (c :: cs) =
      (if opensMarker c then d.quotes.1 else if closesMarker c then d.quotes.2 else c) ::
        d.wrapMarkersList cs := by
  by_cases hc : c = '\\'
  · subst hc
    cases cs with
    | nil => rfl
    | cons c' cs =>
      have hc' : ¬(opensMarker c' || closesMarker c') = true := Bool.eq_false_iff.mp (h rfl c' rfl)
      rw [wrapMarkersList, if_neg hc']
      rfl
  · exact wrapMarkersList.eq_3 d c cs fun _ _ hbackslash _ => hc hbackslash

/-- Texts are turned one after the other, unless a backslash comes before a marker. -/
theorem wrapMarkersList_append {cs cs' : List Char}
    (h : cs.getLast? = some '\\' → ∀ c ∈ cs'.head?, isMarker c = false) :
    d.wrapMarkersList (cs ++ cs') = d.wrapMarkersList cs ++ d.wrapMarkersList cs' := by
  have hlast : ∀ {c : Char} {cs : List Char}, cs.getLast? = some '\\' →
      (c :: cs).getLast? = some '\\' := by
    intro c cs hcs
    rw [List.getLast?_cons, hcs, Option.getD_some]
  fun_induction wrapMarkersList d cs with
  | case1 => rfl
  | case2 c cs hc ih =>
    change d.wrapMarkersList ('\\' :: c :: (cs ++ cs')) = _
    rw [wrapMarkersList, if_pos hc, ih fun hcs => h (hlast (hlast hcs))]
    rfl
  | case3 c cs hc ih =>
    change d.wrapMarkersList ('\\' :: c :: (cs ++ cs')) = _
    rw [wrapMarkersList, if_neg hc]
    exact congrArg _ (ih fun hcs => h (hlast hcs))
  | case4 c cs hc ih =>
    rw [List.cons_append, wrapMarkersList_cons, ih fun hcs => h (hlast hcs)]
    · rfl
    · rintro rfl c' hc'
      cases cs with
      | nil => exact h rfl c' hc'
      | cons c'' cs => exact (hc c'' cs rfl rfl).elim

end Dialect

/-! ## Markups -/

namespace Markup

variable {d : Dialect} {m : Markup}

/-- Turns the markers in the text into quotes; values stay in their places. -/
def wrapMarkers (d : Dialect) : Markup → Markup
  | [] => []
  | .char '\\' :: .char c :: m =>
    if opensMarker c || closesMarker c then
      .char c :: wrapMarkers d m
    else
      .char '\\' :: wrapMarkers d (.char c :: m)
  | .char c :: m =>
    .char (if opensMarker c then d.quotes.1 else if closesMarker c then d.quotes.2 else c) ::
      wrapMarkers d m
  | cell :: m => cell :: wrapMarkers d m

theorem bound_wrapMarkers : (wrapMarkers d m).bound = m.bound := by
  fun_induction wrapMarkers d m with
  | case1 => rfl
  | case2 c m h ih => exact ih
  | case3 c m h ih => exact ih
  | case4 c m h ih => exact ih
  | case5 cell m h h' ih =>
    change cell.bound ++ bound (wrapMarkers d m) = cell.bound ++ bound m
    rw [ih]

theorem direct_wrapMarkers (h : Direct m) : (wrapMarkers d m).Direct := by
  have hchar : ∀ (c : Char) (n : Markup), Direct n → Direct (.char c :: n) := fun c n hn =>
    List.forall_mem_cons.mpr ⟨⟨rfl, rfl⟩, hn⟩
  fun_induction wrapMarkers d m with
  | case1 => exact h
  | case2 c m hc ih =>
    exact hchar _ _ (ih (List.forall_mem_cons.mp (List.forall_mem_cons.mp h).2).2)
  | case3 c m hc ih => exact hchar _ _ (ih (List.forall_mem_cons.mp h).2)
  | case4 c m hc ih => exact hchar _ _ (ih (List.forall_mem_cons.mp h).2)
  | case5 cell m hc hc' ih =>
    obtain ⟨hcell, hm⟩ := List.forall_mem_cons.mp h
    exact List.forall_mem_cons.mpr ⟨hcell, ih hm⟩

/-- What stands for a character that may be a marker is no question mark and no backslash, unless
the character is. -/
theorem wrapped_char (d : Dialect) (c : Char) :
    let c' := if opensMarker c then d.quotes.1 else if closesMarker c then d.quotes.2 else c
    (c' = '?' ↔ c = '?') ∧ (c' == '\\') = (c == '\\') := by
  obtain ⟨hopen, hclose, hopen', hclose'⟩ := d.quotes_unmarked
  dsimp only
  split
  case isTrue h =>
    have hne : c ≠ '?' ∧ c ≠ '\\' := ne_of_isMarker (by rw [isMarker, h, Bool.true_or])
    refine ⟨by simp [hopen, hne.1], ?_⟩
    rw [beq_eq_false_iff_ne.mpr hopen', beq_eq_false_iff_ne.mpr hne.2]
  case isFalse =>
    split
    case isTrue h =>
      have hne : c ≠ '?' ∧ c ≠ '\\' := ne_of_isMarker (by rw [isMarker, h, Bool.or_true])
      refine ⟨by simp [hclose, hne.1], ?_⟩
      rw [beq_eq_false_iff_ne.mpr hclose', beq_eq_false_iff_ne.mpr hne.2]
    case isFalse => simp

theorem sound_wrapMarkers {b : Bool} (h : Sound b m) : Sound b (wrapMarkers d m) := by
  fun_induction wrapMarkers d m generalizing b with
  | case1 => trivial
  | case2 c m hc ih =>
    obtain ⟨-, -, hm⟩ := h
    have hne : c ≠ '?' ∧ c ≠ '\\' := ne_of_isMarker hc
    rw [beq_eq_false_iff_ne.mpr hne.2] at hm
    refine ⟨fun h => absurd h hne.1, ?_⟩
    rw [beq_eq_false_iff_ne.mpr hne.2]
    exact ih hm
  | case3 c m hc ih => exact ⟨h.1, ih h.2⟩
  | case4 c m hc ih =>
    obtain ⟨hmark, hbackslash⟩ := wrapped_char d c
    refine ⟨fun hc => h.1 (hmark.mp hc), ?_⟩
    rw [hbackslash]
    exact ih h.2
  | case5 cell m hc hc' ih =>
    cases cell with
    | char c => exact absurd rfl (hc' c)
    | value v => exact ⟨h.1, ih h.2⟩
    | again => exact ⟨h.1, ih h.2⟩
    | silent v => exact ih h

/-- The text of the markup is turned as raw SQL is. -/
theorem text_wrapMarkers (h : Direct m) : (wrapMarkers d m).text = d.wrapMarkersList m.text := by
  fun_induction wrapMarkers d m with
  | case1 => rfl
  | case2 c m hc ih =>
    have hm : Direct m := (List.forall_mem_cons.mp (List.forall_mem_cons.mp h).2).2
    change c :: text (wrapMarkers d m) = d.wrapMarkersList ('\\' :: c :: text m)
    rw [wrapMarkersList, if_pos hc, ih hm]
  | case3 c m hc ih =>
    have hm : Direct (.char c :: m) := (List.forall_mem_cons.mp h).2
    change '\\' :: text (wrapMarkers d (.char c :: m)) = d.wrapMarkersList ('\\' :: c :: text m)
    rw [wrapMarkersList, if_neg hc, ih hm]
    rfl
  | case4 c m hc ih =>
    obtain ⟨-, hm⟩ := List.forall_mem_cons.mp h
    change _ :: text (wrapMarkers d m) = d.wrapMarkersList (c :: text m)
    rw [wrapMarkersList_cons, ih hm]
    -- After a backslash comes no character of its own, so that the text goes on with a place.
    intro hbackslash c' hc'
    cases m with
    | nil => simp at hc'
    | cons cell m =>
      have hcell : cell.IsDirect := (List.forall_mem_cons.mp hm).1
      cases cell with
      | char c'' => exact (hc c'' m rfl hbackslash).elim
      | value v =>
        obtain rfl : '?' = c' := Option.some.inj hc'
        rfl
      | again => exact absurd hcell.2 (by simp [Cell.isAgain])
      | silent v => exact absurd hcell.1 (by simp [Cell.isSilent])
  | case5 cell m hc hc' ih =>
    obtain ⟨hcell, hm⟩ := List.forall_mem_cons.mp h
    cases cell with
    | char c => exact absurd rfl (hc' c)
    | value v =>
      change '?' :: text (wrapMarkers d m) = d.wrapMarkersList ('?' :: text m)
      rw [wrapMarkersList_cons (fun h => absurd h (by decide)), ih hm]
      rfl
    | again => exact absurd hcell.2 (by simp [Cell.isAgain])
    | silent v => exact absurd hcell.1 (by simp [Cell.isSilent])

end Markup

/-! ## Rendering the text once more -/

namespace Env

open Markup

variable {env : Env}

/-- Values that are bound as they are come out as they went in. -/
theorem fillValues_scalars {vs : List Value} {ts : List Token} (hvs : ∀ v ∈ vs, v.IsScalar)
    (hcount : ts.count .mark = vs.length) :
    env.fillValues vs ts = ⟨vs, .ok (ts.flatMap Token.written)⟩ := by
  induction ts generalizing vs with
  | nil =>
    obtain rfl : vs = [] := List.length_eq_zero_iff.mp hcount.symm
    rfl
  | cons t ts ih =>
    cases t with
    | mark =>
      cases vs with
      | nil => simp at hcount
      | cons v vs =>
        rw [List.count_cons_self, List.length_cons, Nat.add_right_cancel_iff] at hcount
        rw [fillValues, placeholder_scalar (hvs v (by simp)),
          ih (fun w hw => hvs w (by simp [hw])) hcount]
        simp [Emit.bind_of_ok, Token.written]
    | escaped =>
      rw [List.count_cons_of_ne (by decide)] at hcount
      rw [fillValues_cons (by decide), ih hvs hcount]
      simp [Emit.bind_of_ok, Token.written]
    | char c =>
      rw [List.count_cons_of_ne (by simp)] at hcount
      rw [fillValues_cons (by simp), ih hvs hcount]
      simp [Emit.bind_of_ok, Token.written]

/-- The text of a markup, read as raw SQL with the bindings of the markup. -/
theorem raw_spelled {strict : Prop} {m : Markup} {s : String} {bs : List Value}
    (h : Spells True m s bs) (d : Dialect) :
    Emit.Renders (Spells strict) (pure (wrapMarkers d m)) (env.raw d ⟨s, bs⟩) := by
  have hdirect : Direct m := h.direct trivial
  have htext : (d.wrapMarkers s).toList = (wrapMarkers d m).text := by
    rw [Dialect.wrapMarkers, String.toList_ofList, ← h.text, text_wrapMarkers hdirect]
  have hspells : Spells strict (wrapMarkers d m) (d.wrapMarkers s) bs :=
    { text := htext.symm
      bound := by rw [bound_wrapMarkers, h.bound]
      sound := sound_wrapMarkers h.sound
      scalar := h.scalar
      empty := fun hs => by
        refine (direct_wrapMarkers hdirect).eq_nil ?_
        rw [← htext, hs]
        rfl
      direct := fun _ => direct_wrapMarkers hdirect }
  have hcount : countMarks (d.wrapMarkers s) = bs.length := by
    have hledger := hspells.ledger
    obtain ⟨hsilent, hagain⟩ := (direct_wrapMarkers (d := d) hdirect).counts
    omega
  rw [raw, if_pos hcount, fillValues_scalars h.scalar hcount, Token.written_scan,
    Emit.bind_of_ok rfl]
  simp only [Emit.bindings_pure, Emit.outcome_pure, List.append_nil, String.ofList_toList]
  exact .ok hspells

end Env

end SqlBuilder
