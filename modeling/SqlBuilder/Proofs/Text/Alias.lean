import Mathlib.Data.List.DropRight
import SqlBuilder.Dialect.Identifier

/-!
# Blanks and aliases at the ends of a text

Where a text with an alias is cut (`cutLast?_eq_some`), and what trimming does to a text that goes
on with something that is not blank (`trimList_append_cons`).  From these: the alias that a text
carries depends neither on the blanks at its ends (`splitAliasList?_trimList`) nor on what stands
before the alias, as long as that is not blank (`splitAliasList?_replace`).
-/

namespace SqlBuilder.Text

variable {c : Char} {cs xs ys before after : List Char}

/-! ## Trimming -/

theorem trimStartList_eq_nil : trimStartList cs = [] ↔ ∀ c ∈ cs, isBlank c :=
  List.dropWhile_eq_nil_iff

theorem trimEndList_eq_nil : trimEndList cs = [] ↔ ∀ c ∈ cs, isBlank c := by
  rw [trimEndList, List.reverse_eq_nil_iff, List.dropWhile_eq_nil_iff]
  simp only [List.mem_reverse]

theorem trimList_eq_nil : trimList cs = [] ↔ ∀ c ∈ cs, isBlank c := by
  constructor
  · intro h
    have hstart : ∀ c ∈ trimStartList cs, isBlank c := trimEndList_eq_nil.mp h
    -- The start is trimmed, so there is nothing left that could be blank.
    have hagain : trimStartList (trimStartList cs) = [] := trimStartList_eq_nil.mpr hstart
    rw [trimStartList, trimStartList, List.dropWhile_idempotent] at hagain
    exact trimStartList_eq_nil.mp hagain
  · intro h
    rw [trimList, trimStartList_eq_nil.mpr h]
    rfl

/-- Once something is not blank, trimming the start leaves what follows alone. -/
theorem trimStartList_append (h : trimStartList xs ≠ []) :
    trimStartList (xs ++ ys) = trimStartList xs ++ ys := by
  have hnonempty : ¬(xs.dropWhile isBlank).isEmpty := by
    rw [List.isEmpty_iff]
    exact h
  rw [trimStartList, List.dropWhile_append, if_neg hnonempty]
  rfl

theorem trimEndList_append (h : trimEndList ys ≠ []) :
    trimEndList (xs ++ ys) = xs ++ trimEndList ys := by
  have hrev : trimStartList ys.reverse ≠ [] := by
    rwa [trimEndList, ne_eq, List.reverse_eq_nil_iff] at h
  have happend : trimStartList (ys.reverse ++ xs.reverse) =
      trimStartList ys.reverse ++ xs.reverse := trimStartList_append hrev
  rw [trimStartList] at happend
  rw [trimEndList, List.reverse_append, happend, List.reverse_append, List.reverse_reverse]
  rfl

theorem trimStartList_cons (hc : isBlank c = false) : trimStartList (c :: cs) = c :: cs := by
  rw [trimStartList, List.dropWhile_cons, if_neg (by simp [hc])]

theorem trimStartList_append_cons (hc : isBlank c = false) :
    trimStartList (xs ++ c :: ys) = trimStartList xs ++ c :: ys := by
  rw [trimStartList, List.dropWhile_append]
  split
  · next hempty =>
    rw [List.isEmpty_iff] at hempty
    rw [trimStartList, hempty, List.nil_append]
    exact trimStartList_cons hc
  · rfl

theorem trimEndList_append_cons (hc : isBlank c = false) :
    trimEndList (xs ++ c :: ys) = xs ++ c :: trimEndList ys := by
  have hrev : (xs ++ c :: ys).reverse = ys.reverse ++ c :: xs.reverse := by simp
  have hstart : trimStartList (ys.reverse ++ c :: xs.reverse) =
      trimStartList ys.reverse ++ c :: xs.reverse := trimStartList_append_cons hc
  rw [trimStartList] at hstart
  rw [trimEndList, hrev, hstart]
  simp [trimEndList, trimStartList]

/-- Around something that is not blank, the ends are trimmed one by one. -/
theorem trimList_append_cons (hc : isBlank c = false) :
    trimList (xs ++ c :: ys) = trimStartList xs ++ c :: trimEndList ys := by
  rw [trimList, trimStartList_append_cons hc, trimEndList_append_cons hc]

theorem trimList_trimStartList : trimList (trimStartList cs) = trimList cs := by
  rw [trimList, trimStartList, trimStartList, List.dropWhile_idempotent]
  rfl

theorem trimEndList_trimEndList : trimEndList (trimEndList cs) = trimEndList cs := by
  rw [trimEndList, trimEndList, List.reverse_reverse, List.dropWhile_idempotent]

theorem exists_of_trimList_ne_nil (h : trimList cs ≠ []) :
    ∃ xs c ys, cs = xs ++ c :: ys ∧ isBlank c = false := by
  rw [ne_eq, trimList_eq_nil] at h
  push Not at h
  obtain ⟨c, hmem, hc⟩ := h
  obtain ⟨xs, ys, rfl⟩ := List.append_of_mem hmem
  exact ⟨xs, c, ys, rfl, Bool.eq_false_iff.mpr hc⟩

theorem trimList_trimEndList : trimList (trimEndList cs) = trimList cs := by
  by_cases h : trimList cs = []
  · rw [h, trimEndList_eq_nil.mpr (trimList_eq_nil.mp h)]
    rfl
  · obtain ⟨xs, c, ys, rfl, hc⟩ := exists_of_trimList_ne_nil h
    rw [trimEndList_append_cons hc, trimList_append_cons hc, trimList_append_cons hc,
      trimEndList_trimEndList]

theorem trimStartList_trimList : trimStartList (trimList cs) = trimList cs := by
  by_cases h : trimList cs = []
  · rw [h]
    rfl
  · obtain ⟨xs, c, ys, rfl, hc⟩ := exists_of_trimList_ne_nil h
    rw [trimList_append_cons hc, trimStartList_append_cons hc]
    simp only [trimStartList, List.dropWhile_idempotent]

theorem takeWhile_trimList : (trimList cs).takeWhile isBlank = [] := by
  have hwhole := List.takeWhile_append_dropWhile (p := isBlank) (l := trimList cs)
  have hstart : (trimList cs).dropWhile isBlank = trimList cs := trimStartList_trimList
  rw [hstart] at hwhole
  exact List.append_left_eq_self.mp hwhole

theorem trimStartList_append_of_blank (h : ∀ c ∈ xs, isBlank c) :
    trimStartList (xs ++ ys) = trimStartList ys := by
  rw [trimStartList, List.dropWhile_append, List.dropWhile_eq_nil_iff.mpr h]
  rfl

/-- A text without blanks stays where it is put before another one. -/
theorem trimEndList_append_of_nonblank (h : ∀ c ∈ xs, isBlank c = false) :
    trimEndList (xs ++ ys) = xs ++ trimEndList ys := by
  obtain rfl | ⟨xs, c, rfl⟩ := List.eq_nil_or_concat' xs
  · rfl
  · have hc : isBlank c = false := h c (by simp)
    rw [List.append_assoc, List.singleton_append, trimEndList_append_cons hc, List.append_assoc,
      List.singleton_append]

theorem trimStartList_append_of_nonblank (h : ∀ c ∈ xs, isBlank c = false)
    (hys : trimStartList ys = ys) : trimStartList (xs ++ ys) = xs ++ ys := by
  cases xs with
  | nil => exact hys
  | cons c xs => exact trimStartList_cons (h c List.mem_cons_self)

/-! ## Cutting at a character -/

section Split

variable {sep : Char}

theorem splitLastList?_eq_none : splitLastList? sep cs = none ↔ sep ∉ cs := by
  induction cs with
  | nil => simp [splitLastList?]
  | cons c cs ih =>
    rw [splitLastList?, List.mem_cons, not_or]
    cases hsplit : splitLastList? sep cs with
    | none =>
      have hrest : sep ∉ cs := ih.mp hsplit
      by_cases hc : c = sep
      · simp [hc]
      · simp [hc, hrest, Ne.symm hc]
    | some p =>
      have hmem : sep ∈ cs := by simpa [hsplit] using ih
      simp [hmem]

/-- A text is cut at a separator, and there is none after that. -/
theorem splitLastList?_eq_some (h : splitLastList? sep cs = some (before, after)) :
    cs = before ++ sep :: after ∧ sep ∉ after := by
  induction cs generalizing before with
  | nil => exact nomatch h
  | cons c cs ih =>
    rw [splitLastList?] at h
    split at h
    · next b a hsplit =>
      obtain ⟨rfl, rfl⟩ := Prod.mk.inj (Option.some.inj h)
      obtain ⟨hcs, hafter⟩ := ih hsplit
      exact ⟨by rw [hcs, List.cons_append], hafter⟩
    · next hsplit =>
      split at h
      · next hc =>
        obtain ⟨rfl, rfl⟩ := Prod.mk.inj (Option.some.inj h)
        exact ⟨by rw [hc, List.nil_append], splitLastList?_eq_none.mp hsplit⟩
      · exact nomatch h

theorem splitLastList?_append (h : sep ∉ after) :
    splitLastList? sep (before ++ sep :: after) = some (before, after) := by
  induction before with
  | nil => rw [List.nil_append, splitLastList?, splitLastList?_eq_none.mpr h, if_pos rfl]
  | cons c before ih => rw [List.cons_append, splitLastList?, ih]

end Split

/-! ## Cutting at a pattern -/

section Cut

variable {isHere : List Char → Bool} {width : Nat}

/-- A text is cut at a place where the pattern is, and it is nowhere after that. -/
theorem cutLast?_eq_some (h : cutLast? isHere width cs = some (before, after)) :
    ∃ c rest, cs = before ++ c :: rest ∧ isHere (c :: rest) ∧
      cutLast? isHere width rest = none ∧ after = (c :: rest).drop width := by
  induction cs generalizing before with
  | nil => simp [cutLast?] at h
  | cons c cs ih =>
    rw [cutLast?] at h
    cases hcut : cutLast? isHere width cs with
    | some parts =>
      obtain ⟨b, a⟩ := parts
      rw [hcut] at h
      obtain ⟨rfl, rfl⟩ := Prod.mk.inj (Option.some.inj h)
      obtain ⟨c', rest, rfl, hrest⟩ := ih hcut
      exact ⟨c', rest, rfl, hrest⟩
    | none =>
      rw [hcut] at h
      by_cases hhere : isHere (c :: cs)
      · simp only [hhere, if_true] at h
        obtain ⟨rfl, rfl⟩ := Prod.mk.inj (Option.some.inj h)
        exact ⟨c, cs, rfl, hhere, hcut, rfl⟩
      · simp [hhere] at h

/-- What stands before the cut does not matter to it. -/
theorem cutLast?_append (hhere : isHere (c :: cs))
    (hrest : cutLast? isHere width cs = none) :
    cutLast? isHere width (xs ++ c :: cs) = some (xs, (c :: cs).drop width) := by
  induction xs with
  | nil => rw [List.nil_append, cutLast?, hrest, if_pos hhere]
  | cons x xs ih => rw [List.cons_append, cutLast?, ih]

/-- A text without the pattern has no beginning with it. -/
theorem cutLast?_eq_none_of_append (hstable : ∀ xs ys, isHere xs → isHere (xs ++ ys))
    (h : cutLast? isHere width (xs ++ ys) = none) : cutLast? isHere width xs = none := by
  induction xs with
  | nil => rfl
  | cons x xs ih =>
    rw [List.cons_append, cutLast?] at h
    cases hcut : cutLast? isHere width (xs ++ ys) with
    | some parts => simp [hcut] at h
    | none =>
      have hnot : ¬isHere (x :: (xs ++ ys)) := fun hhere => by simp [hcut, hhere] at h
      rw [cutLast?, ih hcut, if_neg]
      exact fun hhere => hnot (hstable _ _ hhere)

end Cut

/-! ## Aliases -/

theorem atAliasMark_append (h : atAliasMark xs) (ys : List Char) : atAliasMark (xs ++ ys) := by
  rw [atAliasMark, beq_iff_eq] at h ⊢
  have hlength : 4 ≤ xs.length := by
    have := congrArg List.length h
    simp only [List.length_map, List.length_take, List.length_cons, List.length_nil] at this
    omega
  rwa [List.take_append_of_le_length hlength]

/-- A letter is no blank, in either case. -/
theorem isBlank_of_toLower (h : c.toLower = 'a') : isBlank c = false := by
  by_cases hupper : c.val ≥ 'A'.val ∧ c.val ≤ 'Z'.val
  · have hrange : 65 ≤ c.toNat ∧ c.toNat ≤ 90 := by
      simpa [UInt32.le_iff_toNat_le] using hupper
    simp [isBlank]
    omega
  · have hsame : c.toLower = c := dif_neg hupper
    rw [← hsame, h]
    decide

/-- An alias mark has something in it that is not blank. -/
theorem exists_of_atAliasMark (h : atAliasMark cs) :
    ∃ x₀ x₁ x₂ x₃ rest, cs = x₀ :: x₁ :: x₂ :: x₃ :: rest ∧ isBlank x₁ = false := by
  rw [atAliasMark, beq_iff_eq] at h
  rcases cs with _ | ⟨x₀, _ | ⟨x₁, _ | ⟨x₂, _ | ⟨x₃, rest⟩⟩⟩⟩
  case cons.cons.cons.cons =>
    refine ⟨x₀, x₁, x₂, x₃, rest, rfl, isBlank_of_toLower ?_⟩
    simp only [List.take, List.map, List.cons.injEq] at h
    exact h.2.1
  all_goals simp at h

/-- A text carries an alias if it is cut at a mark with something on either side. -/
theorem splitAliasList?_eq_some {name aliasName : List Char} :
    splitAliasList? cs = some (name, aliasName) ↔ ∃ before after,
      cutLast? atAliasMark 4 cs = some (before, after) ∧ trimList before = name ∧
        trimList after = aliasName ∧ name ≠ [] ∧ aliasName ≠ [] := by
  rw [splitAliasList?]
  constructor
  · intro h
    cases hcut : cutLast? atAliasMark 4 cs with
    | none => simp [hcut] at h
    | some parts =>
      obtain ⟨before, after⟩ := parts
      by_cases hempty : (trimList before).isEmpty || (trimList after).isEmpty
      · simp only [hcut, hempty, if_true, reduceCtorEq] at h
      · simp only [hcut, hempty, if_false, Bool.false_eq_true] at h
        obtain ⟨rfl, rfl⟩ := Prod.mk.inj (Option.some.inj h)
        rw [Bool.or_eq_true, not_or, List.isEmpty_iff, List.isEmpty_iff] at hempty
        exact ⟨before, after, rfl, rfl, rfl, hempty⟩
  · rintro ⟨before, after, hcut, rfl, rfl, hbefore, hafter⟩
    simp [hcut, hbefore, hafter]

/-- Whatever is put before the alias of a text, as long as it is not blank, carries the alias. -/
theorem splitAliasList?_replace {name aliasName : List Char}
    (h : splitAliasList? cs = some (name, aliasName)) :
    ∃ front rest after, cutLast? atAliasMark 4 cs = some (front, after) ∧ cs = front ++ rest ∧
      trimList front = name ∧ ∀ front', trimList front' ≠ [] →
        splitAliasList? (front' ++ rest) = some (trimList front', aliasName) := by
  obtain ⟨front, after, hcut, hname, halias, -, hafter⟩ := splitAliasList?_eq_some.mp h
  obtain ⟨c, rest, rfl, hhere, hrest, rfl⟩ := cutLast?_eq_some hcut
  refine ⟨front, c :: rest, _, hcut, rfl, hname, fun front' hfront' => ?_⟩
  exact splitAliasList?_eq_some.mpr
    ⟨front', _, cutLast?_append hhere hrest, rfl, halias, hfront', hafter⟩

/-- The blanks at the ends of a text do not belong to its alias. -/
theorem splitAliasList?_trimList {name aliasName : List Char}
    (h : splitAliasList? cs = some (name, aliasName)) :
    splitAliasList? (trimList cs) = some (name, aliasName) := by
  obtain ⟨front, after, hcut, rfl, rfl, hfront, hafter⟩ := splitAliasList?_eq_some.mp h
  obtain ⟨c, rest, rfl, hhere, hrest, rfl⟩ := cutLast?_eq_some hcut
  obtain ⟨x₀, x₁, x₂, x₃, after, hmark, hx₁⟩ := exists_of_atAliasMark hhere
  obtain ⟨rfl, rfl⟩ := List.cons.inj hmark
  simp only [List.drop] at hafter ⊢
  have hstart : trimStartList (front ++ [c]) = trimStartList front ++ [c] :=
    trimStartList_append fun hnil =>
      hfront (trimList_eq_nil.mpr (trimStartList_eq_nil.mp hnil))
  have hend : trimEndList ([x₂, x₃] ++ after) = [x₂, x₃] ++ trimEndList after :=
    trimEndList_append fun hnil =>
      hafter (trimList_eq_nil.mpr (trimEndList_eq_nil.mp hnil))
  have htrim : trimList (front ++ c :: x₁ :: x₂ :: x₃ :: after) =
      trimStartList front ++ c :: x₁ :: x₂ :: x₃ :: trimEndList after := by
    have hsplit : front ++ c :: x₁ :: x₂ :: x₃ :: after =
        (front ++ [c]) ++ x₁ :: ([x₂, x₃] ++ after) := by simp
    rw [hsplit, trimList_append_cons hx₁, hstart, hend]
    simp
  -- What trimming cuts off the end held no mark.
  obtain ⟨blanks, hblanks⟩ : trimEndList after <+: after := List.rdropWhile_prefix _ _
  have hrest' : cutLast? atAliasMark 4 (x₁ :: x₂ :: x₃ :: trimEndList after) = none := by
    rw [← hblanks, ← List.cons_append, ← List.cons_append, ← List.cons_append] at hrest
    exact cutLast?_eq_none_of_append (fun xs ys hxs => atAliasMark_append hxs ys) hrest
  have hhere' : atAliasMark (c :: x₁ :: x₂ :: x₃ :: trimEndList after) := hhere
  rw [htrim, splitAliasList?_eq_some]
  exact ⟨trimStartList front, trimEndList after, cutLast?_append hhere' hrest',
    trimList_trimStartList, trimList_trimEndList, hfront, hafter⟩

end SqlBuilder.Text
