import SqlBuilder.Proofs.Condition.Connective
import SqlBuilder.Proofs.Query.Subqueries

/-!
# Conditions without a text

A condition is blank if it is a group of which all conditions that the dialect sees are blank, or
raw SQL that is rendered to the empty text and is not negated (`Condition.Blank`).  A group without
conditions is blank for want of any.

These are the conditions that do not show in a list: a group has no text just if it is blank
(`Condition.RendersTo.eq_none_iff`), and a list of conditions is empty just if all of them are
(`renderConditions_eq_empty_iff`).
-/

namespace SqlBuilder

/-! ## Groups -/

section Groups

variable {σ τ : Type} {d : Dialect}

/-- The conditions of a group: those on rows, or those on groups when there are none. -/
def Sections.groupConditions (s : Sections σ) : List (Condition σ) :=
  if s.hasFilters then s.filters else if s.hasHavings then s.havings else []

theorem Sections.groupConditions_map (f : σ → τ) (s : Sections σ) :
    (s.map f).groupConditions = s.groupConditions.map (Condition.map f) := by
  unfold groupConditions
  cases hfilters : s.hasFilters <;> cases hhavings : s.hasHavings <;>
    simp [map, hfilters, hhavings]

/-- The subqueries of the conditions of a group are subqueries of it. -/
theorem QueryOver.mem_subqueries_of_groupConditions {q : QueryOver σ} {c : Condition σ}
    (hc : c ∈ (Sections.of d q).groupConditions) {s : σ} (hs : s ∈ c.subqueries) :
    s ∈ q.subqueries := by
  obtain ⟨S, -, hS⟩ := Sections.exists_attach (P := (· ∈ q.subqueries)) d q fun s hs => hs
  have hmap := hS id
  rw [QueryOver.map_id] at hmap
  rw [hmap, Sections.groupConditions_map] at hc
  obtain ⟨c', -, rfl⟩ := List.mem_map.mp hc
  rw [Condition.subqueries_map] at hs
  obtain ⟨s', -, rfl⟩ := List.mem_map.mp hs
  exact s'.2

end Groups

/-- A group is the list of its conditions, unless that is empty. -/
theorem renderGroup_eq (t : Target) (env : Env) (s : Sections Rendered) :
    renderGroup t env s = do
      let sql ← renderConditions t (env.enter s.scope) s.groupConditions
      return if sql.isEmpty then none else some sql := by
  unfold renderGroup Sections.groupConditions
  by_cases hfilters : s.hasFilters
  · simp only [hfilters, if_true]
  · by_cases hhavings : s.hasHavings
    · simp only [hfilters, hhavings, if_true, if_false, Bool.false_eq_true]
    · simp only [hfilters, hhavings, if_false, Bool.false_eq_true]
      rfl

/-! ## Blank conditions -/

variable {t : Target} {env : Env}

/-- A condition that has nothing to say to the dialect. -/
inductive Condition.Blank (t : Target) : Env → Condition Subquery → Prop
  /-- A group all of whose conditions are blank. -/
  | group {env : Env} {isOr isNot : Bool} {s : Subquery}
      (h : ∀ c ∈ (Sections.of t.dialect s.query).groupConditions,
        Blank t (env.enter s.query.scope) c) :
      Blank t env ⟨isOr, isNot, .group s⟩
  /-- Raw SQL without a text. -/
  | raw {env : Env} {isOr : Bool} {f : Fragment} (h : (env.raw t.dialect f).outcome = .ok "") :
      Blank t env ⟨isOr, false, .raw f⟩

/-- The condition is rendered to the text, or to none. -/
def Condition.RendersTo (t : Target) (env : Env) (c : Condition Subquery) (text : Option String) :
    Prop :=
  ((c.map (Subquery.rendered t)).render t env).outcome = .ok text

/-- A list is rendered just if each of its conditions is. -/
theorem renderConditions_map_eq_ok_iff {cs : List (Condition Subquery)} {sql : String} :
    (renderConditions t env (cs.map (Condition.map (Subquery.rendered t)))).outcome = .ok sql ↔
      ∃ parts, List.Forall₂ (fun c part => part.1 = c.isOr ∧ c.RendersTo t env part.2) cs parts ∧
        joinConditions "" parts = sql := by
  simp only [renderConditions_eq_ok_iff, List.forall₂_map_left_iff]
  rfl

/-! ### Groups and raw SQL -/

/-- All that a group has to say to the dialect is blank. -/
def Subquery.BlankGroup (t : Target) (env : Env) (s : Subquery) : Prop :=
  ∀ c ∈ (Sections.of t.dialect s.query).groupConditions, c.Blank t (env.enter s.query.scope)

theorem Condition.blank_group_iff {isOr isNot : Bool} {s : Subquery} :
    Blank t env ⟨isOr, isNot, .group s⟩ ↔ s.BlankGroup t env :=
  ⟨fun | .group h => h, .group⟩

theorem Condition.blank_raw_iff {isOr isNot : Bool} {f : Fragment} :
    Blank t env ⟨isOr, isNot, .raw f⟩ ↔
      isNot = false ∧ (env.raw t.dialect f).outcome = .ok "" := by
  constructor
  · rintro (_ | h)
    exact ⟨rfl, h⟩
  · rintro ⟨rfl, h⟩
    exact .raw h

/-- What is rendered of a condition tells whether it is blank, if it does so of the groups in it. -/
theorem Condition.RendersTo.blank_iff_of_groups {c : Condition Subquery} {text : Option String}
    (h : c.RendersTo t env text)
    (hgroups : ∀ s ∈ c.subqueries, ∀ inner, ((s.rendered t).group env).outcome = .ok inner →
      (inner = none ↔ s.BlankGroup t env)) :
    (text = none ↔ (∃ s, c.kind = .group s) ∧ c.Blank t env) ∧
      (c.Blank t env ↔ text.getD "" = "") := by
  obtain ⟨isOr, isNot, kind⟩ := c
  have hrenders := ConditionKind.renders_of_ok h
  cases kind with
  | group s =>
    obtain ⟨inner, hinner, rfl⟩ := hrenders
    have hnone := hgroups s List.mem_cons_self inner hinner
    rw [Condition.blank_group_iff, ← hnone]
    cases inner <;> simp
  | raw f =>
    obtain ⟨sql, hsql, rfl⟩ := hrenders
    rw [Condition.blank_raw_iff, hsql]
    cases isNot <;> simp [negate, Condition.map]
  | _ =>
    obtain ⟨sql, hsql, rfl⟩ := hrenders
    refine ⟨iff_of_false (Option.some_ne_none _) ?_, iff_of_false ?_ hsql⟩
    · rintro ⟨⟨_, ⟨⟩⟩, -⟩
    · rintro ⟨⟩

/-! ### Lists -/

/-- A list of texts is empty just if every text in it is. -/
theorem joinConditions_eq_empty_iff {parts : List (Bool × Option String)} :
    joinConditions "" parts = "" ↔ ∀ part ∈ parts, part.2.getD "" = "" := by
  induction parts with
  | nil => simp [joinConditions]
  | cons part parts ih =>
    obtain ⟨isOr, text⟩ := part
    rw [List.forall_mem_cons, ← ih]
    cases text with
    | none => simp [joinConditions]
    | some sql =>
      rw [joinConditions, if_pos (by rfl)]
      by_cases hsql : sql = ""
      · simp [hsql]
      · simp [joinConditions_of_ne_empty hsql, hsql]

/-- A property of the elements of one list is one of the elements of another, if it is so for each
element and its partner. -/
theorem forall_mem_iff_of_forall₂ {α β : Type} {R : α → β → Prop} {xs : List α} {ys : List β}
    {P : α → Prop} {Q : β → Prop} (h : List.Forall₂ R xs ys)
    (hR : ∀ x ∈ xs, ∀ y, R x y → (P x ↔ Q y)) : (∀ x ∈ xs, P x) ↔ ∀ y ∈ ys, Q y := by
  induction h with
  | nil => simp
  | cons hxy _ ih =>
    rw [List.forall_mem_cons, List.forall_mem_cons, hR _ List.mem_cons_self _ hxy,
      ih fun x hx => hR x (List.mem_cons_of_mem _ hx)]

/-- A group has no text just if all that it has to say is blank. -/
theorem Subquery.group_eq_none_iff (s : Subquery) : ∀ (env : Env) (inner : Option String),
    ((s.rendered t).group env).outcome = .ok inner → (inner = none ↔ s.BlankGroup t env) := by
  induction s using Subquery.induction with
  | layer q ih =>
    intro env inner h
    rw [Subquery.rendered_mk] at h
    change (renderGroup t env (q.sections t)).outcome = .ok inner at h
    rw [renderGroup_eq] at h
    obtain ⟨sql, hsql, h⟩ := Emit.of_bind_ok h
    obtain rfl := Except.ok.inj h
    rw [Query.sections, Sections.of_map, Sections.groupConditions_map] at hsql
    obtain ⟨parts, hparts, rfl⟩ := renderConditions_map_eq_ok_iff.mp hsql
    have hblank : Subquery.BlankGroup t env ⟨q⟩ ↔ ∀ part ∈ parts, part.2.getD "" = "" := by
      refine forall_mem_iff_of_forall₂ hparts fun c hc part hpart => ?_
      exact (hpart.2.blank_iff_of_groups fun s hs =>
        ih s (QueryOver.mem_subqueries_of_groupConditions hc hs) _).2
    rw [hblank, ← joinConditions_eq_empty_iff]
    simp

/-- A condition has no text just if it is a blank group. -/
theorem Condition.RendersTo.eq_none_iff {c : Condition Subquery} {text : Option String}
    (h : c.RendersTo t env text) : text = none ↔ (∃ s, c.kind = .group s) ∧ c.Blank t env :=
  (h.blank_iff_of_groups fun s _ => s.group_eq_none_iff env).1

/-- What a condition is rendered to is empty or missing just if it is blank. -/
theorem Condition.RendersTo.blank_iff {c : Condition Subquery} {text : Option String}
    (h : c.RendersTo t env text) : c.Blank t env ↔ text.getD "" = "" :=
  (h.blank_iff_of_groups fun s _ => s.group_eq_none_iff env).2

/-- A list is empty just if all of its conditions are blank. -/
theorem renderConditions_eq_empty_iff {cs : List (Condition Subquery)}
    {parts : List (Bool × Option String)}
    (hparts : List.Forall₂ (fun c part => part.1 = c.isOr ∧ c.RendersTo t env part.2) cs parts) :
    joinConditions "" parts = "" ↔ ∀ c ∈ cs, c.Blank t env := by
  rw [joinConditions_eq_empty_iff]
  exact (forall_mem_iff_of_forall₂ hparts fun c _ part hpart => hpart.2.blank_iff).symm

end SqlBuilder
