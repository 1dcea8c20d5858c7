import SqlBuilder.Proofs.Condition.Connective
import SqlBuilder.Proofs.Query.Sections
import SqlBuilder.Render.Statement

/-!
# Aggregates over several columns

An aggregate over several columns is one over the rows of a derived table, of which only those with
a value in every column are meant to count.  `Sections.aggregateForm` demands this by tests that it
appends to the conditions of the query.

A list of conditions means what SQL makes of its text, where AND binds more strongly than OR: it is
a choice between alternatives, each of which demands all of its conditions (`Alternatives`).  The
text of a list is that of its alternatives (`renderConditions_alternatives`), and its truth follows
from the truth of its conditions (`Assignment.readFilters`).

What is appended to a list goes to its last alternative (`Alternatives.addAll_and`), in the text as
in the reading.  So the tests bind the last alternative only: the rows of an earlier one count
without a value in the columns (`aggregate_tests_last_alternative`).  For conditions without an OR, and for rows that have the
values anyway, the tests mean what they are meant to.
-/

namespace SqlBuilder

/-! ## Alternatives -/

/-- What a list means whose members are joined by AND and OR: the alternatives between which there
is an OR, each of them a list that is joined by AND. -/
structure Alternatives (α : Type) where
  earlier : List (List α) := []
  /-- The alternative that the next member is added to. -/
  last : List α := []

namespace Alternatives

variable {α : Type}

/-- Adds a member.  An OR before it begins another alternative, unless nothing stands before. -/
def add (s : Alternatives α) (isOr : Bool) (x : α) : Alternatives α :=
  if isOr && !s.last.isEmpty then ⟨s.earlier ++ [s.last], [x]⟩ else ⟨s.earlier, s.last ++ [x]⟩

/-- Adds the members of a list that are there. -/
def addAll (s : Alternatives α) (xs : List (Bool × Option α)) : Alternatives α :=
  xs.foldl (fun s (isOr, x?) => x?.elim s (s.add isOr)) s

/-- One of the alternatives is true. -/
def holds (s : Alternatives Bool) : Bool :=
  s.earlier.any (·.all id) || s.last.all id

/-- The alternatives in SQL. -/
def text (s : Alternatives String) : String :=
  " OR ".intercalate ((s.earlier ++ [s.last]).map (" AND ".intercalate ·))

@[simp] theorem addAll_nil (s : Alternatives α) : s.addAll [] = s := rfl

@[simp] theorem addAll_cons (s : Alternatives α) (isOr : Bool) (x? : Option α)
    (xs : List (Bool × Option α)) :
    s.addAll ((isOr, x?) :: xs) = (x?.elim s (s.add isOr)).addAll xs := rfl

theorem addAll_append (s : Alternatives α) (xs ys : List (Bool × Option α)) :
    s.addAll (xs ++ ys) = (s.addAll xs).addAll ys :=
  List.foldl_append

/-- What is joined by AND goes to the last alternative. -/
theorem addAll_and (s : Alternatives α) (xs : List α) :
    s.addAll (xs.map fun x => (false, some x)) = ⟨s.earlier, s.last ++ xs⟩ := by
  induction xs generalizing s with
  | nil => simp
  | cons x xs ih =>
    rw [List.map_cons, addAll_cons, Option.elim_some, ih]
    simp [add]

/-- A list without OR is a single alternative. -/
theorem earlier_addAll_of_and {xs : List (Bool × Option α)} (hxs : ∀ x ∈ xs, x.1 = false)
    (s : Alternatives α) : (s.addAll xs).earlier = s.earlier := by
  induction xs generalizing s with
  | nil => rfl
  | cons x xs ih =>
    obtain ⟨hx, hrest⟩ := List.forall_mem_cons.mp hxs
    obtain ⟨isOr, x?⟩ := x
    obtain rfl : isOr = false := hx
    rw [addAll_cons, ih hrest]
    cases x? <;> rfl

/-! ### The text of a list -/

theorem text_add {s : Alternatives String} (hlast : s.last ≠ []) (isOr : Bool) (x : String) :
    (s.add isOr x).text = s.text ++ connective isOr ++ x := by
  have hnonempty : s.last.isEmpty = false := by simpa using hlast
  cases isOr with
  | true =>
    simp only [add, hnonempty, Bool.not_false, Bool.and_self, ↓reduceIte, text, List.map_append,
      List.map_cons, List.map_nil, String.intercalate_singleton, connective]
    rw [String.intercalate_append_of_ne_nil (by simp) (by simp), String.intercalate_singleton]
  | false =>
    have hand : " AND ".intercalate (s.last ++ [x]) = " AND ".intercalate s.last ++ " AND " ++ x := by
      rw [String.intercalate_append_of_ne_nil hlast (by simp), String.intercalate_singleton]
    simp only [add, Bool.false_and, Bool.false_eq_true, ↓reduceIte, text, List.map_append,
      List.map_cons, List.map_nil, hand, connective]
    by_cases hearlier : s.earlier = []
    · simp [hearlier]
    · have hor : s.earlier.map (" AND ".intercalate ·) ≠ [] := by simpa using hearlier
      rw [String.intercalate_append_of_ne_nil hor (by simp),
        String.intercalate_append_of_ne_nil hor (by simp)]
      simp only [String.intercalate_singleton, String.append_assoc]

theorem last_add_ne_nil {α : Type} (s : Alternatives α) (isOr : Bool) (x : α) :
    (s.add isOr x).last ≠ [] := by
  unfold add
  split <;> simp

/-- **Text.**  The text of a list of conditions is that of its alternatives; before the first of
them stands nothing. -/
theorem joinConditions_text {parts : List (Bool × Option String)}
    (hparts : ∀ p ∈ parts, p.2 ≠ some "") {s : Alternatives String}
    (hs : s = {} ∨ s.last ≠ [] ∧ s.text ≠ "") :
    joinConditions s.text parts = (s.addAll parts).text := by
  induction parts generalizing s with
  | nil => rfl
  | cons p parts ih =>
    obtain ⟨hp, hrest⟩ := List.forall_mem_cons.mp hparts
    obtain ⟨isOr, sql?⟩ := p
    cases sql? with
    | none => exact ih hrest hs
    | some sql =>
      have hsql : sql ≠ "" := fun h => hp (congrArg some h)
      have hadd : (s.add isOr sql).text =
          if s.text.isEmpty then sql else s.text ++ connective isOr ++ sql := by
        obtain rfl | ⟨hlast, htext⟩ := hs
        · simp [add, text]
        · rw [text_add hlast, if_neg (by simpa using htext)]
      have hnonempty : (s.add isOr sql).text ≠ "" := by
        rw [hadd]
        split <;> simp [hsql]
      rw [joinConditions, ← hadd]
      exact ih hrest (.inr ⟨last_add_ne_nil s isOr sql, hnonempty⟩)

end Alternatives

/-- Conditions whose texts are not empty are rendered to the alternatives of their texts. -/
theorem renderConditions_alternatives {t : Target} {env : Env} {cs : List (Condition Rendered)}
    {parts : List (Bool × Option String)} (hadds : List.Forall₂ (Condition.Adds t env) cs parts)
    (hparts : ∀ p ∈ parts, p.2 ≠ some "") :
    (renderConditions t env cs).outcome = .ok (Alternatives.addAll {} parts).text :=
  renderConditions_eq_ok_iff.mpr
    ⟨parts, hadds, Alternatives.joinConditions_text hparts (.inl rfl)⟩

/-! ## The truth of conditions -/

/-- A truth value for every condition that is not a group. -/
abbrev Assignment := ConditionKind Subquery → Bool

/-- A subquery, and the truth of its conditions as a group if it has any. -/
structure Reading where
  query : Subquery
  truth? : Option Bool

namespace Assignment

variable (a : Assignment)

/-- The truth of a condition; `none` for a group without conditions. -/
def truth? (c : Condition Reading) : Option Bool :=
  let demanded :=
    match c.kind with
    | .group sub => sub.truth?
    | kind => some (a (kind.map Reading.query))
  demanded.map (c.isNot ^^ ·)

/-- What a list of conditions means. -/
def read (cs : List (Condition Reading)) : Alternatives Bool :=
  Alternatives.addAll {} (cs.map fun c => (c.isOr, a.truth? c))

/-- The truth of the conditions of a group. -/
def groupTruth? (cs : List (Condition Reading)) : Option Bool :=
  if cs.all fun c => (a.truth? c).isNone then none else some (a.read cs).holds

/-- A layer of a query as a group: its conditions on rows, or those on groups when there are
none. -/
def readLayer (d : Dialect) (layer : QueryOver Reading) : Reading where
  query := ⟨layer.map Reading.query⟩
  truth? :=
    let s := Sections.of d layer
    if s.hasFilters then a.groupTruth? s.filters
    else if s.hasHavings then a.groupTruth? s.havings
    else none

/-- A subquery, read for a dialect. -/
def readSubquery (d : Dialect) : Subquery → Reading :=
  Subquery.fold (a.readLayer d)

/-- What the conditions on the rows of a select mean to a dialect. -/
def readFilters (d : Dialect) (s : Sections Subquery) : Alternatives Bool :=
  a.read (s.map (a.readSubquery d)).filters

/-- All of the columns have a value. -/
def present (columns : List String) : Bool :=
  columns.all fun c => !a (.null c)

end Assignment

/-! ## The tests of an aggregate -/

variable {a : Assignment}

/-- The tests of columns, joined by AND. -/
theorem read_presenceTests (columns : List String) :
    (Sections.presenceTests {} columns).map (fun c => (c.isOr, a.truth? c)) =
      (columns.map fun c => !a (.null c)).map fun v => (false, some v) := by
  induction columns with
  | nil => rfl
  | cons c columns ih =>
    rw [Sections.presenceTests, List.map_cons, ih]
    simp [Assignment.truth?, ConditionKind.map]

/-- Tests go to the last alternative of what stands before them. -/
theorem read_append_presenceTests (cs : List (Condition Reading)) (columns : List String) :
    a.read (cs ++ Sections.presenceTests {} columns) =
      ⟨(a.read cs).earlier, (a.read cs).last ++ columns.map fun c => !a (.null c)⟩ := by
  rw [Assignment.read, List.map_append, Alternatives.addAll_append, read_presenceTests,
    Alternatives.addAll_and]
  rfl

/-- The text of the test of a column. -/
def Dialect.presenceText (d : Dialect) (column : String) : String :=
  d.wrap column ++ " IS NOT NULL"

theorem adds_presenceTests (t : Target) (env : Env) (columns : List String) :
    List.Forall₂ (Condition.Adds t env) (Sections.presenceTests {} columns)
      ((columns.map t.dialect.presenceText).map fun sql => (false, some sql)) := by
  induction columns with
  | nil => exact .nil
  | cons c columns ih =>
    have htext : t.dialect.wrap c ++ " IS " ++ notKeyword true ++ "NULL" =
        t.dialect.presenceText c := by
      rw [String.append_assoc, String.append_assoc, Dialect.presenceText]
      rfl
    exact .cons ⟨rfl, congrArg (Except.ok ∘ some) htext⟩ ih

/-- The rows that an aggregate over several columns is applied to. -/
def Sections.testedRows {σ : Type} (s : Sections σ) (columns : List String) : Sections σ :=
  { s.unpaged.unordered with
    method := .select
    groups := []
    filters := s.filters ++ presenceTests s.pending columns
    hasFilters := s.hasFilters || !columns.isEmpty }

theorem Sections.aggregateForm_of_several {σ : Type} {s : Sections σ} {function : AggregateFunc}
    {columns : List String} (haggregate : s.aggregate = some ⟨function, columns⟩)
    (hcolumns : 2 ≤ columns.length) (hdistinct : s.distinct = false) :
    s.aggregateForm =
      if s.accepts then .wrapped function (s.testedRows columns) else .hollow := by
  have hseveral : ¬columns.length = 1 := by omega
  cases haccepts : s.accepts <;>
    simp [Sections.aggregateForm, haggregate, hseveral, hdistinct, haccepts, testedRows, unpaged,
      unordered]

theorem Sections.filters_map_testedRows {σ τ : Type} (f : σ → τ) {s : Sections σ}
    (hpending : s.pending = {}) (columns : List String) :
    ((s.testedRows columns).map f).filters =
      (s.map f).filters ++ Sections.presenceTests {} columns := by
  simp only [Sections.map, testedRows, List.map_append, hpending, presenceTests_map]

/-- The text of the conditions of the tested rows: the tests stand in the last alternative. -/
theorem renderConditions_testedRows (t : Target) (env : Env) {s : Sections Subquery}
    (hpending : s.pending = {}) (columns : List String) {parts : List (Bool × Option String)}
    (hadds : List.Forall₂ (Condition.Adds t env) (s.map (Subquery.rendered t)).filters parts)
    (hparts : ∀ p ∈ parts, p.2 ≠ some "") :
    (renderConditions t env ((s.testedRows columns).map (Subquery.rendered t)).filters).outcome =
      .ok (Alternatives.text ⟨(Alternatives.addAll {} parts).earlier,
        (Alternatives.addAll {} parts).last ++ columns.map t.dialect.presenceText⟩) := by
  have htests : ∀ p ∈ (columns.map t.dialect.presenceText).map fun sql => (false, some sql),
      p.2 ≠ some "" := by
    simp [Dialect.presenceText]
  rw [Sections.filters_map_testedRows _ hpending,
    renderConditions_alternatives (List.rel_append hadds (adds_presenceTests t env columns))
      (List.forall_mem_append.mpr ⟨hparts, htests⟩),
    Alternatives.addAll_append, Alternatives.addAll_and]

/-- **Tests.**  What the conditions of the tested rows mean. -/
theorem Assignment.readFilters_testedRows (d : Dialect) {s : Sections Subquery}
    (hpending : s.pending = {}) (columns : List String) :
    a.readFilters d (s.testedRows columns) =
      ⟨(a.readFilters d s).earlier,
        (a.readFilters d s).last ++ columns.map fun c => !a (.null c)⟩ := by
  rw [readFilters, Sections.filters_map_testedRows _ hpending, read_append_presenceTests]
  rfl

/-- The conditions of the tested rows hold if an alternative holds that is not the last, or if the
last one holds and the columns have values. -/
theorem Assignment.holds_testedRows (d : Dialect) {s : Sections Subquery}
    (hpending : s.pending = {}) (columns : List String) :
    (a.readFilters d (s.testedRows columns)).holds =
      ((a.readFilters d s).earlier.any (·.all id) ||
        ((a.readFilters d s).last.all id && a.present columns)) := by
  rw [a.readFilters_testedRows d hpending, Alternatives.holds, List.all_append, present,
    List.all_map]
  rfl

/-- Conditions without OR have no alternatives. -/
theorem Assignment.earlier_readFilters_of_and (d : Dialect) {s : Sections Subquery}
    (hand : ∀ c ∈ s.filters, c.isOr = false) : (a.readFilters d s).earlier = [] := by
  refine Alternatives.earlier_addAll_of_and (fun x hx => ?_) {}
  obtain ⟨read, hread, rfl⟩ := List.mem_map.mp hx
  obtain ⟨c, hc, rfl⟩ := List.mem_map.mp hread
  exact hand c hc

/-- An aggregate over several columns, rendered. -/
theorem renderBody_of_several (t : Target) (env : Env) {q : Query} {function : AggregateFunc}
    {columns : List String} (hmethod : q.method = .aggregate) (hdistinct : q.distinct = false)
    (haggregate : (Sections.of t.dialect q).aggregate = some ⟨function, columns⟩)
    (hcolumns : 2 ≤ columns.length) :
    renderBody t env (q.sections t) =
      if (Sections.of t.dialect q).accepts then do
        let sql ← renderPlain t (env.enter q.scope)
          (((Sections.of t.dialect q).testedRows columns).map (Subquery.rendered t))
        return wrapAggregate t.dialect function sql
      else renderSections t env {} := by
  have hform := Sections.aggregateForm_of_several haggregate hcolumns hdistinct
  have hsections : (q.sections t).method = .aggregate := hmethod
  unfold renderBody
  rw [if_pos hsections, Query.sections, Sections.of_map, Sections.aggregateForm_map, hform]
  cases (Sections.of t.dialect q).accepts <;> rfl

/-- **Aggregates over several columns.**  A statement that takes up clauses for the dialect applies
the function to the rows of a derived table.  The text of their conditions is that of the
alternatives of the original ones, with the tests in the last of them, unless a condition has an
empty text.  They hold if an alternative of the original ones holds that is not the last, or if the
last one holds and the columns have values.  They say what
they are meant to, that the original conditions hold and the columns have values, if the columns do
have values or no alternative before the last one holds, and so whenever there is no OR between the
conditions.  A statement that takes up no clauses for the dialect is a select of nothing. -/
theorem aggregate_tests_last_alternative (t : Target) {q : Query} {function : AggregateFunc}
    {columns : List String} (hmethod : q.method = .aggregate) (hdistinct : q.distinct = false)
    (hpending : q.pending = {})
    (haggregate : (Sections.of t.dialect q).aggregate = some ⟨function, columns⟩)
    (hcolumns : 2 ≤ columns.length) :
    ∃ rows : Sections Subquery,
      (∀ env, renderBody t env (q.sections t) =
        if (Sections.of t.dialect q).accepts then do
          let sql ← renderPlain t (env.enter q.scope) (rows.map (Subquery.rendered t))
          return wrapAggregate t.dialect function sql
        else renderSections t env {}) ∧
      (∀ env parts,
        List.Forall₂ (Condition.Adds t env)
          ((Sections.of t.dialect q).map (Subquery.rendered t)).filters parts →
        (∀ p ∈ parts, p.2 ≠ some "") →
        let original := Alternatives.addAll {} parts
        (renderConditions t env
            ((Sections.of t.dialect q).map (Subquery.rendered t)).filters).outcome =
          .ok original.text ∧
        (renderConditions t env (rows.map (Subquery.rendered t)).filters).outcome =
          .ok (Alternatives.text ⟨original.earlier,
            original.last ++ columns.map t.dialect.presenceText⟩)) ∧
      ∀ a : Assignment,
        let original := a.readFilters t.dialect (Sections.of t.dialect q)
        let tested := a.readFilters t.dialect rows
        tested.holds =
          (original.earlier.any (·.all id) || (original.last.all id && a.present columns)) ∧
        (tested.holds = (original.holds && a.present columns) ↔
          a.present columns = true ∨ original.earlier.any (·.all id) = false) ∧
        ((∀ c ∈ (Sections.of t.dialect q).filters, c.isOr = false) →
          tested.holds = (original.holds && a.present columns)) := by
  refine ⟨(Sections.of t.dialect q).testedRows columns,
    fun env => renderBody_of_several t env hmethod hdistinct haggregate hcolumns,
    fun env parts hadds hparts => ⟨renderConditions_alternatives hadds hparts,
      renderConditions_testedRows t env hpending columns hadds hparts⟩,
    fun a => ?_⟩
  have hholds := a.holds_testedRows t.dialect (s := Sections.of t.dialect q) hpending columns
  refine ⟨hholds, ?_, fun hand => ?_⟩
  · rw [hholds, Alternatives.holds]
    cases a.present columns <;> simp
  · rw [hholds, Alternatives.holds, a.earlier_readFilters_of_and t.dialect hand]
    rfl

/-- The count of the rows with values in two columns, where one condition or another holds. -/
def countEither : Query :=
  runAll [.fromTable "t", .condition (.filter "a" .eq (.int 1)), .condition .or,
    .condition (.filter "b" .eq (.int 2)), .asCount ["c", "d"]] {}

theorem countEither_filters : (Sections.of .generic countEither).filters =
    [⟨false, false, .compare "a" .eq (.int 1)⟩, ⟨true, false, .compare "b" .eq (.int 2)⟩] := rfl

/-- Rows where the first condition holds count whatever they have in the columns. -/
theorem aggregate_tests_last_alternative_either :
    ∃ rows : Sections Subquery,
      (∀ env, renderBody ⟨.generic, {}⟩ env (countEither.sections ⟨.generic, {}⟩) = do
        let sql ← renderPlain ⟨.generic, {}⟩ (env.enter countEither.scope)
          (rows.map (Subquery.rendered ⟨.generic, {}⟩))
        return wrapAggregate .generic .count sql) ∧
      (renderConditions ⟨.generic, {}⟩ {}
          (rows.map (Subquery.rendered ⟨.generic, {}⟩)).filters).outcome =
        .ok "\"a\" = ? OR \"b\" = ? AND \"c\" IS NOT NULL AND \"d\" IS NOT NULL" ∧
      ∀ a : Assignment, (a.readFilters .generic rows).holds =
        (a (.compare "a" .eq (.int 1)) ||
          (a (.compare "b" .eq (.int 2)) && a.present ["c", "d"])) := by
  have haggregate : (Sections.of .generic countEither).aggregate = some ⟨.count, ["c", "d"]⟩ := rfl
  obtain ⟨rows, hrender, htext, htests⟩ :=
    aggregate_tests_last_alternative ⟨.generic, {}⟩ rfl rfl rfl haggregate (by decide)
  have hadds : List.Forall₂ (Condition.Adds ⟨.generic, {}⟩ {})
      ((Sections.of .generic countEither).map (Subquery.rendered ⟨.generic, {}⟩)).filters
      [(false, some "\"a\" = ?"), (true, some "\"b\" = ?")] :=
    .cons ⟨rfl, by decide +kernel⟩ (.cons ⟨rfl, by decide +kernel⟩ .nil)
  refine ⟨rows, hrender, ((htext {} _ hadds (by decide)).2).trans (by decide +kernel), fun a => ?_⟩
  have hread : a.readFilters .generic (Sections.of .generic countEither) =
      ⟨[[a (.compare "a" .eq (.int 1))]], [a (.compare "b" .eq (.int 2))]⟩ := by
    simp [Assignment.readFilters, Assignment.read, countEither_filters, Sections.map,
      Condition.map, ConditionKind.map, Assignment.truth?, Alternatives.add]
  refine (htests a).1.trans ?_
  dsimp only
  rw [hread]
  simp

/-- The tests do not say that the conditions hold and the columns have values. -/
theorem countEither_counts_missing_values :
    ∃ (rows : Sections Subquery) (a : Assignment),
      (Sections.of .generic countEither).aggregateForm = .wrapped .count rows ∧
      (a.readFilters .generic rows).holds ≠
        ((a.readFilters .generic (Sections.of .generic countEither)).holds &&
          a.present ["c", "d"]) := by
  refine ⟨(Sections.of .generic countEither).testedRows ["c", "d"], fun
    | .compare "a" _ _ => true
    | .null _ => true
    | _ => false, ?_⟩
  exact ⟨rfl, by decide⟩

end SqlBuilder
