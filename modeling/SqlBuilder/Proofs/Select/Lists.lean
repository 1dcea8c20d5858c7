import SqlBuilder.Proofs.Select.Aggregate

/-!
# The lists of a select and of its arms

The arms of a set operation must have as many columns as the select before them.  Two rewritings
change the list of a select without a look at its arms: an operand of EXISTS lists a single `1`,
and the older paging of one dialect adds a column with the numbers of the rows.  An arm is rendered
as it stands, with its own paging.

So a select whose arms have as many entries as itself keeps to this just if the rows of each arm
are numbered along with its own, and as an operand of EXISTS just if it lists a single entry besides
(`renderSelect_lists`).  And where rows are numbered, DISTINCT stays before the list with the
numbers, which are different for all rows.
-/

namespace SqlBuilder

/-! ## Entries -/

namespace Sections

variable {σ : Type} (t : Target) (s : Sections σ)

/-- The number of entries in the select list of a statement: one for each column, or a single one
for all columns or an aggregate. -/
def width : Nat :=
  if s.listsColumns then max 1 s.columns.length else 1

/-- Are the rows of the statement numbered in a column? -/
def numbersRows : Bool :=
  s.method != .aggregate && t.pagination == .topRowNumber && s.offset != 0 && s.listsColumns

/-- The number of entries that are added to the select list.  A list of clauses that are no columns
is left out where rows are numbered. -/
def addedEntries : Nat :=
  if s.numbersRows t && !(s.hasColumns && s.columns.isEmpty) then 1 else 0

variable {t s}

theorem numbersRows_iff :
    s.numbersRows t = true ↔ s.method ≠ .aggregate ∧ t.pagination = .topRowNumber ∧ s.offset ≠ 0 ∧
      s.listsColumns = true := by
  simp [numbersRows, and_assoc]

/-- Nothing is added where no rows are numbered. -/
theorem addedEntries_eq_zero (h : s.numbersRows t = false) : s.addedEntries t = 0 := by
  simp [addedEntries, h]

theorem width_of_not_listsColumns (h : s.listsColumns = false) : s.width = 1 := by
  simp [width, h]

end Sections

/-- The entries of the select list. -/
def renderEntries (t : Target) (env : Env) (s : Sections Rendered) : Emit (List String) :=
  match s.aggregate with
  | some ⟨function, [column]⟩ => return [aggregateColumn t.dialect function column]
  | some _ => return ["1"]
  | none => do
    let columns ← s.columns.mapM (Column.render t env)
    return if columns.isEmpty then ["*"] else columns

section Entries

variable {t : Target} {env : Env} {s rows : Sections Rendered}

theorem renderSelectList_entries (t : Target) (env : Env) (s : Sections Rendered) :
    renderSelectList t env s =
      renderEntries t env s >>= fun entries => pure (String.intercalate ", " entries) := by
  unfold renderSelectList renderEntries
  cases s.aggregate with
  | none =>
    rw [bind_assoc]
    refine bind_congr fun columns => ?_
    rw [pure_bind]
    split <;> simp
  | some a =>
    obtain ⟨function, columns⟩ := a
    rcases columns with _ | ⟨column, _ | _⟩ <;> simp

theorem length_renderEntries {entries : List String}
    (h : (renderEntries t env s).outcome = .ok entries) : entries.length = s.width := by
  unfold renderEntries at h
  unfold Sections.width Sections.listsColumns
  cases haggregate : s.aggregate with
  | none =>
    rw [haggregate] at h
    obtain ⟨columns, hcolumns, h⟩ := Emit.of_bind_ok h
    obtain rfl := Except.ok.inj h
    have hlength : columns.length = s.columns.length :=
      (Emit.Ensures.mapM (P := fun _ => True) (fun _ _ _ => trivial) columns hcolumns).1
    rw [← hlength]
    cases columns <;> simp
  | some a =>
    obtain ⟨function, columns⟩ := a
    rw [haggregate] at h
    rcases columns with _ | ⟨column, _ | _⟩ <;> · obtain rfl := Except.ok.inj h; rfl

/-- The entry of an aggregate does not depend on the columns. -/
theorem renderEntries_of_aggregate (h : s.listsColumns = false)
    (haggregate : rows.aggregate = s.aggregate) :
    renderEntries t env rows = renderEntries t env s := by
  unfold renderEntries
  rw [haggregate]
  cases hs : s.aggregate with
  | none => simp [Sections.listsColumns, hs] at h
  | some a =>
    obtain ⟨function, columns⟩ := a
    rcases columns with _ | ⟨column, _ | _⟩ <;> rfl

theorem Sections.columns_withNumbers (t : Target) (s : Sections Rendered) (orders : String)
    (bindings : List Value) :
    (s.withNumbers t orders bindings).columns =
      (if s.hasColumns then s.columns else [.named "*"]) ++
        [.raw ⟨rowNumberExpression t.dialect (numberingOrder orders), bindings⟩] := rfl

/-- Raw SQL whose values stand for themselves is the last entry of a list that it is the last column
of. -/
theorem getLast?_renderEntries {cs : List (Column Rendered)} {f : Fragment} {entries : List String}
    (hlists : s.listsColumns = true) (hcolumns : s.columns = cs ++ [.raw f])
    (hscalar : ∀ v ∈ f.bindings, v.IsScalar) (h : (renderEntries t env s).outcome = .ok entries) :
    entries.getLast? = some (t.dialect.wrapMarkers f.expression) := by
  have haggregate : s.aggregate = none := Option.isNone_iff_eq_none.mp hlists
  rw [renderEntries, haggregate, hcolumns] at h
  obtain ⟨texts, htexts, h⟩ := Emit.of_bind_ok h
  obtain rfl := Except.ok.inj h
  obtain ⟨parts, -, -, hconcat⟩ := columns_concat hscalar htexts
  rw [hconcat] at htexts
  obtain rfl := Except.ok.inj htexts
  simp

end Entries

/-! ## Lists -/

/-- The list at the head of a select: the word before it, if any, and its entries. -/
structure SelectList where
  distinct : String
  entries : List String

/-- The list at the head of a text, where `rows` is the select whose sections are written. -/
inductive BodyText.Heads (t : Target) (env : Env) (rows : Sections Rendered) :
    BodyText → SelectList → Prop
  | select {w : SelectText} {page : PagingClause} {entries : List String}
      (hentries : (renderEntries t env rows).outcome = .ok entries)
      (htext : w.list.text = String.intercalate ", " entries) :
      Heads t env rows (.select w page) ⟨w.distinct, entries⟩
  | derived {function : AggregateFunc} {w : SelectText} :
      Heads t env rows (.derived function w) ⟨"", [aggregateColumn t.dialect function "*"]⟩

/-- The select or aggregate is rendered to the text, at whose head the list stands. -/
def Sections.Lists (t : Target) (env : Env) (s : Sections Rendered) (sql : String)
    (list : SelectList) : Prop :=
  ∃ (rows : Sections Rendered) (body : BodyText),
    body.Spells t (env.enter s.scope) s rows ∧ body.Heads t (env.enter s.scope) rows list ∧
      (renderSelect t env s).Writes (body.written t.dialect) ∧ (body.written t.dialect).text = sql

/-- Row numbers are the business of one dialect. -/
theorem Target.dialect_of_topRowNumber {t : Target} (h : t.pagination = .topRowNumber) :
    t.dialect = .sqlServer := by
  unfold Target.pagination at h
  cases hdialect : t.dialect with
  | sqlServer => rfl
  | oracle =>
    rw [hdialect] at h
    dsimp only at h
    split at h <;> simp at h
  | _ => simp [hdialect] at h

section Lists

variable {t : Target} {env : Env} {s rows : Sections Rendered} {body : BodyText}

/-- Every text has a list at its head. -/
theorem BodyText.Spells.exists_heads (h : body.Spells t env s rows) :
    ∃ list, body.Heads t env rows list := by
  have hselect : ∀ {w : SelectText} (page : PagingClause), w.Spells t env rows →
      ∃ list, Heads t env rows (.select w page) list := by
    intro w page hw
    have hlist := hw.list
    rw [renderSelectList_entries] at hlist
    obtain ⟨entries, hentries, htext⟩ := Emit.of_bind_ok (congrArg Emit.outcome hlist)
    exact ⟨_, .select hentries (Except.ok.inj htext).symm⟩
  cases h with
  | select _ _ hw => exact hselect _ hw
  | inPlace _ _ hw => exact hselect _ hw
  | hollow _ _ hw => exact hselect _ hw
  | derived => exact ⟨_, .derived⟩

/-- What is rendered has a list at its head. -/
theorem Sections.exists_lists {sql : String} (h : (renderSelect t env s).outcome = .ok sql) :
    ∃ list, s.Lists t env sql list := by
  obtain ⟨rows, body, hspells, hwrites⟩ := renderBody_spelled h
  obtain ⟨list, hheads⟩ := hspells.exists_heads
  have hsql : (body.written t.dialect).text = sql :=
    Except.ok.inj ((congrArg Emit.outcome hwrites).symm.trans h)
  exact ⟨list, rows, body, hspells, hheads, hwrites, hsql⟩

/-- The rows that are counted are numbered in a column, or they are those of the select itself. -/
theorem Sections.Counted.cases (h : s.Counted t env rows) :
    (t.pagination = .topRowNumber ∧ s.offset ≠ 0 ∧ ∃ orders, (renderOrders t env s).Writes orders ∧
        rows = s.withNumbers t orders.text orders.bindings) ∨
      ¬(t.pagination = .topRowNumber ∧ s.offset ≠ 0) ∧ rows = s := by
  by_cases hnumbered : t.pagination = .topRowNumber ∧ s.offset ≠ 0
  · exact .inl ⟨hnumbered.1, hnumbered.2, h.withNumbers hnumbered.1 hnumbered.2⟩
  · unfold Sections.Counted at h
    rw [if_neg hnumbered] at h
    exact .inr ⟨hnumbered, h⟩

/-- Numbering adds an entry to a list of columns. -/
theorem Sections.Counted.width (hmethod : s.method ≠ .aggregate)
    (hcolumns : s.hasColumns = false → s.columns = []) (h : s.Counted t env rows) :
    rows.width = s.width + s.addedEntries t := by
  cases hlists : s.listsColumns with
  | false =>
    have hnumbers : s.numbersRows t = false := by simp [Sections.numbersRows, hlists]
    have hrows : rows.listsColumns = false := by
      obtain ⟨-, -, orders, -, rfl⟩ | ⟨-, rfl⟩ := h.cases
      · exact hlists
      · exact hlists
    rw [width_of_not_listsColumns hrows, width_of_not_listsColumns hlists,
      addedEntries_eq_zero hnumbers]
  | true =>
    obtain ⟨hstyle, hoffset, orders, -, rfl⟩ | ⟨hnot, rfl⟩ := h.cases
    · have hnumbers : s.numbersRows t = true :=
        numbersRows_iff.mpr ⟨hmethod, hstyle, hoffset, hlists⟩
      have hrows : (s.withNumbers t orders.text orders.bindings).listsColumns = true := hlists
      unfold Sections.width addedEntries
      rw [hnumbers, hlists, hrows]
      rw [columns_withNumbers]
      cases hhas : s.hasColumns with
      | false => simp [hcolumns hhas]
      | true => cases hempty : s.columns <;> simp
    · have hnumbers : rows.numbersRows t = false := by
        refine Bool.eq_false_iff.mpr fun hnumbers => ?_
        obtain ⟨-, hstyle, hoffset, -⟩ := numbersRows_iff.mp hnumbers
        exact hnot ⟨hstyle, hoffset⟩
      rw [addedEntries_eq_zero hnumbers, Nat.add_zero]

/-- **Entries.**  A list has the entries of its statement, and one more where rows are numbered. -/
theorem Sections.Lists.length_entries {sql : String} {list : SelectList}
    (hcolumns : s.hasColumns = false → s.columns = []) (h : s.Lists t env sql list) :
    list.entries.length = s.width + s.addedEntries t := by
  obtain ⟨rows, body, hspells, hheads, -, -⟩ := h
  have hunnumbered (hmethod : s.method = .aggregate) : s.addedEntries t = 0 :=
    addedEntries_eq_zero (by simp [numbersRows, hmethod])
  cases hspells with
  | select hmethod hcounted =>
    cases hheads with
    | select hentries => rw [length_renderEntries hentries, hcounted.width hmethod hcolumns]
  | inPlace hmethod hflat =>
    cases hheads with
    | select hentries =>
      rw [length_renderEntries hentries, eq_ungrouped_of_flat hflat, hunnumbered hmethod]
      rfl
  | hollow hmethod hhollow =>
    cases hheads with
    | select hentries =>
      have hlists : s.listsColumns = false := listsColumns_of_not_flat fun _ => by simp [hhollow]
      rw [length_renderEntries hentries, hunnumbered hmethod, width_of_not_listsColumns hlists]
      rfl
  | derived hmethod hwrapped =>
    cases hheads with
    | derived =>
      have hlists : s.listsColumns = false := listsColumns_of_not_flat fun _ => by simp [hwrapped]
      rw [hunnumbered hmethod, width_of_not_listsColumns hlists]
      rfl

/-- Where rows are numbered, the numbers come last in the list. -/
theorem Sections.Lists.numbered {sql : String} {list : SelectList} (h : s.Lists t env sql list)
    (hnumbers : s.numbersRows t = true) :
    ∃ orders, (renderOrders t (env.enter s.scope) s).Writes orders ∧
      list.entries.getLast? = some (numberColumn orders).text ∧
        (list.distinct = "DISTINCT " ↔ s.distinct = true) := by
  obtain ⟨hmethod, hstyle, hoffset, hlists⟩ := numbersRows_iff.mp hnumbers
  obtain ⟨rows, body, hspells, hheads, -, -⟩ := h
  cases hspells with
  | select _ hcounted hw =>
    cases hheads with
    | select hentries =>
      obtain ⟨orders, horders, rfl⟩ := hcounted.withNumbers hstyle hoffset
      have hrows : (s.withNumbers t orders.text orders.bindings).listsColumns = true := hlists
      have hscalar : ∀ v ∈ orders.bindings, v.IsScalar := by
        have hbindings : (renderOrders t (env.enter s.scope) s).bindings = orders.bindings :=
          congrArg Emit.bindings horders
        rw [← hbindings]
        exact renderOrders_scalar t _ s
      refine ⟨orders, horders, ?_, ?_⟩
      · rw [getLast?_renderEntries hrows (columns_withNumbers t s _ _) hscalar hentries,
          Target.dialect_of_topRowNumber hstyle]
        exact congrArg some (wrapMarkers_rowNumberExpression _)
      · rw [hw.distinct, hrows, Bool.and_true]
        change (if s.distinct = true then "DISTINCT " else "") = "DISTINCT " ↔ _
        cases s.distinct <;> simp
  | inPlace haggregate => exact absurd haggregate hmethod
  | hollow haggregate => exact absurd haggregate hmethod
  | derived haggregate => exact absurd haggregate hmethod

/-- Where rows are not numbered, the list is that of the statement. -/
theorem Sections.Lists.unnumbered {sql : String} {list : SelectList} (h : s.Lists t env sql list)
    (hmethod : s.method ≠ .aggregate) (hnumbers : s.numbersRows t = false) :
    (renderEntries t (env.enter s.scope) s).outcome = .ok list.entries := by
  obtain ⟨rows, body, hspells, hheads, -, -⟩ := h
  cases hspells with
  | select _ hcounted hw =>
    cases hheads with
    | select hentries =>
      obtain ⟨hstyle, hoffset, orders, -, rfl⟩ | ⟨-, rfl⟩ := hcounted.cases
      · have hlists : s.listsColumns = false := by
          refine Bool.eq_false_iff.mpr fun hlists => Bool.eq_false_iff.mp hnumbers ?_
          exact numbersRows_iff.mpr ⟨hmethod, hstyle, hoffset, hlists⟩
        have hrows : (s.withNumbers t orders.text orders.bindings).aggregate = s.aggregate := rfl
        rw [← renderEntries_of_aggregate hlists hrows]
        exact hentries
      · exact hentries
  | inPlace haggregate => exact absurd haggregate hmethod
  | hollow haggregate => exact absurd haggregate hmethod
  | derived haggregate => exact absurd haggregate hmethod

end Lists

/-! ## Arms -/

/-- The text stands somewhere in the other one. -/
def Within (part whole : String) : Prop :=
  ∃ before rest, whole = before ++ part ++ rest

namespace Within

variable {part middle whole : String}

theorem refl (s : String) : Within s s :=
  ⟨"", "", by simp⟩

theorem trans (h : Within part middle) (h' : Within middle whole) : Within part whole := by
  obtain ⟨before, rest, rfl⟩ := h
  obtain ⟨before', rest', rfl⟩ := h'
  exact ⟨before' ++ before, rest ++ rest', by simp only [String.append_assoc]⟩

theorem append_right (h : Within part whole) (s : String) : Within part (whole ++ s) :=
  h.trans ⟨"", s, by simp⟩

theorem append_left (h : Within part whole) (s : String) : Within part (s ++ whole) :=
  h.trans ⟨s, "", by simp⟩

theorem intercalate {parts : List String} (h : part ∈ parts) (separator : String) :
    Within part (separator.intercalate parts) := by
  induction parts with
  | nil => exact absurd h List.not_mem_nil
  | cons s parts ih =>
    cases parts with
    | nil =>
      obtain rfl := List.mem_singleton.mp h
      rw [String.intercalate_singleton]
      exact refl _
    | cons s' parts =>
      rw [String.intercalate_cons_of_ne_nil (by simp)]
      obtain rfl | h := List.mem_cons.mp h
      · exact ((refl _).append_right _).append_right _
      · exact (ih h).append_left _

end Within

/-- A select stands between texts that its paging puts around it, and is not followed by a question
mark. -/
theorem PagingClause.exists_around (d : Dialect) (c : PagingClause) :
    ∃ before rest : String, rest.toList.head? ≠ some '?' ∧
      ∀ body, c.around d body = before ++ body ++ rest := by
  have hcounted : ∃ before rest : String, (∀ s : String, (rest ++ s).toList.head? = some ')') ∧
      ∀ body, countedTable d body = before ++ body ++ rest := by
    refine ⟨"SELECT " ++ rowNumberTable d ++ ".*, ROWNUM " ++ rowNumberColumn d ++ " FROM (",
      ") " ++ rowNumberTable d, fun s => by simp, fun body => ?_⟩
    unfold countedTable
    simp only [String.append_assoc]
  obtain ⟨before, rest, hhead, hcounted⟩ := hcounted
  unfold around
  cases c with
  | numberedFrom a =>
    refine ⟨"SELECT * FROM (", ") " ++ d.aliasKeyword ++ rowNumberTable d ++ " WHERE " ++
      rowNumberColumn d ++ " >= ?", by simp, fun body => ?_⟩
    simp only [String.append_assoc]
  | numberedBetween a b =>
    refine ⟨"SELECT * FROM (", ") " ++ d.aliasKeyword ++ rowNumberTable d ++ " WHERE " ++
      rowNumberColumn d ++ " BETWEEN ? AND ?", by simp, fun body => ?_⟩
    simp only [String.append_assoc]
  | countedTo n => exact ⟨"SELECT * FROM (", ") WHERE ROWNUM <= ?", by simp, fun body => rfl⟩
  | countedAfter m =>
    refine ⟨"SELECT * FROM (" ++ before, rest ++ (") WHERE " ++ rowNumberColumn d ++ " > ?"),
      by rw [hhead]; decide, fun body => ?_⟩
    simp only [hcounted, String.append_assoc]
  | countedWithin b m =>
    refine ⟨"SELECT * FROM (" ++ before, rest ++ (" WHERE ROWNUM <= ?) WHERE " ++
      rowNumberColumn d ++ " > ?"), by rw [hhead]; decide, fun body => ?_⟩
    simp only [hcounted, String.append_assoc]
  | _ => exact ⟨"", "", by simp, fun body => by simp⟩

/-- Set operations stand in the text of their select, whatever its paging. -/
theorem SelectText.combines_within (d : Dialect) (w : SelectText) (c : PagingClause) :
    Within w.combines.text (w.paged d c).text := by
  have hafter : Within w.combines.text w.combines.after.text := by
    by_cases hempty : w.combines.text = ""
    · simpa [Written.after, hempty] using Within.refl ""
    · simpa [Written.after, hempty] using (Within.refl w.combines.text).append_left " "
  have hrest : ∀ place, Within w.combines.text (w.rest place).text := by
    intro place
    cases place with
    | afterOrders => exact hafter.append_right _
    | afterSelect | afterDistinct => exact (hafter.append_left _).append_right _
  unfold paged
  cases c.place? with
  | some place => exact (hrest place).append_left _
  | none =>
    obtain ⟨before, rest, -, haround⟩ := c.exists_around d
    exact ((hrest .afterOrders).append_left _).trans ⟨before, rest, haround _⟩

/-- Every element of a list is carried out. -/
theorem Emit.exists_of_mapM {α β : Type} {f : α → Emit β} {xs : List α} {ys : List β}
    (h : (xs.mapM f).outcome = .ok ys) : ∀ x ∈ xs, ∃ y ∈ ys, (f x).outcome = .ok y := by
  induction xs generalizing ys with
  | nil => exact fun x hx => absurd hx List.not_mem_nil
  | cons x xs ih =>
    rw [List.mapM_cons] at h
    obtain ⟨y, hy, h⟩ := Emit.of_bind_ok h
    obtain ⟨ys, hys, h⟩ := Emit.of_bind_ok h
    obtain rfl := Except.ok.inj h
    refine List.forall_mem_cons.mpr ⟨⟨y, List.mem_cons_self, hy⟩, fun x hx => ?_⟩
    obtain ⟨y', hmem, hy'⟩ := ih hys x hx
    exact ⟨y', List.mem_cons_of_mem _ hmem, hy'⟩

section Arms

variable {t : Target} {env : Env} {s : Sections Rendered}

/-- The query of a set operation is rendered as a select of its own. -/
theorem renderCombines_query {combines : Written} {operation : SetOp} {all : Bool} {sub : Rendered}
    (h : (renderCombines t env s).Writes combines) (hsub : .query operation all sub ∈ s.combines) :
    ∃ arm, (sub.select env).outcome = .ok arm ∧ Within arm combines.text := by
  unfold renderCombines at h
  obtain ⟨texts, htexts, htext⟩ := Emit.of_bind_ok (congrArg Emit.outcome h)
  obtain ⟨text, hmem, hrender⟩ := Emit.exists_of_mapM htexts _ hsub
  obtain ⟨arm, harm, hrender⟩ := Emit.of_bind_ok hrender
  obtain rfl := Except.ok.inj hrender
  refine ⟨arm, harm, ?_⟩
  rw [← Except.ok.inj htext]
  exact ((Within.refl arm).append_left _).trans (.intercalate hmem " ")

/-- The query of a set operation of a select stands in the text. -/
theorem Sections.Lists.exists_arm {sql : String} {list : SelectList} (h : s.Lists t env sql list)
    (hmethod : s.method ≠ .aggregate) {operation : SetOp} {all : Bool} {sub : Rendered}
    (hsub : .query operation all sub ∈ s.combines) :
    ∃ arm, (sub.select (env.enter s.scope)).outcome = .ok arm ∧ Within arm sql := by
  obtain ⟨rows, body, hspells, -, -, rfl⟩ := h
  cases hspells with
  | @select _ w page _ hcounted hw =>
    have hcombines : rows.combines = s.combines := by
      obtain ⟨-, -, orders, -, rfl⟩ | ⟨-, rfl⟩ := hcounted.cases <;> rfl
    obtain ⟨arm, harm, hwithin⟩ := renderCombines_query hw.combines (hcombines ▸ hsub)
    exact ⟨arm, harm, hwithin.trans (w.combines_within t.dialect page)⟩
  | inPlace haggregate => exact absurd haggregate hmethod
  | hollow haggregate => exact absurd haggregate hmethod
  | derived haggregate => exact absurd haggregate hmethod

end Arms

/-- The query of a set operation. -/
def Combine.query? {σ : Type} : Combine σ → Option σ
  | query _ _ q => some q
  | raw _ => none

/-- The queries that a dialect sees combined with a query. -/
def Query.arms (d : Dialect) (q : Query) : List Query :=
  ((Sections.of d q).combines.filterMap Combine.query?).map (·.query)

theorem Query.exists_of_mem_arms {t : Target} {q r : Query} (h : r ∈ q.arms t.dialect) :
    ∃ operation all,
      Combine.query operation all (Subquery.rendered t ⟨r⟩) ∈ (q.sections t).combines := by
  obtain ⟨⟨r⟩, hsub, rfl⟩ := List.mem_map.mp h
  obtain ⟨combine, hcombine, hquery⟩ := List.mem_filterMap.mp hsub
  cases combine with
  | raw f => exact nomatch hquery
  | query operation all sub' =>
    obtain rfl := Option.some.inj hquery
    refine ⟨operation, all, ?_⟩
    rw [Query.sections, Sections.of_map]
    exact List.mem_map_of_mem hcombine

/-! ## Selects with their arms -/

/-- How a select is listed together with the queries that are combined with it: its own list, the
lists of the queries in the same text, and the numbers at the end of its own list if there are
any. -/
structure Sections.Listing (t : Target) (env : Env) (s : Sections Rendered) (arms : List Query)
    (sql : String) (list : SelectList) : Prop where
  lists : s.Lists t env sql list
  arms : ∀ r ∈ arms, ∃ arm armList,
    (r.sections t).Lists t (env.enter s.scope) arm armList ∧ Within arm sql
  numbered : s.numbersRows t = true →
    ∃ orders, (renderOrders t (env.enter s.scope) s).Writes orders ∧
      list.entries.getLast? = some (numberColumn orders).text ∧
      (list.distinct = "DISTINCT " ↔ s.distinct = true)
  unnumbered : s.numbersRows t = false →
    (renderEntries t (env.enter s.scope) s).outcome = .ok list.entries

/-- The lists of the queries that are combined with a select have as many entries as its own. -/
def Sections.InStep (t : Target) (env : Env) (s : Sections Rendered) (arms : List Query)
    (list : SelectList) : Prop :=
  ∀ r ∈ arms, ∀ arm armList, (r.sections t).Lists t (env.enter s.scope) arm armList →
    armList.entries.length = list.entries.length

section Listing

variable {t : Target} {env : Env} {s : Sections Rendered} {q : Query}

theorem Query.sections_columns (t : Target) (q : Query) (h : (q.sections t).hasColumns = false) :
    (q.sections t).columns = [] :=
  Sections.columns_of t.dialect _ h

/-- A select that is rendered is listed, and so are the queries combined with it.  The lists are in
step just if each has the entries that the select has to it. -/
theorem Sections.exists_listing (hmethod : s.method ≠ .aggregate)
    (hcolumns : s.hasColumns = false → s.columns = [])
    (hcombines : s.combines = (q.sections t).combines)
    {sql : String} (h : (renderSelect t env s).outcome = .ok sql) :
    ∃ list, s.Listing t env (q.arms t.dialect) sql list ∧
      (s.InStep t env (q.arms t.dialect) list ↔
        ∀ r ∈ q.arms t.dialect, (r.sections t).width + (r.sections t).addedEntries t =
          s.width + s.addedEntries t) := by
  obtain ⟨list, hlist⟩ := exists_lists h
  have harms : ∀ r ∈ q.arms t.dialect, ∃ arm armList,
      (r.sections t).Lists t (env.enter s.scope) arm armList ∧ Within arm sql := by
    intro r hr
    obtain ⟨operation, all, hcombine⟩ := Query.exists_of_mem_arms hr
    obtain ⟨arm, harm, hwithin⟩ := hlist.exists_arm hmethod (hcombines ▸ hcombine)
    rw [Subquery.rendered_mk] at harm
    obtain ⟨armList, harmList⟩ := exists_lists harm
    exact ⟨arm, armList, harmList, hwithin⟩
  have hlength := hlist.length_entries hcolumns
  refine ⟨list, ⟨hlist, harms, hlist.numbered, hlist.unnumbered hmethod⟩, ?_, ?_⟩
  · intro hstep r hr
    obtain ⟨arm, armList, harmList, -⟩ := harms r hr
    rw [← harmList.length_entries (Query.sections_columns t r), ← hlength]
    exact hstep r hr arm armList harmList
  · intro hwidth r hr arm armList harmList
    rw [harmList.length_entries (Query.sections_columns t r), hlength]
    exact hwidth r hr

end Listing

/-- **Select lists.**  A select whose arms have as many entries as itself is rendered with its lists
in step just if an entry is added to all of them or to none, that is if the rows of every arm are
numbered along with its own.  As the operand of EXISTS it lists a single entry, and then the lists
are in step just if this makes no difference.  Where rows are numbered, DISTINCT stands before
the list with the numbers just if the select is distinct. -/
theorem renderSelect_lists (t : Target) (env : Env) {q : Query} (hmethod : q.method = .select)
    (heven : ∀ r ∈ q.arms t.dialect, (r.sections t).width = (q.sections t).width) :
    (∀ sql, (renderSelect t env (q.sections t)).outcome = .ok sql →
      ∃ list, (q.sections t).Listing t env (q.arms t.dialect) sql list ∧
        ((q.sections t).InStep t env (q.arms t.dialect) list ↔
          ∀ r ∈ q.arms t.dialect,
            (r.sections t).addedEntries t = (q.sections t).addedEntries t)) ∧
    (∀ sql, ((Subquery.rendered t ⟨q⟩).existsOperand env).outcome = .ok sql →
      ∃ list, (q.sections t).trimmed.Listing t env (q.arms t.dialect) sql list ∧
        ((q.sections t).trimmed.InStep t env (q.arms t.dialect) list ↔
          ∀ r ∈ q.arms t.dialect, (q.sections t).width + (r.sections t).addedEntries t =
            1 + (q.sections t).trimmed.addedEntries t)) := by
  have hselect : (q.sections t).method ≠ .aggregate := by
    have h : (q.sections t).method = .select := hmethod
    simp [h]
  refine ⟨fun sql hsql => ?_, fun sql hsql => ?_⟩
  · obtain ⟨list, hlisting, hstep⟩ :=
      Sections.exists_listing hselect (Query.sections_columns t q) rfl hsql
    refine ⟨list, hlisting, hstep.trans (forall₂_congr fun r hr => ?_)⟩
    rw [heven r hr, Nat.add_left_cancel_iff]
  · rw [Subquery.rendered_mk] at hsql
    have hwidth : (q.sections t).trimmed.width = 1 := by
      unfold Sections.width
      split <;> rfl
    obtain ⟨list, hlisting, hstep⟩ := Sections.exists_listing (s := (q.sections t).trimmed) (q := q)
      hselect (fun h => nomatch h) rfl hsql
    refine ⟨list, hlisting, hstep.trans (forall₂_congr fun r hr => ?_)⟩
    rw [heven r hr, hwidth]

/-- A single entry stays a single entry, and so the lists stay in step. -/
theorem renderSelect_lists_single :
    let t : Target := { dialect := .generic }
    let q : Query :=
      runAll [.fromTable "u", .select ["a"],
        .combine .union false (.fresh [.fromTable "v", .select ["a"]])] {}
    q.method = .select ∧
      (∀ r ∈ q.arms t.dialect, (r.sections t).width = (q.sections t).width) ∧
      ∃ list, (q.sections t).trimmed.Listing t {} (q.arms t.dialect)
          "SELECT 1 FROM \"u\" UNION SELECT \"a\" FROM \"v\"" list ∧
        (q.sections t).trimmed.InStep t {} (q.arms t.dialect) list := by
  intro t q
  have heven : ∀ r ∈ q.arms t.dialect, (r.sections t).width = (q.sections t).width := by
    decide +kernel
  have hadded : ∀ r ∈ q.arms t.dialect, (q.sections t).width + (r.sections t).addedEntries t =
      1 + (q.sections t).trimmed.addedEntries t := by
    decide +kernel
  have htext : ((Subquery.rendered t ⟨q⟩).existsOperand {}).outcome.toOption =
      some "SELECT 1 FROM \"u\" UNION SELECT \"a\" FROM \"v\"" := by
    decide +kernel
  cases hsql : ((Subquery.rendered t ⟨q⟩).existsOperand {}).outcome with
  | error e =>
    rw [hsql] at htext
    exact nomatch htext
  | ok sql =>
    rw [hsql] at htext
    obtain rfl := Option.some.inj htext
    obtain ⟨list, hlisting, hstep⟩ := (renderSelect_lists t {} rfl heven).2 _ hsql
    exact ⟨rfl, heven, list, hlisting, hstep.mpr hadded⟩

/-- Two entries are one as the operand of EXISTS, but not in the arm; rows are numbered in the
select but not in its arm; and the numbers of distinct rows stand after DISTINCT. -/
theorem select_lists_out_of_step :
    let t : Target := { dialect := .generic }
    let wide : List Step :=
      [.fromTable "u", .select ["a", "b"],
        .combine .union false (.fresh [.fromTable "v", .select ["a", "b"]])]
    let legacy : Target := { dialect := .sqlServer, options := { legacyPagination := true } }
    let paged : Query :=
      runAll [.fromTable "t", .select ["a"],
        .combine .union false (.fresh [.fromTable "u", .select ["a"]]), .offset 5] {}
    let distinct : Query :=
      runAll [.fromTable "t", .select ["a"], .distinctRows, .offset 5] {}
    let outer : Query := runAll [.fromTable "t", .condition (.existsIn (.fresh wide))] {}
    (∀ r ∈ (runAll wide {}).arms t.dialect,
      (r.sections t).width = (Query.sections t (runAll wide {})).width) ∧
    (renderMethod t {} (outer.sections t)).outcome.toOption =
      some ("SELECT * FROM \"t\" WHERE " ++
        "EXISTS (SELECT 1 FROM \"u\" UNION SELECT \"a\", \"b\" FROM \"v\")") ∧
    (∀ r ∈ paged.arms legacy.dialect, (r.sections legacy).width = (paged.sections legacy).width) ∧
    (renderMethod legacy {} (paged.sections legacy)).outcome.toOption =
      some ("SELECT * FROM (SELECT [a], ROW_NUMBER() OVER (ORDER BY (SELECT 0)) AS [row_num] " ++
        "FROM [t] UNION SELECT [a] FROM [u]) AS [results_wrapper] WHERE [row_num] >= ?") ∧
    (renderMethod legacy {} (distinct.sections legacy)).outcome.toOption =
      some ("SELECT * FROM (SELECT DISTINCT [a], ROW_NUMBER() OVER (ORDER BY (SELECT 0)) AS " ++
        "[row_num] FROM [t]) AS [results_wrapper] WHERE [row_num] >= ?") := by
  decide +kernel

end SqlBuilder
