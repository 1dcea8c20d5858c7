import SqlBuilder.Proofs.Aggregate
import SqlBuilder.Proofs.Paging.Numbered
import SqlBuilder.Proofs.Select.Body
import SqlBuilder.Proofs.Text.Identifier

/-!
# The two forms of an aggregate

An aggregate is written in place of the select list, or as a function of all rows of a derived
table.  The form depends on nothing but the number of its columns and on DISTINCT
(`Sections.aggregateForm_of_some`), and so do two things that the form is not chosen for.

The set operations of a select stand in the derived table, where they add to the rows that are
aggregated, but they stand beside an aggregate that is written in place, where they add to its
result (`compile_asAggregate_combines`).

The function of a derived table is applied to `*`, whatever the function is: the columns are told
apart inside of the table only.  So COUNT is not the only function of `*`, and a column is the
argument just when the aggregate is written in place (`compile_aggregate_argument`).
-/

namespace SqlBuilder

open Text

/-! ## The select of an aggregate -/

section Form

variable {σ : Type}

namespace Sections

variable (s : Sections σ)

/-- The statement as a select without paging, order and groups. -/
def ungrouped : Sections σ :=
  { s.unpaged.unordered with method := .select, groups := [] }

/-- The distinct rows of columns. -/
def distinctRows (columns : List String) : Sections σ :=
  let columns := (columns.flatMap expandColumns).map Column.named
  { s.ungrouped with aggregate := none, columns, hasColumns := !columns.isEmpty }

/-- The rows of the derived table of an aggregate. -/
def derivedRows (columns : List String) : Sections σ :=
  if s.distinct then s.distinctRows columns else s.testedRows columns

variable {s} {function : AggregateFunc} {columns : List String}

theorem aggregateForm_of_none (h : s.aggregate = none) : s.aggregateForm = .flat s.ungrouped := by
  unfold aggregateForm
  rw [h]
  rfl

/-- One column is aggregated in place unless the rows are distinct. -/
theorem aggregateForm_of_some (h : s.aggregate = some ⟨function, columns⟩) :
    s.aggregateForm =
      if columns.length = 1 ∧ s.distinct = false then .flat s.ungrouped
      else if s.accepts then .wrapped function (s.derivedRows columns)
      else .hollow := by
  cases hdistinct : s.distinct <;> cases haccepts : s.accepts <;>
    simp [aggregateForm, h, hdistinct, haccepts, derivedRows, distinctRows, testedRows, ungrouped,
      unpaged, unordered]

/-- Whatever the form, a select in the place of the statement is the same. -/
theorem eq_ungrouped_of_flat {rows : Sections σ} (h : s.aggregateForm = .flat rows) :
    rows = s.ungrouped := by
  cases haggregate : s.aggregate with
  | none =>
    rw [aggregateForm_of_none haggregate] at h
    exact (AggregateForm.flat.inj h).symm
  | some a =>
    rw [aggregateForm_of_some haggregate] at h
    split at h
    case isTrue => exact (AggregateForm.flat.inj h).symm
    case isFalse => split at h <;> simp at h

/-- Only an aggregate gives a statement another form than that of a select. -/
theorem listsColumns_of_not_flat (h : ∀ rows, s.aggregateForm ≠ .flat rows) :
    s.listsColumns = false := by
  cases haggregate : s.aggregate with
  | none => exact absurd (aggregateForm_of_none haggregate) (h _)
  | some a => simp [listsColumns, haggregate]

/-- An aggregate that is seen by just the dialects that would see another clause. -/
theorem aggregateForm_of_accepts
    (h : s.aggregate = if s.accepts then some ⟨function, columns⟩ else none) :
    s.aggregateForm =
      if s.accepts = true ∧ (s.distinct = true ∨ columns.length ≠ 1) then
        .wrapped function (s.derivedRows columns)
      else .flat s.ungrouped := by
  cases haccepts : s.accepts with
  | false =>
    rw [haccepts] at h
    simp [aggregateForm_of_none h]
  | true =>
    rw [haccepts] at h
    rw [aggregateForm_of_some h, haccepts]
    by_cases hplace : columns.length = 1 ∧ s.distinct = false
    · simp [hplace]
    · have hderived : s.distinct = true ∨ columns.length ≠ 1 :=
        (Decidable.not_and_iff_or_not.mp hplace).symm.imp_left Bool.of_not_eq_false
      rw [if_neg hplace, if_pos rfl, if_pos ⟨rfl, hderived⟩]

/-- Set operations stay with the rows. -/
@[simp] theorem combines_derivedRows : (s.derivedRows columns).combines = s.combines := by
  unfold derivedRows
  split <;> rfl

end Sections

/-! ## Turning a query into an aggregate -/

namespace Clauses

variable {d : Dialect} {component : Component} {cs : List (Clause σ)}

/-- The only clause of a component that applies is chosen. -/
theorem pick?_of_single {c : Clause σ} (h : ofComponent component (some d) cs = [c]) :
    pick? component (some d) cs = some c := by
  have happlies : c.applies (some d) = true := by
    have hmem : c ∈ ofComponent component (some d) cs := h ▸ List.mem_singleton_self c
    exact (Bool.and_eq_true_iff.mp (List.mem_filter.mp hmem).2).2
  rw [pick?, h]
  by_cases hengine : c.engine = some d
  · simp [hengine]
  · have hnone : c.engine = none := by simpa [Clause.applies, hengine] using happlies
    simp [hnone]

end Clauses

/-- The clauses of a query that is turned into an aggregate. -/
theorem QueryOver.asAggregate_eq {q : QueryOver σ} (herror : q.error = none)
    (function : AggregateFunc) (columns : List String) :
    q.asAggregate function columns =
      { q with
        clauses := Clauses.clear .aggregate q.clauses ++
          [⟨.aggregate, q.engineScope, .aggregate ⟨function, columns⟩⟩]
        method := .aggregate } := by
  simp [asAggregate, clearComponent, addComponent, herror]

@[simp] theorem QueryOver.error_asAggregate (q : QueryOver σ) (function : AggregateFunc)
    (columns : List String) : (q.asAggregate function columns).error = q.error := by
  unfold asAggregate addComponent
  split <;> rfl

namespace Sections

variable {d : Dialect} {q : QueryOver σ}

/-- Queries that differ in their aggregate say the same apart from it. -/
theorem of_aggregate_congr {cs : List (Clause σ)} (method : Method)
    (h : ∀ c ≠ Component.aggregate,
      Clauses.ofComponent c (some d) cs = Clauses.ofComponent c (some d) q.clauses) :
    of d { q with clauses := cs, method } =
      { of d q with
        method
        aggregate := (Clauses.pick? .aggregate (some d) cs).bind (·.kind.aggregate?) } := by
  simp [of, QueryOver.limitFor, QueryOver.offsetFor, QueryOver.scope, Clauses.pick?, Clauses.has, h]

/-- A query whose aggregate is replaced, and that goes on with other clauses.  The dialect sees the
aggregate if the clause is for every dialect or for this one. -/
theorem of_aggregated {rest : List (Clause σ)} (method : Method) (engine : Option Dialect)
    (a : AggregateClause) (hrest : ∀ c ∈ rest, c.component ≠ .aggregate) :
    of d
        { q with
          clauses :=
            Clauses.clear .aggregate q.clauses ++ ⟨.aggregate, engine, .aggregate a⟩ :: rest
          method } =
      { of d { q with clauses := q.clauses ++ rest } with
        method
        aggregate := if engine = none ∨ engine = some d then some a else none } := by
  have hnone : Clauses.ofComponent .aggregate (some d) rest = [] := by
    refine List.filter_eq_nil_iff.mpr fun c hc => ?_
    simp [hrest c hc]
  have hclear := Clauses.ofComponent_clear_self .aggregate (some d) q.clauses
  have hpick : (Clauses.pick? .aggregate (some d)
      (Clauses.clear .aggregate q.clauses ++ ⟨.aggregate, engine, .aggregate a⟩ :: rest)).bind
        (·.kind.aggregate?) = if engine = none ∨ engine = some d then some a else none := by
    have hfound : Clauses.ofComponent .aggregate (some d)
        (Clauses.clear .aggregate q.clauses ++ ⟨.aggregate, engine, .aggregate a⟩ :: rest) =
          if engine = none ∨ engine = some d then [⟨.aggregate, engine, .aggregate a⟩] else [] := by
      rw [Clauses.ofComponent, List.filter_append, List.filter_cons, ← Clauses.ofComponent,
        ← Clauses.ofComponent, hclear, hnone]
      simp [Clause.applies]
    split
    case isTrue happlies =>
      rw [if_pos happlies] at hfound
      rw [Clauses.pick?_of_single hfound]
      rfl
    case isFalse happlies =>
      rw [if_neg happlies] at hfound
      rw [Clauses.pick?, hfound]
      rfl
  rw [← hpick]
  refine of_aggregate_congr (q := { q with clauses := q.clauses ++ rest }) method fun c hc => ?_
  have hother : Clauses.ofComponent c (some d) (Clauses.clear .aggregate q.clauses) =
      Clauses.ofComponent c (some d) q.clauses := Clauses.ofComponent_clear hc _ _
  rw [Clauses.ofComponent, List.filter_append, List.filter_cons, ← Clauses.ofComponent, hother]
  simp [Clauses.ofComponent, hc.symm]

/-- Turning a query into an aggregate changes nothing that it says but this. -/
theorem of_asAggregate (herror : q.error = none) (function : AggregateFunc)
    (columns : List String) :
    of d (q.asAggregate function columns) =
      { of d q with
        method := .aggregate
        aggregate := if (of d q).accepts then some ⟨function, columns⟩ else none } := by
  have haccepts : (of d q).accepts = true ↔ q.engineScope = none ∨ q.engineScope = some d := by
    simp [of, herror]
  rw [QueryOver.asAggregate_eq herror, of_aggregated .aggregate q.engineScope _ (by simp)]
  simp only [List.append_nil, haccepts]

end Sections

end Form

/-! ## Rendered aggregates -/

section Rendered

variable {t : Target} {env : Env} {s : Sections Rendered} {w : SelectText}

/-- An aggregate of one column is the whole select list. -/
theorem SelectText.Spells.list_of_aggregate (hw : w.Spells t env s) {function : AggregateFunc}
    {column : String} (h : s.aggregate = some ⟨function, [column]⟩) :
    w.distinct = "" ∧ w.list = ⟨aggregateColumn t.dialect function column, []⟩ := by
  have hlist := hw.list
  rw [renderSelectList, h] at hlist
  refine ⟨?_, hlist.unique rfl⟩
  rw [hw.distinct, Sections.listsColumns, h]
  simp

/-- A select is its list between fixed words and the other sections. -/
theorem SelectText.exists_whole_eq (w : SelectText) :
    ∃ rest, w.whole.text = "SELECT " ++ w.distinct ++ (w.list.text ++ rest) := by
  refine ⟨(w.source.after ++ w.joins.after ++ w.filters.after ++ w.groups.after ++
    w.havings.after ++ w.orders.after ++ w.combines.after ++ w.lock.after).text, ?_⟩
  rw [← w.before_rest .afterDistinct]
  simp only [SelectText.before, SelectText.rest, Written.text_append, String.append_assoc]

/-- An aggregate over a derived table begins with the function of all of its rows. -/
theorem BodyText.exists_derived_eq (d : Dialect) (function : AggregateFunc) (rows : SelectText) :
    ∃ rest, ((derived function rows).written d).text =
      "SELECT " ++ (aggregateColumn d function "*" ++ rest) := by
  refine ⟨" FROM (" ++ rows.whole.text ++ ")" ++
    aliasSuffix d (some (function.resultName ++ "Query")), ?_⟩
  simp only [written, wrapAggregate, String.append_assoc]

/-- A select of nothing. -/
theorem SelectText.Spells.whole_of_empty (hw : w.Spells t env {}) : w.whole = ⟨"SELECT *", []⟩ := by
  have hempty : SelectText.Spells
      ⟨"", ⟨"*", []⟩, ⟨"", []⟩, ⟨"", []⟩, ⟨"", []⟩, ⟨"", []⟩, ⟨"", []⟩, ⟨"", []⟩, ⟨"", []⟩,
        ⟨"", []⟩⟩ t env {} := by
    constructor <;> rfl
  rw [hw.unique hempty]
  rfl

/-- Only the set operations matter to how they are rendered. -/
theorem renderCombines_congr {s' : Sections Rendered} (h : s'.combines = s.combines) :
    renderCombines t env s' = renderCombines t env s := by
  rw [renderCombines, renderCombines, h]

end Rendered

/-- Turning a query into an aggregate changes nothing that it says but this. -/
theorem Query.sections_asAggregate {q : Query} (herror : q.error = none) (t : Target)
    (function : AggregateFunc) (columns : List String) :
    Query.sections t (q.asAggregate function columns) =
      { q.sections t with
        method := .aggregate
        aggregate := if (q.sections t).accepts then some ⟨function, columns⟩ else none } := by
  rw [Query.sections, Query.sections, Sections.of_map, Sections.of_map,
    Sections.of_asAggregate herror]
  rfl

/-! ## Set operations -/

section Place

variable {t : Target} {env : Env} {s rows : Sections Rendered} {w : SelectText}
  {function : AggregateFunc} {columns : List String}

/-- Where there is a derived table, the set operations stand in it. -/
theorem BodyText.Spells.combines_of_derived {function' : AggregateFunc}
    (hspells : (BodyText.derived function' w).Spells t env s rows)
    (h : s.aggregate = if s.accepts then some ⟨function, columns⟩ else none) :
    function' = function ∧ s.accepts = true ∧ (s.distinct = true ∨ columns.length ≠ 1) ∧
      (renderCombines t (env.enter s.scope) s).Writes w.combines := by
  have hform := Sections.aggregateForm_of_accepts h
  cases hspells with
  | derived _ hwrapped hw =>
    rw [hwrapped] at hform
    split at hform
    case isTrue hderived =>
      obtain ⟨rfl, rfl⟩ := Sections.AggregateForm.wrapped.inj hform
      refine ⟨rfl, hderived.1, hderived.2, ?_⟩
      rw [← renderCombines_congr Sections.combines_derivedRows]
      exact hw.combines
    case isFalse => simp at hform

/-- Where there is none, they stand beside an aggregate in place of the select list. -/
theorem BodyText.Spells.combines_of_select {page : PagingClause}
    (hspells : (BodyText.select w page).Spells t env s rows) (hmethod : s.method = .aggregate)
    (h : s.aggregate = if s.accepts then some ⟨function, columns⟩ else none) :
    page = .all ∧ (renderCombines t env s).Writes w.combines ∧
      (s.accepts = true → ∃ column, columns = [column] ∧ s.distinct = false ∧
        w.list = ⟨aggregateColumn t.dialect function column, []⟩) := by
  have hform := Sections.aggregateForm_of_accepts h
  cases hspells with
  | select hselect => exact absurd hmethod hselect
  | inPlace _ hflat hw =>
    obtain rfl := Sections.eq_ungrouped_of_flat hflat
    refine ⟨rfl, hw.combines, fun haccepts => ?_⟩
    rw [hflat] at hform
    split at hform
    case isTrue => simp at hform
    case isFalse hplace =>
      simp only [haccepts, true_and, not_or, Bool.not_eq_true, Decidable.not_not] at hplace
      obtain ⟨column, rfl⟩ := List.length_eq_one_iff.mp hplace.2
      have haggregate : s.ungrouped.aggregate = some ⟨function, [column]⟩ := by
        rw [haccepts] at h
        exact h
      exact ⟨column, rfl, hplace.1, (hw.list_of_aggregate haggregate).2⟩
  | hollow _ hhollow =>
    rw [hhollow] at hform
    split at hform <;> simp at hform

end Place

/-- **Aggregates over set operations.**  A select that is turned into an aggregate takes its set
operations into the derived table of the aggregate just if there is one, that is if the rows are
distinct or if the columns are not a single one.  Otherwise they stand beside the aggregate.  To
a dialect that the aggregate is not meant for, the query is a select. -/
theorem compile_asAggregate_combines (t : Target) (q : Query) (function : AggregateFunc)
    (columns : List String) {c : Compiled}
    (hc : compile t (q.asAggregate function columns) = .ok c) :
    let s := Query.sections t (q.asAggregate function columns)
    let env := Env.enterStatement t {} s
    ∃ (prologue : Written) (body : BodyText),
      (renderPrologue t env (s.hoistedCtes t)).Writes prologue ∧
      (⟨c.rawSql, c.bindings⟩ : Written) = prologue.leading ++ body.written t.dialect ∧
      match body with
      | .derived function' rows =>
        function' = function ∧ (q.sections t).accepts = true ∧
          (q.distinct = true ∨ columns.length ≠ 1) ∧
          (renderCombines t (env.enter q.scope) (q.sections t)).Writes rows.combines
      | .select w page =>
        page = .all ∧ (renderCombines t env (q.sections t)).Writes w.combines ∧
          ((q.sections t).accepts = true → ∃ column, columns = [column] ∧ q.distinct = false ∧
            w.list = ⟨aggregateColumn t.dialect function column, []⟩) := by
  intro s env
  have herror : q.error = none := by simpa using (compile_eq_ok hc).1
  have hs : s = { q.sections t with
      method := .aggregate
      aggregate := if (q.sections t).accepts then some ⟨function, columns⟩ else none } :=
    Query.sections_asAggregate herror t function columns
  have hmethod : s.method = .aggregate := by rw [hs]
  have haggregate : s.aggregate = if s.accepts then some ⟨function, columns⟩ else none := by rw [hs]
  have haccepts : s.accepts = (q.sections t).accepts := by rw [hs]
  have hdistinct : s.distinct = q.distinct := by
    rw [hs]
    rfl
  have hscope : s.scope = q.scope := by
    rw [hs]
    rfl
  have hcombines (env' : Env) : renderCombines t env' s = renderCombines t env' (q.sections t) :=
    renderCombines_congr (by rw [hs])
  obtain ⟨prologue, rows, body, hprologue, hspells, hwhole⟩ := compile_body (.inr hmethod) hc
  refine ⟨prologue, body, hprologue, hwhole, ?_⟩
  cases body with
  | derived function' w =>
    have hplace := hspells.combines_of_derived haggregate
    rwa [haccepts, hdistinct, hscope, hcombines] at hplace
  | select w page =>
    have hplace := hspells.combines_of_select hmethod haggregate
    rwa [haccepts, hdistinct, hcombines] at hplace

/-- The distinct rows of two tables are counted together. -/
theorem compile_asAggregate_combines_distinct :
    let t : Target := { dialect := .generic }
    let q : Query :=
      runAll [.fromTable "t", .select ["a"], .distinctRows,
        .combine .union false (.fresh [.fromTable "u", .select ["a"]])] {}
    ∃ (c : Compiled) (prologue : Written) (rows : SelectText),
      compile t (q.asAggregate .count ["a"]) = .ok c ∧
      c.rawSql = "SELECT COUNT(*) AS \"count\" FROM " ++
        "(SELECT DISTINCT \"a\" FROM \"t\" UNION SELECT \"a\" FROM \"u\") AS \"countQuery\"" ∧
      (⟨c.rawSql, c.bindings⟩ : Written) =
        prologue.leading ++ (BodyText.derived .count rows).written t.dialect ∧
      rows.combines.text = "UNION SELECT \"a\" FROM \"u\"" := by
  intro t q
  have hsql : (compile t (q.asAggregate .count ["a"])).toOption.map (·.rawSql) =
      some ("SELECT COUNT(*) AS \"count\" FROM " ++
        "(SELECT DISTINCT \"a\" FROM \"t\" UNION SELECT \"a\" FROM \"u\") AS \"countQuery\"") := by
    decide +kernel
  let env := Env.enterStatement t {} (Query.sections t (q.asAggregate .count ["a"]))
  have harms : (renderCombines t (env.enter q.scope) (q.sections t)).outcome.toOption =
      some "UNION SELECT \"a\" FROM \"u\"" := by
    decide +kernel
  cases hc : compile t (q.asAggregate .count ["a"]) with
  | error e =>
    rw [hc] at hsql
    exact nomatch hsql
  | ok c =>
    obtain ⟨prologue, body, -, hwhole, hbody⟩ := compile_asAggregate_combines t q .count ["a"] hc
    rw [hc] at hsql
    cases body with
    | select w page =>
      obtain ⟨column, -, hdistinct, -⟩ := hbody.2.2 rfl
      exact nomatch hdistinct
    | derived function rows =>
      obtain ⟨rfl, -, -, hcombines⟩ := hbody
      rw [hcombines] at harms
      exact ⟨c, prologue, rows, rfl, Option.some.inj hsql, hwhole, Option.some.inj harms⟩

/-- Without DISTINCT the rows of one table are counted, and those of the other one stand beside the
count. -/
theorem compile_asAggregate_beside :
    let t : Target := { dialect := .generic }
    let q : Query :=
      runAll [.fromTable "t", .select ["a"],
        .combine .union false (.fresh [.fromTable "u", .select ["a"]])] {}
    q.method = .select ∧ (q.sections t).combines.length = 1 ∧
      (compile t (q.asAggregate .count ["a"])).toOption.map (·.rawSql) =
        some ("SELECT COUNT(\"a\") AS \"count\" FROM \"t\" UNION SELECT \"a\" FROM \"u\"") := by
  decide +kernel

/-! ## Arguments -/

section Argument

variable {t : Target} {env : Env} {s rows : Sections Rendered} {body : BodyText}

/-- To a dialect that does not see the aggregate, the statement is a list of columns. -/
theorem BodyText.Spells.written_of_none (hspells : body.Spells t env s rows)
    (hmethod : s.method = .aggregate) (h : s.aggregate = none) :
    ∃ (list : Written) (rest : String), (renderColumnList t env s.columns).Writes list ∧
      (body.written t.dialect).text =
        "SELECT " ++ (if s.distinct then "DISTINCT " else "") ++ (list.text ++ rest) := by
  have hform := Sections.aggregateForm_of_none h
  cases hspells with
  | select hselect => exact absurd hmethod hselect
  | inPlace _ hflat hw =>
    obtain rfl := Sections.AggregateForm.flat.inj (hform.symm.trans hflat)
    have hlists : s.ungrouped.listsColumns = true := by
      change s.aggregate.isNone = true
      rw [h]
      rfl
    obtain ⟨rest, hrest⟩ := SelectText.exists_whole_eq _
    refine ⟨_, rest, (renderSelectList_of_columns hlists) ▸ hw.list, ?_⟩
    rw [BodyText.written, SelectText.paged_all, hrest, hw.distinct, hlists, Bool.and_true]
    rfl
  | hollow _ hhollow => simp [hform] at hhollow
  | derived _ hwrapped => simp [hform] at hwrapped

/-- What an aggregate is a function of: the only column, or all rows of a derived table. -/
def IsArgument (d : Dialect) (distinct : Bool) (columns : List String) (argument : String) : Prop :=
  if columns.length = 1 ∧ distinct = false then columns.map d.wrap = [argument] else argument = "*"

/-- Unless `*` is one of the columns, the argument tells the form of the aggregate. -/
theorem IsArgument.iff {d : Dialect} {distinct : Bool} {columns : List String} {argument : String}
    (h : IsArgument d distinct columns argument) (hstar : ∀ column ∈ columns, trim column ≠ "*") :
    (argument = "*" ↔ distinct = true ∨ columns.length ≠ 1) ∧
      (argument ∈ columns.map d.wrap ↔ columns.length = 1 ∧ distinct = false) := by
  have hnone : "*" ∉ columns.map d.wrap := fun hmem => by
    obtain ⟨column, hcolumn, hwrap⟩ := List.mem_map.mp hmem
    exact hstar column hcolumn (d.trim_eq_star_of_wrap hwrap)
  unfold IsArgument at h
  split at h
  case isTrue hplace =>
    have hmem : argument ∈ columns.map d.wrap := h ▸ List.mem_singleton_self argument
    have hne : argument ≠ "*" := fun hargument => hnone (hargument ▸ hmem)
    exact ⟨iff_of_false hne (by simp [hplace]), iff_of_true hmem hplace⟩
  case isFalse hplace =>
    have hderived : distinct = true ∨ columns.length ≠ 1 :=
      (Decidable.not_and_iff_or_not.mp hplace).symm.imp_left Bool.of_not_eq_false
    exact ⟨iff_of_true h hderived, iff_of_false (h ▸ hnone) hplace⟩

/-- The function of an aggregate stands at the front, applied to its argument. -/
theorem BodyText.Spells.written_of_some (hspells : body.Spells t env s rows)
    (hmethod : s.method = .aggregate) {function : AggregateFunc} {columns : List String}
    (h : s.aggregate = some ⟨function, columns⟩) :
    if s.accepts = true ∨ columns.length = 1 ∧ s.distinct = false then
      ∃ argument rest, IsArgument t.dialect s.distinct columns argument ∧
        (body.written t.dialect).text =
          "SELECT " ++ (function.text ++ "(" ++ argument ++ ") " ++ t.dialect.aliasKeyword ++
            t.dialect.quoteIdentifier function.resultName ++ rest)
    else (body.written t.dialect).text = "SELECT *" := by
  have hform := Sections.aggregateForm_of_some h
  cases hspells with
  | select hselect => exact absurd hmethod hselect
  | inPlace _ hflat hw =>
    obtain rfl := Sections.eq_ungrouped_of_flat hflat
    rw [hflat] at hform
    split at hform
    case isTrue hplace =>
      obtain ⟨column, rfl⟩ := List.length_eq_one_iff.mp hplace.1
      have haggregate : s.ungrouped.aggregate = some ⟨function, [column]⟩ := h
      obtain ⟨hdistinct, hlist⟩ := hw.list_of_aggregate haggregate
      obtain ⟨rest, hrest⟩ := SelectText.exists_whole_eq _
      rw [if_pos (.inr hplace)]
      refine ⟨t.dialect.wrap column, rest, ?_, ?_⟩
      · rw [IsArgument, if_pos hplace]
        rfl
      · rw [BodyText.written, SelectText.paged_all, hrest, hdistinct, hlist, String.append_empty]
        rfl
    case isFalse => split at hform <;> simp at hform
  | hollow _ hhollow hw =>
    rw [hhollow] at hform
    split at hform
    case isTrue => simp at hform
    case isFalse hplace =>
      split at hform
      case isTrue => simp at hform
      case isFalse haccepts =>
        rw [if_neg (not_or.mpr ⟨haccepts, hplace⟩), BodyText.written, SelectText.paged_all,
          hw.whole_of_empty]
  | derived _ hwrapped hw =>
    rw [hwrapped] at hform
    split at hform
    case isTrue => simp at hform
    case isFalse hplace =>
      split at hform
      case isTrue haccepts =>
        obtain ⟨rfl, rfl⟩ := Sections.AggregateForm.wrapped.inj hform
        obtain ⟨rest, hrest⟩ := BodyText.exists_derived_eq t.dialect _ _
        rw [if_pos (.inl haccepts)]
        refine ⟨"*", rest, ?_, ?_⟩
        · rw [IsArgument, if_neg hplace]
        · rw [hrest, aggregateColumn, t.dialect.wrap_star]
      case isFalse => simp at hform

end Argument

/-- **Arguments of aggregates.**  The function of an aggregate statement, whichever it is, is
applied to `*` just if the rows are distinct or if the columns are not a single one, and otherwise
to the column.  A statement that takes up no clauses for the dialect is a select of nothing, unless
it is written in place; and without an aggregate for the dialect it lists its columns. -/
theorem compile_aggregate_argument (t : Target) (q : Query) {c : Compiled}
    (hmethod : q.method = .aggregate) (hc : compile t q = .ok c) :
    let s := q.sections t
    let env := Env.enterStatement t {} s
    ∃ prologue : Written, (renderPrologue t env (s.hoistedCtes t)).Writes prologue ∧
      match s.aggregate with
      | none =>
        ∃ (list : Written) (rest : String), (renderColumnList t env s.columns).Writes list ∧
          c.rawSql = prologue.leading.text ++
            ("SELECT " ++ (if q.distinct then "DISTINCT " else "") ++ (list.text ++ rest))
      | some ⟨function, columns⟩ =>
        if s.accepts = true ∨ columns.length = 1 ∧ q.distinct = false then
          ∃ argument rest : String,
            c.rawSql = prologue.leading.text ++
              ("SELECT " ++ (function.text ++ "(" ++ argument ++ ") " ++ t.dialect.aliasKeyword ++
                t.dialect.quoteIdentifier function.resultName ++ rest)) ∧
            ((∀ column ∈ columns, trim column ≠ "*") →
              (argument = "*" ↔ q.distinct = true ∨ columns.length ≠ 1) ∧
              (argument ∈ columns.map t.dialect.wrap ↔
                columns.length = 1 ∧ q.distinct = false))
        else c.rawSql = prologue.leading.text ++ "SELECT *" := by
  intro s env
  have hs : s.method = .aggregate := hmethod
  obtain ⟨prologue, rows, body, hprologue, hspells, hwhole⟩ := compile_body (.inr hmethod) hc
  refine ⟨prologue, hprologue, ?_⟩
  have htext : c.rawSql = prologue.leading.text ++ (body.written t.dialect).text :=
    congrArg Written.text hwhole
  cases haggregate : s.aggregate with
  | none =>
    obtain ⟨list, rest, hlist, hbody⟩ := hspells.written_of_none hs haggregate
    exact ⟨list, rest, hlist, htext.trans (congrArg _ hbody)⟩
  | some a =>
    obtain ⟨function, columns⟩ := a
    have hbody := hspells.written_of_some hs haggregate
    by_cases hwritten : s.accepts = true ∨ columns.length = 1 ∧ s.distinct = false
    · rw [if_pos hwritten] at hbody
      obtain ⟨argument, rest, hargument, hbody⟩ := hbody
      exact (if_pos hwritten).mpr ⟨argument, rest, htext.trans (congrArg _ hbody), hargument.iff⟩
    · rw [if_neg hwritten] at hbody
      exact (if_neg hwritten).mpr (htext.trans (congrArg _ hbody))

/-- The sum of a column. -/
theorem compile_aggregate_argument_sum :
    let t : Target := { dialect := .generic }
    let q : Query := runAll [.fromTable "t", .asAggregate .sum ["a"]] {}
    q.method = .aggregate ∧
    ∃ (c : Compiled) (prologue : Written) (argument rest : String), compile t q = .ok c ∧
      c.rawSql = "SELECT SUM(\"a\") AS \"sum\" FROM \"t\"" ∧
      c.rawSql = prologue.leading.text ++
        ("SELECT " ++ ("SUM" ++ "(" ++ argument ++ ") " ++ "AS " ++ "\"sum\"" ++ rest)) ∧
      argument ≠ "*" ∧ argument ∈ ["\"a\""] := by
  intro t q
  have hsql : (compile t q).toOption.map (·.rawSql) =
      some "SELECT SUM(\"a\") AS \"sum\" FROM \"t\"" := by
    decide +kernel
  have hcolumns : ["a"].map t.dialect.wrap = ["\"a\""] := by decide +kernel
  have hname : t.dialect.quoteIdentifier (AggregateFunc.resultName .sum) = "\"sum\"" := by
    decide +kernel
  cases hc : compile t q with
  | error e =>
    rw [hc] at hsql
    exact nomatch hsql
  | ok c =>
    obtain ⟨prologue, -, harguments⟩ := compile_aggregate_argument t q rfl hc
    have haggregate : (q.sections t).aggregate = some ⟨.sum, ["a"]⟩ := rfl
    rw [haggregate] at harguments
    obtain ⟨argument, rest, hwhole, hargument⟩ := harguments
    have hstar : ∀ column ∈ ["a"], trim column ≠ "*" := by decide +kernel
    obtain ⟨hnostar, hmem⟩ := hargument hstar
    rw [hc] at hsql
    rw [hname] at hwhole
    rw [hcolumns] at hmem
    refine ⟨rfl, c, prologue, argument, rest, rfl, Option.some.inj hsql, hwhole, ?_,
      hmem.mpr ⟨rfl, rfl⟩⟩
    exact fun h => absurd (hnostar.mp h) (by decide)

/-- The sum of distinct rows is one of everything. -/
theorem compile_sum_distinct :
    let t : Target := { dialect := .generic }
    let q : Query := runAll [.fromTable "t", .distinctRows, .asAggregate .sum ["a"]] {}
    q.method = .aggregate ∧
      (Sections.of t.dialect q).aggregate.map (·.columns) = some ["a"] ∧
      (compile t q).toOption.map (·.rawSql) =
        some ("SELECT SUM(*) AS \"sum\" FROM " ++
          "(SELECT DISTINCT \"a\" FROM \"t\") AS \"sumQuery\"") := by
  decide +kernel

end SqlBuilder
