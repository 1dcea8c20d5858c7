import SqlBuilder.Proofs.Condition.Blank
import SqlBuilder.Proofs.Mutation
import SqlBuilder.Proofs.Select.Lists
import SqlBuilder.Query.Method

/-!
# No condition is lost

The WHERE of a statement, the HAVING of a select and the ON of a join have the texts of all
conditions in their lists, each once and in their order, with nothing but connectives between them;
only a blank group has no text.  So a section of conditions is left out just if all of them are
blank (`KeepsConditions`).

This holds of every select, be it a statement, an arm or an operand, of the derived table of an
aggregate, and of deletes; an update has its WHERE, but no joins, so that their constraints are lost
(`compile_keeps_conditions`).  Some aggregates take up tests of their columns, which come after the
conditions.  An aggregate that needs a derived table is lost as a whole, with its conditions, in a
query that takes up no clauses (`Sections.IsHollow`).
-/

namespace SqlBuilder

variable {t : Target} {env : Env}

/-! ## Lists of conditions -/

/-- The text of a section of conditions that has all of them in it, after its keyword. -/
structure KeepsConditions (t : Target) (env : Env) (keyword : String)
    (cs : List (Condition Subquery)) (sql : String) : Prop where
  exists_texts : ∃ (texts : List (Option String)) (separators : List String),
    List.Forall₂ (Condition.RendersTo t env) cs texts ∧
      separators.length = (texts.filterMap id).length ∧
      (∀ separator ∈ separators, separator ∈ ["", " AND ", " OR "]) ∧
      sql = keywordText keyword
        (String.join (List.zipWith (· ++ ·) separators (texts.filterMap id)))
  /-- Only a blank group has no text. -/
  eq_none_iff : ∀ c ∈ cs, c.RendersTo t env none ↔ (∃ s, c.kind = .group s) ∧ c.Blank t env
  /-- The section is left out just if all conditions are blank. -/
  eq_empty_iff : sql = "" ↔ ∀ c ∈ cs, c.Blank t env

/-- Every text that is there is joined to what stands before, after a connective if it needs one. -/
theorem joinConditions_eq_join (before : String) (parts : List (Bool × Option String)) :
    ∃ separators : List String,
      separators.length = ((parts.map Prod.snd).filterMap id).length ∧
      (∀ separator ∈ separators, separator ∈ ["", " AND ", " OR "]) ∧
      joinConditions before parts = before ++
        String.join (List.zipWith (· ++ ·) separators ((parts.map Prod.snd).filterMap id)) := by
  induction parts generalizing before with
  | nil => exact ⟨[], rfl, nofun, by simp [joinConditions]⟩
  | cons part parts ih =>
    obtain ⟨isOr, text⟩ := part
    cases text with
    | none => exact ih before
    | some sql =>
      let separator := if before.isEmpty then "" else connective isOr
      obtain ⟨separators, hlength, hmem, hjoin⟩ := ih (before ++ separator ++ sql)
      refine ⟨separator :: separators, ?_, ?_, ?_⟩
      · simpa using hlength
      · refine List.forall_mem_cons.mpr ⟨?_, hmem⟩
        cases isOr <;> by_cases hbefore : before.isEmpty <;> simp [separator, hbefore, connective]
      · have hstep : (if before.isEmpty then sql else before ++ connective isOr ++ sql) =
            before ++ separator ++ sql := by
          by_cases hbefore : before = "" <;> simp [separator, hbefore]
        rw [joinConditions, hstep, hjoin]
        simp [String.append_assoc]

theorem keywordText_eq_empty_iff {keyword sql : String} :
    keywordText keyword sql = "" ↔ sql = "" := by
  unfold keywordText
  split <;> simp_all

/-- A rendered list of conditions has all of them in it. -/
theorem keepsConditions_of_ok {cs : List (Condition Subquery)} {sql : String} (keyword : String)
    (h : (renderConditions t env (cs.map (Condition.map (Subquery.rendered t)))).outcome =
      .ok sql) : KeepsConditions t env keyword cs (keywordText keyword sql) := by
  obtain ⟨parts, hparts, rfl⟩ := renderConditions_map_eq_ok_iff.mp h
  obtain ⟨separators, hlength, hmem, hjoin⟩ := joinConditions_eq_join "" parts
  refine ⟨⟨parts.map Prod.snd, separators, ?_, hlength, hmem, ?_⟩, ?_, ?_⟩
  · rw [List.forall₂_map_right_iff]
    exact hparts.imp fun c part => And.right
  · rw [hjoin, String.empty_append]
  · refine (forall_mem_iff_of_forall₂ hparts (Q := fun _ => True) fun c _ part hpart => ?_).mpr
      fun _ _ => trivial
    refine iff_true_intro ⟨fun hnone => hnone.eq_none_iff.mp rfl, fun hblank => ?_⟩
    rw [← hpart.2.eq_none_iff.mpr hblank]
    exact hpart.2
  · rw [keywordText_eq_empty_iff, renderConditions_eq_empty_iff hparts]

/-! ## Joins -/

/-- The text of a join that has all of its constraints in it, or of a cross join, which has none. -/
def KeepsConstraints (t : Target) (env : Env) (j : JoinSections Subquery) (sql : String) : Prop :=
  ∃ table constraints, sql = j.kind.keyword ++ " " ++ table ++ constraints ∧
    if j.kind = .cross then constraints = ""
    else KeepsConditions t env " ON " j.constraints constraints

/-- The text of joins that have all of their constraints in them. -/
def KeepsJoins (t : Target) (env : Env) (joins : List (JoinSections Subquery)) (sql : String) :
    Prop :=
  ∃ texts, List.Forall₂ (KeepsConstraints t env) joins texts ∧ sql = " ".intercalate texts

theorem keepsConstraints_of_ok {j : JoinSections Subquery} {sql : String}
    (h : ((j.map (Subquery.rendered t)).render t env).outcome = .ok sql) :
    KeepsConstraints t env j sql := by
  unfold JoinSections.render at h
  split at h
  case h_1 => nomatch h
  case h_2 source hsource =>
    obtain ⟨table, -, h⟩ := Emit.of_bind_ok h
    obtain ⟨constraints, hconstraints, h⟩ := Emit.of_bind_ok h
    have hkeeps := keepsConditions_of_ok " ON " hconstraints
    rw [← Except.ok.inj h]
    by_cases hcross : j.kind = .cross
    · refine ⟨table, "", ?_, by rw [if_pos hcross]⟩
      simp [joinText, JoinSections.map, hcross]
    · refine ⟨table, keywordText " ON " constraints, ?_, by rwa [if_neg hcross]⟩
      unfold joinText keywordText
      by_cases hempty : constraints = "" <;>
        simp [JoinSections.map, hcross, hempty, String.append_assoc]

theorem keepsJoins_of_ok {s : Sections Rendered} {joins : List (JoinSections Subquery)}
    {sql : String} (hs : s.joins = joins.map (JoinSections.map (Subquery.rendered t)))
    (h : (renderJoins t env s).outcome = .ok sql) : KeepsJoins t env joins sql := by
  obtain ⟨texts, htexts, h⟩ := Emit.of_bind_ok h
  rw [hs, Emit.mapM_eq_ok_iff, List.forall₂_map_left_iff] at htexts
  exact ⟨texts, htexts.imp fun j text => keepsConstraints_of_ok, (Except.ok.inj h).symm⟩

/-! ## Selects -/

/-- The sections of a select with all conditions in them. -/
structure SelectText.Keeps (w : SelectText) (t : Target) (env : Env)
    (filters havings : List (Condition Subquery)) (joins : List (JoinSections Subquery)) :
    Prop where
  filters : KeepsConditions t env "WHERE " filters w.filters.text
  havings : KeepsConditions t env "HAVING " havings w.havings.text
  joins : KeepsJoins t env joins w.joins.text

/-- The text of a select or an aggregate with all conditions in it; those of a derived table are
rendered within the scope of the query once more. -/
inductive BodyText.Keeps (t : Target) (env : Env) (scope : Scope)
    (filters havings : List (Condition Subquery)) (joins : List (JoinSections Subquery)) :
    BodyText → Prop
  | select {w : SelectText} {page : PagingClause} (hw : w.Keeps t env filters havings joins) :
      Keeps t env scope filters havings joins (.select w page)
  | derived {function : AggregateFunc} {w : SelectText}
      (hw : w.Keeps t (env.enter scope) filters havings joins) :
      Keeps t env scope filters havings joins (.derived function w)

/-- A rendered section of conditions has all of them in it. -/
theorem keepsSection_of_ok {conditions : List (Condition Rendered)} {cs : List (Condition Subquery)}
    {keyword sql : String} (hcs : conditions = cs.map (Condition.map (Subquery.rendered t)))
    (h : (renderConditions t env conditions >>= fun text =>
      pure (keywordText keyword text)).outcome = .ok sql) :
    KeepsConditions t env keyword cs sql := by
  obtain ⟨text, htext, h⟩ := Emit.of_bind_ok h
  rw [hcs] at htext
  rw [← Except.ok.inj h]
  exact keepsConditions_of_ok keyword htext

theorem SelectText.Spells.keeps {w : SelectText} {rows : Sections Rendered}
    (hw : w.Spells t env rows) {s : Sections Subquery}
    (hfilters : rows.filters = (s.map (Subquery.rendered t)).filters)
    (hhavings : rows.havings = (s.map (Subquery.rendered t)).havings)
    (hjoins : rows.joins = (s.map (Subquery.rendered t)).joins) :
    w.Keeps t env s.filters s.havings s.joins where
  filters := keepsSection_of_ok hfilters (congrArg Emit.outcome hw.filters)
  havings := keepsSection_of_ok hhavings (congrArg Emit.outcome hw.havings)
  joins := keepsJoins_of_ok hjoins (congrArg Emit.outcome hw.joins)

theorem Sections.AggregateForm.map_eq_flat_iff {σ τ : Type} {f : σ → τ} {form : AggregateForm σ}
    {rows : Sections τ} :
    form.map f = .flat rows ↔ ∃ rows', form = .flat rows' ∧ rows'.map f = rows := by
  cases form <;> simp [AggregateForm.map]

theorem Sections.AggregateForm.map_eq_wrapped_iff {σ τ : Type} {f : σ → τ} {form : AggregateForm σ}
    {function : AggregateFunc} {rows : Sections τ} :
    form.map f = .wrapped function rows ↔
      ∃ rows', form = .wrapped function rows' ∧ rows'.map f = rows := by
  cases form <;> simp [AggregateForm.map, and_assoc]

/-- An aggregate that needs a derived table, in a query that takes up no clauses. -/
def Sections.IsHollow {σ : Type} (s : Sections σ) : Prop :=
  s.method = .aggregate ∧ s.accepts = false ∧
    ∃ a, s.aggregate = some a ∧ (a.columns.length ≠ 1 ∨ s.distinct = true)

/-- These are the aggregates that stand for a select of nothing. -/
theorem Sections.aggregateForm_eq_hollow_iff {σ : Type} {s : Sections σ}
    (hmethod : s.method = .aggregate) : s.aggregateForm = .hollow ↔ s.IsHollow := by
  unfold aggregateForm IsHollow
  cases s.aggregate with
  | none => simp
  | some a =>
    dsimp only
    split
    case isTrue hplace =>
      have hdistinct : s.distinct = false := by simpa using hplace.2
      simp [hplace.1, hdistinct]
    case isFalse hplace =>
      have hderived : a.columns.length ≠ 1 ∨ s.distinct = true := by
        simpa [Decidable.imp_iff_not_or] using hplace
      cases haccepts : s.accepts with
      | true =>
        rw [if_neg (by simp)]
        split <;> simp
      | false => simp [hmethod, hderived]

/-- A select of nothing has no conditions. -/
theorem renderSections_empty : renderSections t env {} = pure "SELECT *" := by
  unfold renderSections renderHead
  cases t.pagination <;> rfl

theorem Sections.AggregateForm.map_eq_hollow_iff {σ τ : Type} {f : σ → τ} {form : AggregateForm σ} :
    form.map f = .hollow ↔ form = .hollow := by
  cases form <;> simp [AggregateForm.map]

/-- Numbering the rows of a select leaves its conditions alone. -/
theorem Sections.Counted.conditions {s rows : Sections Rendered} (h : s.Counted t env rows) :
    rows.filters = s.filters ∧ rows.havings = s.havings ∧ rows.joins = s.joins := by
  obtain ⟨-, -, orders, -, rfl⟩ | ⟨-, rfl⟩ := h.cases <;> exact ⟨rfl, rfl, rfl⟩

/-- The select that is written in the place of an aggregate has all of its conditions. -/
theorem SelectText.Spells.keeps_aggregate {w : SelectText} {rows s : Sections Subquery}
    (hw : w.Spells t env (rows.map (Subquery.rendered t)))
    (hform : s.aggregateForm = .flat rows ∨ ∃ function, s.aggregateForm = .wrapped function rows) :
    ∃ tests, w.Keeps t env (s.filters ++ tests) s.havings s.joins := by
  obtain ⟨-, ⟨tests, hfilters⟩, hhavings, hjoins⟩ := Sections.of_aggregateForm hform
  refine ⟨tests, ?_⟩
  rw [← hfilters, ← hhavings, ← hjoins]
  exact hw.keeps rfl rfl rfl

/-- The text of a select or an aggregate with all conditions in it; an aggregate may test its
columns after them. -/
def SelectKeeps (t : Target) (env : Env) (s : Sections Subquery) (sql : String) : Prop :=
  ∃ (body : BodyText) (tests : List (Condition Subquery)),
    body.Keeps t env s.scope (s.filters ++ tests) s.havings s.joins ∧
      (s.method ≠ .aggregate → tests = []) ∧ sql = (body.written t.dialect).text

/-- The text of a select or an aggregate with all conditions in it, unless it is lost as a whole. -/
def BodyKeeps (t : Target) (env : Env) (s : Sections Subquery) (sql : String) : Prop :=
  ¬s.IsHollow ∧ SelectKeeps t env s sql ∨ s.IsHollow ∧ sql = "SELECT *"

/-- What is rendered has all conditions in it, unless it is an aggregate that is lost. -/
theorem renderBody_keeps {s : Sections Subquery} {sql : String}
    (h : (renderBody t env (s.map (Subquery.rendered t))).outcome = .ok sql) :
    BodyKeeps t env s sql := by
  obtain ⟨rows, body, hspells, hwrites⟩ := renderBody_spelled h
  have hsql : sql = (body.written t.dialect).text := by
    rw [hwrites] at h
    exact (Except.ok.inj h).symm
  have hmap := s.aggregateForm_map (Subquery.rendered t)
  have hhollow (hmethod : s.method = .aggregate) : s.aggregateForm = .hollow ↔ s.IsHollow :=
    Sections.aggregateForm_eq_hollow_iff hmethod
  cases hspells with
  | select hmethod hcounted hw hpage =>
    obtain ⟨hfilters, hhavings, hjoins⟩ := hcounted.conditions
    refine .inl ⟨fun hlost => hmethod hlost.1, _, [], .select ?_, fun _ => rfl, hsql⟩
    rw [List.append_nil]
    exact hw.keeps hfilters hhavings hjoins
  | inPlace hmethod hform hw =>
    obtain ⟨rows, hrows, rfl⟩ := Sections.AggregateForm.map_eq_flat_iff.mp (hmap.symm.trans hform)
    obtain ⟨tests, hkeeps⟩ := hw.keeps_aggregate (.inl hrows)
    have hkept : ¬s.IsHollow := (hhollow hmethod).not.mp (by simp [hrows])
    exact .inl ⟨hkept, _, tests, .select hkeeps, fun h => absurd hmethod h, hsql⟩
  | hollow hmethod hform hw =>
    have hlost : s.IsHollow :=
      (hhollow hmethod).mp (Sections.AggregateForm.map_eq_hollow_iff.mp (hmap.symm.trans hform))
    have hbody : renderBody t env (s.map (Subquery.rendered t)) = pure "SELECT *" := by
      rw [renderBody, if_pos hmethod, hform, ← renderSections_empty]
    rw [hbody] at h
    exact .inr ⟨hlost, (Except.ok.inj h).symm⟩
  | derived hmethod hform hw =>
    obtain ⟨rows, hrows, rfl⟩ :=
      Sections.AggregateForm.map_eq_wrapped_iff.mp (hmap.symm.trans hform)
    obtain ⟨tests, hkeeps⟩ := hw.keeps_aggregate (.inr ⟨_, hrows⟩)
    have hkept : ¬s.IsHollow := (hhollow hmethod).not.mp (by simp [hrows])
    exact .inl ⟨hkept, _, tests, .derived hkeeps, fun h => absurd hmethod h, hsql⟩

theorem BodyKeeps.isEmpty {s : Sections Subquery} {sql : String} (h : BodyKeeps t env s sql) :
    sql.isEmpty = false := by
  obtain ⟨-, body, -, -, -, rfl⟩ | ⟨-, rfl⟩ := h
  · exact body.written_isEmpty t.dialect
  · rfl

/-- A subquery that is rendered has all conditions in it, whether it is a select or the operand of
EXISTS. -/
theorem Subquery.keeps_conditions {r : Query} {sql : String}
    (h : ((Subquery.rendered t ⟨r⟩).select env).outcome = .ok sql ∨
      ((Subquery.rendered t ⟨r⟩).existsOperand env).outcome = .ok sql) :
    BodyKeeps t (env.enter r.scope) (Sections.of t.dialect r) sql := by
  rw [Subquery.rendered_mk, Query.sections, Sections.of_map] at h
  obtain h | h := h
  · exact renderBody_keeps (s := Sections.of t.dialect r) h
  · exact renderBody_keeps (s := (Sections.of t.dialect r).trimmed) h

/-! ## Statements -/

/-- Without its clauses for joins a query says the same, its joins apart. -/
theorem Sections.of_unjoined {σ : Type} (d : Dialect) (q : QueryOver σ) :
    of d (q.clearComponent .join) = { of d q with joins := [], hasJoins := false } := by
  have hother : ∀ {component : Component}, component ≠ .join →
      Clauses.ofComponent component (some d) (Clauses.clear .join q.clauses) =
        Clauses.ofComponent component (some d) q.clauses :=
    fun h => Clauses.ofComponent_clear h _ _
  have hjoin : Clauses.ofComponent .join (some d) (Clauses.clear .join q.clauses) = [] :=
    Clauses.ofComponent_clear_self _ _ _
  simp [of, QueryOver.clearComponent, QueryOver.limitFor, QueryOver.offsetFor, QueryOver.scope,
    Clauses.pick?, Clauses.has, hother, hjoin]

/-- The joins of an update are not even looked at. -/
theorem compile_update_unjoined {q : Query} (hmethod : q.method = .update) :
    compile t (q.clearComponent .join) = compile t q := by
  have hsections : Query.sections t (q.clearComponent .join) =
      { q.sections t with joins := [], hasJoins := false } := by
    rw [Query.sections, Query.sections, Sections.of_map, Sections.of_unjoined, Sections.of_map]
    rfl
  have hupdate : (q.sections t).method = .update := hmethod
  have hrender : renderMethod t {} { q.sections t with joins := [], hasJoins := false } =
      renderMethod t {} (q.sections t) := by
    unfold renderMethod renderStatement renderData
    simp only [hupdate]
    rfl
  rw [compile, compile, hsections, hrender]
  rfl

/-- The text of an update or a delete with all conditions of its WHERE in it.  A delete has the
constraints of its joins as well, whereas an update is written without joins: it is what is
assigned to the target, and its WHERE. -/
inductive MutationKeeps (t : Target) (env : Env) (s : Sections Subquery) : String → Prop
  | update {table assignments filters : String} {update : UpdateClause}
      (hmethod : s.method = .update)
      (htable : (renderTarget t env (s.map (Subquery.rendered t)) .update).outcome = .ok table)
      (hupdate : s.update = some update)
      (hassignments : (update.render t env).outcome = .ok assignments)
      (hfilters : KeepsConditions t env "WHERE " s.filters filters) :
      MutationKeeps t env s
        (joinSections ["UPDATE " ++ table ++ " SET " ++ assignments, filters])
  | delete {table filters : String} (hmethod : s.method = .delete) (hjoins : s.hasJoins = false)
      (hfilters : KeepsConditions t env "WHERE " s.filters filters) :
      MutationKeeps t env s (joinSections ["DELETE FROM " ++ table, filters])
  | deleteJoined {target table joins filters : String} (hmethod : s.method = .delete)
      (hjoins : s.hasJoins) (hkeeps : KeepsJoins t env s.joins joins)
      (hfilters : KeepsConditions t env "WHERE " s.filters filters) :
      MutationKeeps t env s
        (joinSections ["DELETE " ++ target ++ " FROM " ++ table ++ " " ++ joins, filters])

theorem renderData_of_select {s : Sections Rendered}
    (h : s.method = .select ∨ s.method = .aggregate) :
    renderData t env s = renderBody t env s := by
  unfold renderData
  obtain h | h := h <;> rw [h]

theorem MutationKeeps.isEmpty {s : Sections Subquery} {sql : String}
    (h : MutationKeeps t env s sql) : sql.isEmpty = false := by
  cases h <;>
    rw [joinSections_pair (by simp)] <;>
    simp

/-- An update or a delete has all conditions in it. -/
theorem renderData_keeps {s : Sections Subquery} {sql : String}
    (hmethod : s.method = .update ∨ s.method = .delete)
    (h : (renderData t env (s.map (Subquery.rendered t))).outcome = .ok sql) :
    MutationKeeps t env s sql := by
  unfold renderData at h
  obtain hmethod | hmethod := hmethod
  · have hmapped : (s.map (Subquery.rendered t)).method = .update := hmethod
    rw [hmapped] at h
    obtain ⟨table, update, assignments, filters, htable, hupdate, hassignments, hfilters, rfl⟩ :=
      renderUpdate_ok h
    exact .update hmethod htable hupdate hassignments (keepsSection_of_ok rfl hfilters)
  · have hmapped : (s.map (Subquery.rendered t)).method = .delete := hmethod
    rw [hmapped] at h
    obtain ⟨table, head, filters, -, hhead, hfilters, rfl⟩ := renderDelete_ok h
    have hfilters := keepsSection_of_ok rfl hfilters
    cases hjoins : s.hasJoins with
    | true =>
      obtain ⟨target, joins, -, hrender, rfl⟩ := renderDeleteHead_ok hjoins hhead
      exact .deleteJoined hmethod hjoins (keepsJoins_of_ok rfl hrender) hfilters
    | false =>
      rw [renderDeleteHead, if_neg (by simp [Sections.map, hjoins])] at hhead
      rw [← Except.ok.inj hhead]
      exact .delete hmethod hjoins hfilters

/-- **No condition is lost, but those of an update's joins.**  A compiled select or delete has every
condition that the dialect sees in the WHERE, the HAVING and the ON of a join, each once and in
order, unless it is a blank group; and it is written without one of these only if all of its
conditions are blank.  So does every select within it, and an update as far as its WHERE goes.  The
constraints of the joins of an update are lost: it is compiled as if it had no joins.  Of the
aggregates, only one that needs a derived table in a query that takes up no clauses loses its
conditions, and everything else. -/
theorem compile_keeps_conditions {q : Query} {c : Compiled} (hc : compile t q = .ok c) :
    let s := Sections.of t.dialect q
    let env := Env.enterStatement t {} (q.sections t)
    (q.method = .select ∨ q.method = .aggregate →
      ∃ (prologue : Written) (sql : String),
        (renderPrologue t env ((q.sections t).hoistedCtes t)).Writes prologue ∧
        BodyKeeps t env s sql ∧ c.rawSql = prologue.leading.text ++ sql) ∧
    (q.method = .update ∨ q.method = .delete →
      ∃ (prologue : Written) (sql : String),
        (renderPrologue t env ((q.sections t).hoistedCtes t)).Writes prologue ∧
        MutationKeeps t env s sql ∧ c.rawSql = prologue.leading.text ++ sql) ∧
    (q.method = .update → compile t (q.clearComponent .join) = .ok c) ∧
    ∀ (r : Query) (env : Env) (sql : String),
      ((Subquery.rendered t ⟨r⟩).select env).outcome = .ok sql ∨
        ((Subquery.rendered t ⟨r⟩).existsOperand env).outcome = .ok sql →
      BodyKeeps t (env.enter r.scope) (Sections.of t.dialect r) sql := by
  intro s env
  -- the surroundings mention the sections as well, which are to stay as they are there
  have hmap (render : Sections Rendered → Emit String) {sql : String}
      (h : (render (q.sections t)).outcome = .ok sql) :
      (render (s.map (Subquery.rendered t))).outcome = .ok sql := by
    rwa [Query.sections, Sections.of_map] at h
  refine ⟨fun hmethod => ?select, fun hmethod => ?mutation,
    fun hmethod => (compile_update_unjoined hmethod).trans hc,
    fun r env sql => Subquery.keeps_conditions⟩
  case select =>
    have hselect : (q.sections t).method = .select ∨ (q.sections t).method = .aggregate := hmethod
    obtain ⟨prologue, sql, hprologue, hsql, hwhole⟩ :=
      compile_data (hselect.imp_right .inl) hc
    rw [renderData_of_select hselect] at hsql
    have hkeeps : BodyKeeps t env s sql := renderBody_keeps (hmap (renderBody t env) hsql)
    exact ⟨prologue, sql, hprologue, hkeeps, hwhole hkeeps.isEmpty⟩
  case mutation =>
    obtain ⟨prologue, sql, hprologue, hsql, hwhole⟩ :=
      compile_data (.inr (.inr hmethod)) hc
    have hkeeps : MutationKeeps t env s sql :=
      renderData_keeps hmethod (hmap (renderData t env) hsql)
    exact ⟨prologue, sql, hprologue, hkeeps, hwhole hkeeps.isEmpty⟩

theorem compile_keeps_conditions_delete :
    let t : Target := { dialect := .generic }
    let q : Query :=
      runAll [.fromTable "t", .condition (.group (.fresh [])), .condition .or,
        .condition (.null "a"), .asDelete] {}
    ∃ c, compile t q = .ok c ∧ ∃ (prologue : Written) (sql : String),
      MutationKeeps t (Env.enterStatement t {} (q.sections t)) (Sections.of t.dialect q) sql ∧
        c.rawSql = prologue.leading.text ++ sql := by
  intro t q
  obtain ⟨c, hc⟩ : ∃ c, compile t q = .ok c := exists_compile_of_failure? (by decide +kernel)
  obtain ⟨prologue, sql, -, hkeeps, hsql⟩ := (compile_keeps_conditions hc).2.1 (.inr rfl)
  exact ⟨c, hc, prologue, sql, hkeeps, hsql⟩

/-- An update drops its join with the constraint, and so it changes every row of its table. -/
theorem compile_update_drops_joins :
    let t : Target := { dialect := .generic }
    let steps : List Step :=
      [.fromTable "users", .join .inner "bans" "bans.user_id" "users.id"]
    let update : Query := runAll (steps ++ [.asUpdate ["active"] [.int 0]]) {}
    let delete : Query := runAll (.named "users" :: steps ++ [.asDelete]) {}
    (Sections.of t.dialect update).joins.map (·.constraints.length) = [1] ∧
      (compile t update).toOption.map (·.rawSql) = some "UPDATE \"users\" SET \"active\" = ?" ∧
      (compile t delete).toOption.map (·.rawSql) =
        some ("DELETE \"users\" FROM \"users\" " ++
          "INNER JOIN \"bans\" ON \"bans\".\"user_id\" = \"users\".\"id\"") := by
  decide +kernel

/-- A delete is written without its WHERE where the dialect sees nothing in it but a blank group. -/
example :
    let blank : List Step := [.condition (.group (.fresh [])), .condition (.raw ⟨"", []⟩)]
    let q : Query := runAll [.fromTable "t", .condition (.group (.fresh blank)), .asDelete] {}
    (compile { dialect := .generic } q).toOption.map (·.rawSql) = some "DELETE FROM \"t\"" := by
  decide +kernel

end SqlBuilder
