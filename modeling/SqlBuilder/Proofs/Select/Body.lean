import SqlBuilder.Proofs.Paging.Place

/-!
# The text of a select or an aggregate

A select is the texts of its sections with the clause of its paging, and so is an aggregate that is
written in place of the select list.  Any other aggregate is a function of all rows of a derived
table, which is a select without paging.  `BodyText` is either of them, and `BodyText.Spells` says
which select is the one whose sections are written.

What is rendered has such a text (`renderBody_spelled`), and a compiled statement is its prologue
before it (`compile_body`).
-/

namespace SqlBuilder

/-! ## Texts -/

/-- The text of a select or an aggregate. -/
inductive BodyText where
  /-- A select with the clause of its paging. -/
  | select (w : SelectText) (page : PagingClause)
  /-- A function of all rows of a derived table. -/
  | derived (function : AggregateFunc) (rows : SelectText)

namespace BodyText

/-- The whole text. -/
def written (d : Dialect) : BodyText → Written
  | select w page => w.paged d page
  | derived function rows => ⟨wrapAggregate d function rows.whole.text, rows.whole.bindings⟩

theorem written_isEmpty (d : Dialect) (body : BodyText) :
    (body.written d).text.isEmpty = false := by
  cases body with
  | select w page => exact w.paged_isEmpty d page
  | derived function rows => simp [written, wrapAggregate]

/-- The texts are those of a select or an aggregate `s`, and `rows` is the select whose sections are
written. -/
inductive Spells (t : Target) (env : Env) (s : Sections Rendered) :
    Sections Rendered → BodyText → Prop
  | select {rows : Sections Rendered} {w : SelectText} {page : PagingClause}
      (hmethod : s.method ≠ .aggregate) (hcounted : s.Counted t env rows)
      (hw : w.Spells t env rows)
      (hpage : Paging.clause t.pagination s.hasOrders ⟨s.limit, s.offset⟩ = .ok page) :
      Spells t env s rows (.select w page)
  /-- An aggregate in place of the select list, or a statement that is none to the dialect. -/
  | inPlace {rows : Sections Rendered} {w : SelectText} (hmethod : s.method = .aggregate)
      (hform : s.aggregateForm = .flat rows) (hw : w.Spells t env rows) :
      Spells t env s rows (.select w .all)
  /-- A statement that takes up no clauses. -/
  | hollow {w : SelectText} (hmethod : s.method = .aggregate)
      (hform : s.aggregateForm = .hollow) (hw : w.Spells t env {}) :
      Spells t env s {} (.select w .all)
  | derived {function : AggregateFunc} {rows : Sections Rendered} {w : SelectText}
      (hmethod : s.method = .aggregate) (hform : s.aggregateForm = .wrapped function rows)
      (hw : w.Spells t (env.enter s.scope) rows) :
      Spells t env s rows (.derived function w)

end BodyText

/-! ## Selects without paging -/

section Unpaged

variable {t : Target} {env : Env} {s : Sections Rendered} {sql : String}

/-- A select without paging is the texts of its sections. -/
theorem renderSections_unpaged (hlimit : s.limit = 0) (hoffset : s.offset = 0)
    (h : (renderSections t env s).outcome = .ok sql) :
    ∃ w : SelectText, w.Spells t env s ∧ (renderSections t env s).Writes w.whole := by
  obtain ⟨w, hw, -⟩ := renderSections_spelled h
  exact ⟨w, hw, renderSections_whole hw hlimit hoffset⟩

/-- Without paging there is nothing around a select. -/
theorem renderPlain_of_unpaged (hlimit : s.limit = 0) (hoffset : s.offset = 0) :
    renderPlain t env s = renderSections t env s := by
  unfold renderPlain
  cases t.pagination with
  | topRowNumber => simp [hoffset]
  | rowCount => simp [hlimit, hoffset]
  | limitOffset _ | offsetFetch _ | firstSkip => rfl

end Unpaged

/-! ## Rendered texts -/

/-- A select is written with the clause of its paging. -/
theorem renderBody_paged {t : Target} {env : Env} {s rows : Sections Rendered} {w : SelectText}
    {page : PagingClause} (hmethod : s.method = .select) (hcounted : s.Counted t env rows)
    (hw : w.Spells t env rows)
    (hpage : Paging.clause t.pagination s.hasOrders ⟨s.limit, s.offset⟩ = .ok page) :
    (renderBody t env s).Writes (w.paged t.dialect page) := by
  have hplain : renderBody t env s = renderPlain t env s := if_neg (by simp [hmethod])
  rw [hplain]
  exact renderPlain_paged hcounted hw hpage

/-- A select compiles to its prologue before the texts of its sections with the clause of its
paging. -/
theorem compile_paged {t : Target} {q : Query} (herror : q.error = none)
    (hmethod : q.method = .select) {prologue : Written} {rows : Sections Rendered} {w : SelectText}
    {page : PagingClause}
    (hprologue : (renderPrologue t (Env.enterStatement t {} (q.sections t))
      ((q.sections t).hoistedCtes t)).Writes prologue)
    (hcounted : (q.sections t).Counted t (Env.enterStatement t {} (q.sections t)) rows)
    (hw : w.Spells t (Env.enterStatement t {} (q.sections t)) rows)
    (hpage : Paging.clause t.pagination (q.sections t).hasOrders
      ⟨(q.sections t).limit, (q.sections t).offset⟩ = .ok page) :
    compile t q = bind (prologue.leading ++ w.paged t.dialect page).text
      (prologue.leading ++ w.paged t.dialect page).bindings t.paramStyle := by
  have hselect : (q.sections t).method = .select := hmethod
  exact compile_of_writes herror (.inl hmethod) hprologue
    (renderBody_paged hselect hcounted hw hpage) (w.paged_isEmpty t.dialect page)

/-- **Selects and aggregates.**  What is rendered is the texts of the sections of a select, in the
statement itself or in a derived table. -/
theorem renderBody_spelled {t : Target} {env : Env} {s : Sections Rendered} {sql : String}
    (h : (renderBody t env s).outcome = .ok sql) :
    ∃ (rows : Sections Rendered) (body : BodyText),
      body.Spells t env s rows ∧ (renderBody t env s).Writes (body.written t.dialect) := by
  by_cases hmethod : s.method = .aggregate
  · have hall : ∀ w : SelectText, w.paged t.dialect .all = w.whole :=
      SelectText.paged_all t.dialect
    cases hform : s.aggregateForm with
    | flat rows =>
      have hbody : renderBody t env s = renderSections t env rows := by
        rw [renderBody, if_pos hmethod, hform]
      rw [hbody] at h ⊢
      obtain ⟨⟨hlimit, hoffset⟩, -⟩ := Sections.of_aggregateForm (.inl hform)
      obtain ⟨w, hw, hwrites⟩ := renderSections_unpaged hlimit hoffset h
      refine ⟨rows, .select w .all, .inPlace hmethod hform hw, ?_⟩
      rwa [BodyText.written, hall]
    | wrapped function rows =>
      have hbody : renderBody t env s = renderPlain t (env.enter s.scope) rows >>= fun sql =>
          pure (wrapAggregate t.dialect function sql) := by
        rw [renderBody, if_pos hmethod, hform]
      obtain ⟨⟨hlimit, hoffset⟩, -⟩ := Sections.of_aggregateForm (.inr ⟨function, hform⟩)
      rw [renderPlain_of_unpaged hlimit hoffset] at hbody
      rw [hbody] at h ⊢
      obtain ⟨inner, hinner, -⟩ := Emit.of_bind_ok h
      obtain ⟨w, hw, hwrites⟩ := renderSections_unpaged hlimit hoffset hinner
      refine ⟨rows, .derived function w, .derived hmethod hform hw, ?_⟩
      rw [hwrites, Emit.bind_mk]
      simp [Emit.Writes, BodyText.written]
    | hollow =>
      have hbody : renderBody t env s = renderSections t env {} := by
        rw [renderBody, if_pos hmethod, hform]
      rw [hbody] at h ⊢
      obtain ⟨w, hw, hwrites⟩ := renderSections_unpaged rfl rfl h
      refine ⟨{}, .select w .all, .hollow hmethod hform hw, ?_⟩
      rwa [BodyText.written, hall]
  · have hbody : renderBody t env s = renderPlain t env s := if_neg hmethod
    rw [hbody] at h ⊢
    obtain ⟨rows, w, page, hcounted, hw, hpage, hwrites⟩ := renderPlain_pages h
    exact ⟨rows, .select w page, .select hmethod hcounted hw hpage, hwrites⟩

/-- **Statements.**  A compiled select or aggregate is its prologue before its text. -/
theorem compile_body {t : Target} {q : Query} {c : Compiled}
    (hmethod : q.method = .select ∨ q.method = .aggregate) (hc : compile t q = .ok c) :
    ∃ (prologue : Written) (rows : Sections Rendered) (body : BodyText),
      (renderPrologue t (Env.enterStatement t {} (q.sections t))
        ((q.sections t).hoistedCtes t)).Writes prologue ∧
      body.Spells t (Env.enterStatement t {} (q.sections t)) (q.sections t) rows ∧
      (⟨c.rawSql, c.bindings⟩ : Written) = prologue.leading ++ body.written t.dialect := by
  obtain ⟨prologue, sql, hprologue, hsql, hstatement⟩ := compile_statement hmethod hc
  obtain ⟨rows, body, hspells, hwrites⟩ := renderBody_spelled hsql
  exact ⟨prologue, rows, body, hprologue, hspells,
    hstatement _ hwrites (body.written_isEmpty t.dialect)⟩

end SqlBuilder
