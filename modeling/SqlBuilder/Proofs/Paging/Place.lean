import SqlBuilder.Proofs.Compile
import SqlBuilder.Proofs.Paging.Text
import SqlBuilder.Proofs.Query.Sections

/-!
# Paging is local

A limit and an offset change a select at one place only.  Taking the clauses for them out of a query
(`QueryOver.unpaged`) leaves every other section as it is (`Sections.of_unpaged`), and a compiled
select is the text of its sections with the construct for its paging, inside or around
(`renderPlain_pages`).  So the statements with and without paging differ by exactly that construct
and its values (`compile_unpaged`).

The one exception is the older style with row numbers, which moves the order of the select into a
column of its own.
-/

namespace SqlBuilder

/-! ## Queries without paging -/

section Unpaged

variable {σ : Type}

/-- The query without its clauses for a limit or an offset, whatever dialect they are for. -/
def QueryOver.unpaged (q : QueryOver σ) : QueryOver σ :=
  (q.clearComponent .limit).clearComponent .offset

theorem Clauses.ofComponent_unpaged {c : Component} (hlimit : c ≠ .limit) (hoffset : c ≠ .offset)
    (engine : Option Dialect) (q : QueryOver σ) :
    ofComponent c engine q.unpaged.clauses = ofComponent c engine q.clauses :=
  (ofComponent_clear hoffset engine _).trans (ofComponent_clear hlimit engine _)

theorem QueryOver.limitFor_unpaged (q : QueryOver σ) (engine : Option Dialect) :
    q.unpaged.limitFor engine = 0 := by
  have hnone : Clauses.ofComponent .limit engine q.unpaged.clauses = [] :=
    (Clauses.ofComponent_clear (by decide) engine _).trans
      (Clauses.ofComponent_clear_self .limit engine _)
  rw [limitFor, Clauses.pick?, hnone]
  rfl

theorem QueryOver.offsetFor_unpaged (q : QueryOver σ) (engine : Option Dialect) :
    q.unpaged.offsetFor engine = 0 := by
  have hnone : Clauses.ofComponent .offset engine q.unpaged.clauses = [] :=
    Clauses.ofComponent_clear_self .offset engine _
  rw [offsetFor, Clauses.pick?, hnone]
  rfl

/-- Without its clauses for a limit and an offset a query says the same, its paging apart. -/
theorem Sections.of_unpaged (d : Dialect) (q : QueryOver σ) :
    Sections.of d q.unpaged = (Sections.of d q).unpaged := by
  have hkept : ∀ c, c ≠ .limit → c ≠ .offset →
      Clauses.ofComponent c (some d) q.unpaged.clauses = Clauses.ofComponent c (some d) q.clauses :=
    fun c hlimit hoffset => Clauses.ofComponent_unpaged hlimit hoffset (some d) q
  have hpick : ∀ c, c ≠ .limit → c ≠ .offset →
      Clauses.pick? c (some d) q.unpaged.clauses = Clauses.pick? c (some d) q.clauses := by
    intro c hlimit hoffset
    rw [Clauses.pick?, hkept c hlimit hoffset, Clauses.pick?]
  have hhas : ∀ c, c ≠ .limit → c ≠ .offset →
      Clauses.has c (some d) q.unpaged.clauses = Clauses.has c (some d) q.clauses := by
    intro c hlimit hoffset
    rw [Clauses.has, hkept c hlimit hoffset, Clauses.has]
  simp (disch := decide) only [Sections.of, Sections.unpaged, hkept, hpick, hhas,
    QueryOver.limitFor_unpaged, QueryOver.offsetFor_unpaged]
  rfl

/-- The same with the subqueries rendered. -/
theorem Query.sections_unpaged (t : Target) (q : Query) :
    Query.sections t q.unpaged = (q.sections t).unpaged := by
  rw [Query.sections, Sections.of_map, Sections.of_unpaged, ← Sections.unpaged_map,
    ← Sections.of_map, ← Query.sections]

end Unpaged

/-! ## Statements with and without paging -/

theorem Query.sections_paging (t : Target) (q : Query) :
    (q.sections t).limit = q.limitFor (some t.dialect) ∧
      (q.sections t).offset = q.offsetFor (some t.dialect) ∧
      (q.sections t).hasOrders = q.hasComponent .order (some t.dialect) := by
  rw [Query.sections, Sections.of_map]
  exact ⟨rfl, rfl, rfl⟩

/-- Without its clauses for a limit and an offset, a select compiles to the texts of its sections. -/
theorem compile_whole {t : Target} {q : Query} {c₀ : Compiled} (hmethod : q.method = .select)
    (hc₀ : compile t q.unpaged = .ok c₀) :
    ∃ (prologue : Written) (w : SelectText),
      (renderPrologue t (Env.enterStatement t {} (q.sections t))
        ((q.sections t).hoistedCtes t)).Writes prologue ∧
      w.Spells t (Env.enterStatement t {} (q.sections t)) (q.sections t) ∧
      (⟨c₀.rawSql, c₀.bindings⟩ : Written) = prologue.leading ++ w.whole := by
  obtain ⟨prologue, rows, w, page, hprologue, hcounted, hw, hpage, hc₀⟩ :=
    compile_pages (q := q.unpaged) hmethod hc₀
  rw [Query.sections_unpaged] at hprologue hcounted hw hpage
  have hnumbered : ¬(t.pagination = .topRowNumber ∧ (q.sections t).unpaged.offset ≠ 0) :=
    fun h => h.2 rfl
  unfold Sections.Counted at hcounted
  rw [if_neg hnumbered] at hcounted
  subst hcounted
  have hnone : Paging.clause t.pagination (q.sections t).unpaged.hasOrders ⟨0, 0⟩ = .ok .all :=
    Paging.clause_none _ _
  obtain rfl : PagingClause.all = page := Except.ok.inj (hnone.symm.trans hpage)
  rw [SelectText.paged_all] at hc₀
  exact ⟨prologue, w, hprologue, hw.ofUnpaged, hc₀⟩

theorem Target.pagination_topRowNumber {t : Target} (h : t.pagination = .topRowNumber) :
    t.dialect = .sqlServer ∧ t.options.legacyPagination = true := by
  unfold Target.pagination at h
  split at h
  case h_1 hdialect =>
    by_cases holder : t.options.legacyPagination = true
    · exact ⟨hdialect, holder⟩
    · simp [holder] at h
  case h_2 => split at h <;> exact nomatch h
  all_goals exact nomatch h

theorem Target.pagination_rowCount {t : Target} (h : t.pagination = .rowCount) :
    t.dialect = .oracle ∧ t.options.legacyPagination = true := by
  unfold Target.pagination at h
  split at h
  case h_1 => split at h <;> exact nomatch h
  case h_2 hdialect =>
    by_cases holder : t.options.legacyPagination = true
    · exact ⟨hdialect, holder⟩
    · simp [holder] at h
  all_goals exact nomatch h

/-- **Paging is local.** If a select and the same without its clauses for a limit and an offset both
compile, and the select is not one whose rows get numbers in a column, then the statements are made
up of the same prologue and the same sections.  At one place of the first statement, or around its
body, stands the clause for its limit and its offset, and its values are bound in one block. -/
theorem compile_unpaged (t : Target) (q : Query) {c c₀ : Compiled} (hmethod : q.method = .select)
    (hlegacy : ¬(t.dialect = .sqlServer ∧ t.options.legacyPagination = true ∧
      0 < q.offsetFor (some t.dialect)))
    (hc : compile t q = .ok c)
    (hc₀ : compile t ((q.clearComponent .limit).clearComponent .offset) = .ok c₀) :
    ∃ (prologue : Written) (w : SelectText) (page : PagingClause),
      (renderPrologue t (Env.enterStatement t {} (q.sections t))
        ((q.sections t).hoistedCtes t)).Writes prologue ∧
      w.Spells t (Env.enterStatement t {} (q.sections t)) (q.sections t) ∧
      Paging.clause t.pagination (q.hasComponent .order (some t.dialect))
        ⟨q.limitFor (some t.dialect), q.offsetFor (some t.dialect)⟩ = .ok page ∧
      match page.place? with
      | some place =>
        c₀.rawSql = prologue.leading.text ++ (w.before place).text ++ (w.rest place).text ∧
        c.rawSql = prologue.leading.text ++ (w.before place).text ++ page.inserted.text ++
          (w.rest place).text ∧
        c₀.bindings = prologue.bindings ++ (w.before place).bindings ++ (w.rest place).bindings ∧
        c.bindings = prologue.bindings ++ (w.before place).bindings ++ page.values ++
          (w.rest place).bindings
      | none =>
        t.dialect = .oracle ∧ t.options.legacyPagination = true ∧
        c₀.rawSql = prologue.leading.text ++ w.whole.text ∧
        c.rawSql = prologue.leading.text ++ page.around t.dialect w.whole.text ∧
        c.bindings = c₀.bindings ++ page.values := by
  obtain ⟨hlimit, hoffset, horders⟩ := Query.sections_paging t q
  obtain ⟨prologue, rows, w, page, hprologue, hcounted, hw, hpage, hc⟩ := compile_pages hmethod hc
  obtain ⟨prologue₀, w₀, hprologue₀, hw₀, hc₀⟩ := compile_whole hmethod hc₀
  have hnumbered : ¬(t.pagination = .topRowNumber ∧ (q.sections t).offset ≠ 0) := by
    rintro ⟨hstyle, hne⟩
    obtain ⟨hdialect, holder⟩ := Target.pagination_topRowNumber hstyle
    rw [hoffset] at hne
    exact hlegacy ⟨hdialect, holder, UInt64.pos_iff_ne_zero.mpr hne⟩
  unfold Sections.Counted at hcounted
  rw [if_neg hnumbered] at hcounted
  subst hcounted
  obtain rfl := hprologue.unique hprologue₀
  obtain rfl := hw.unique hw₀
  have hplace := Paging.place?_eq_none_iff _ _ hpage
  rw [hlimit, hoffset, horders] at hpage
  refine ⟨prologue, w, page, hprologue, hw, hpage, ?_⟩
  unfold SelectText.paged at hc
  cases hp : page.place? with
  | some place =>
    rw [hp] at hc
    rw [← w.before_rest place] at hc₀
    have hvalues : page.inserted.bindings = page.values := by
      unfold PagingClause.inserted
      split <;> rfl
    have htext : c.rawSql = prologue.leading.text ++
        ((w.before place).text ++ page.inserted.text ++ (w.rest place).text) :=
      congrArg Written.text hc
    have htext₀ : c₀.rawSql = prologue.leading.text ++
        ((w.before place).text ++ (w.rest place).text) :=
      congrArg Written.text hc₀
    have hbindings : c.bindings = prologue.bindings ++
        ((w.before place).bindings ++ page.inserted.bindings ++ (w.rest place).bindings) :=
      congrArg Written.bindings hc
    have hbindings₀ : c₀.bindings = prologue.bindings ++
        ((w.before place).bindings ++ (w.rest place).bindings) :=
      congrArg Written.bindings hc₀
    dsimp only
    rw [htext, htext₀, hbindings, hbindings₀, hvalues]
    simp only [String.append_assoc, List.append_assoc, and_self]
  | none =>
    rw [hp] at hc
    have hstyle : t.pagination = .rowCount :=
      ((hplace.mp hp).resolve_left hnumbered).1
    obtain ⟨hdialect, holder⟩ := Target.pagination_rowCount hstyle
    have hbindings : c.bindings = prologue.bindings ++ (w.whole.bindings ++ page.values) :=
      congrArg Written.bindings hc
    have hbindings₀ : c₀.bindings = prologue.bindings ++ w.whole.bindings :=
      congrArg Written.bindings hc₀
    refine ⟨hdialect, holder, congrArg Written.text hc₀, congrArg Written.text hc, ?_⟩
    rw [hbindings, hbindings₀, List.append_assoc]

/-- A page of a select with a condition and a set operation, on the dialect that asks for an
order. -/
theorem compile_unpaged_offsetFetch :
    let t : Target := { dialect := .sqlServer }
    let q : Query :=
      { clauses :=
          [⟨.source, none, .source (.table "users")⟩, ⟨.limit, none, .limit 10⟩,
            ⟨.filter, none, .condition { kind := .compare "age" .gt (.int 18) }⟩,
            ⟨.offset, none, .offset 5⟩,
            ⟨.combine, none, .combine (.raw ⟨"UNION SELECT ?", [.int 1]⟩)⟩] }
    q.method = .select ∧
      ¬(t.dialect = .sqlServer ∧ t.options.legacyPagination = true ∧
        0 < q.offsetFor (some t.dialect)) ∧
      ∃ c c₀, compile t q = .ok c ∧
        compile t ((q.clearComponent .limit).clearComponent .offset) = .ok c₀ ∧
        c₀.rawSql = "SELECT * FROM [users] WHERE [age] > ? UNION SELECT ?" ∧
        ∃ before rest : Written,
          c₀.rawSql = before.text ++ rest.text ∧
          c.rawSql = before.text ++
            " ORDER BY (SELECT 0) OFFSET ? ROWS FETCH NEXT ? ROWS ONLY" ++ rest.text ∧
          c₀.bindings = before.bindings ++ rest.bindings ∧
          c.bindings = before.bindings ++ [Value.ofUInt64 5, Value.ofUInt64 10] ++
            rest.bindings := by
  intro t q
  have hmethod : q.method = .select := rfl
  have hlegacy : ¬(t.dialect = .sqlServer ∧ t.options.legacyPagination = true ∧
      0 < q.offsetFor (some t.dialect)) := fun h => absurd h.2.1 (by decide)
  have hsome : (compile t q).toOption.isSome := by decide +kernel
  have hsql₀ : (compile t ((q.clearComponent .limit).clearComponent .offset)).toOption.map
      (·.rawSql) = some "SELECT * FROM [users] WHERE [age] > ? UNION SELECT ?" := by
    decide +kernel
  refine ⟨hmethod, hlegacy, ?_⟩
  cases hc : compile t q with
  | error e =>
    rw [hc] at hsome
    exact absurd hsome (by simp [Except.toOption])
  | ok c =>
    cases hc₀ : compile t ((q.clearComponent .limit).clearComponent .offset) with
    | error e =>
      rw [hc₀] at hsql₀
      exact absurd hsql₀ (by simp [Except.toOption])
    | ok c₀ =>
      rw [hc₀] at hsql₀
      obtain ⟨prologue, w, page, -, -, hpage, hparts⟩ :=
        compile_unpaged t q hmethod hlegacy hc hc₀
      obtain rfl := Except.ok.inj hpage
      obtain ⟨htext₀, htext, hbindings₀, hbindings⟩ := hparts
      exact ⟨c, c₀, rfl, rfl, Option.some.inj hsql₀, prologue.leading ++ w.before .afterOrders,
        w.rest .afterOrders, htext₀, htext, hbindings₀, hbindings⟩

end SqlBuilder
