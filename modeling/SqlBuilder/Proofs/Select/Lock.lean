import SqlBuilder.Proofs.Select.Columns
import SqlBuilder.Proofs.Text.Placeholder
import SqlBuilder.Proofs.Text.Plain

/-!
# Where a lock is written

A lock is a clause at the end of the select, inside of whatever its paging puts around it, or on one
dialect a hint after its table.  A dialect that has no clause for it refuses the query.  So the
query compiles just if the one without the lock does and the dialect has the lock, and then to the
same text with the lock at its place (`compile_lock`).

A hint needs a table to stand after.  A select from anything else has no place for it, and compiles
to what it is without its lock.
-/

namespace SqlBuilder

/-! ## Texts that take the place of others -/

/-- The second result is the first one with another text in the place of a text, in the statement as
it was rendered and with its parameters. -/
structure Compiled.Swaps (c₀ c : Compiled) (text text' : String) : Prop where
  bindings : c.bindings = c₀.bindings
  namedBindings : c.namedBindings = c₀.namedBindings
  rawSql : ∃ before rest, c₀.rawSql = before ++ text ++ rest ∧ c.rawSql = before ++ text' ++ rest
  sql : ∃ before rest, c₀.sql = before ++ text ++ rest ∧ c.sql = before ++ text' ++ rest

section Swap

variable {before text text' rest : String} (hrest : rest.toList.head? ≠ some '?')

include hrest

/-- A text without question marks stands by itself, if none follows it. -/
theorem Token.scan_around (htext : Plain text) :
    scan (before ++ text ++ rest).toList =
      scan before.toList ++ text.toList.map .char ++ scan rest.toList := by
  have hmiddle : (text.toList ++ rest.toList).head? ≠ some '?' := by
    cases hcs : text.toList with
    | nil => exact hrest
    | cons c cs =>
      rw [Plain, hcs] at htext
      simpa using fun hc => htext (List.mem_cons.mpr (.inl (Eq.symm hc)))
  rw [String.toList_append, String.toList_append, List.append_assoc, scan_append _ hmiddle,
    scan_append _ hrest, scan_of_not_mem htext, List.append_assoc]

/-- A text without question marks may take the place of another one. -/
theorem bind_swap (htext : Plain text) (htext' : Plain text') {bindings : List Value}
    {style : ParamStyle} {c₀ : Compiled}
    (h : bind (before ++ text ++ rest) bindings style = .ok c₀) :
    ∃ c, bind (before ++ text' ++ rest) bindings style = .ok c ∧ c₀.Swaps c text text' := by
  have hnone (s : String) : (s.toList.map Token.char).count .mark = 0 := by
    simp [List.count_eq_zero]
  have hcount (s : String) (hs : Plain s) : countMarks (before ++ s ++ rest) =
      countMarks before + countMarks rest := by
    rw [countMarks, Token.scan_around hrest hs, List.count_append, List.count_append, hnone]
    rfl
  have hfill (s : String) (hs : Plain s) : String.ofList (fillMarks Token.final style.mark 0
      (Token.scan (before ++ s ++ rest).toList)) =
        String.ofList (fillMarks Token.final style.mark 0 (Token.scan before.toList)) ++ s ++
          String.ofList (fillMarks Token.final style.mark (countMarks before)
            (Token.scan rest.toList)) := by
    rw [Token.scan_around hrest hs, fillMarks_append, fillMarks_append, fillMarks_map_char]
    apply String.toList_injective
    simp [countMarks, hnone]
  rw [bind, hcount text htext] at h
  split at h
  case isFalse => cases h
  case isTrue hbalanced =>
    obtain rfl := Except.ok.inj h
    have hbind : bind (before ++ text' ++ rest) bindings style = .ok _ :=
      if_pos ((hcount text' htext').trans hbalanced)
    exact ⟨_, hbind, rfl, rfl, ⟨before, rest, rfl, rfl⟩, _, _, hfill text htext,
      hfill text' htext'⟩

end Swap

/-! ## Queries without their lock -/

section Unlocked

variable {σ : Type}

/-- Without its clauses for a lock a query says the same, the lock apart. -/
theorem Sections.of_unlocked (d : Dialect) (q : QueryOver σ) :
    of d (q.clearComponent .lock) = { of d q with lock := none } := by
  have hkept : ∀ c, c ≠ .lock → Clauses.ofComponent c (some d) (q.clearComponent .lock).clauses =
      Clauses.ofComponent c (some d) q.clauses :=
    fun c hc => Clauses.ofComponent_clear hc (some d) q.clauses
  have hnone : Clauses.ofComponent .lock (some d) (q.clearComponent .lock).clauses = [] :=
    Clauses.ofComponent_clear_self .lock (some d) q.clauses
  have hpick : ∀ c, c ≠ .lock → Clauses.pick? c (some d) (q.clearComponent .lock).clauses =
      Clauses.pick? c (some d) q.clauses := by
    intro c hc
    rw [Clauses.pick?, hkept c hc, Clauses.pick?]
  have hlock : Clauses.pick? .lock (some d) (q.clearComponent .lock).clauses = none := by
    rw [Clauses.pick?, hnone]
    rfl
  have hhas : ∀ c, c ≠ .lock → Clauses.has c (some d) (q.clearComponent .lock).clauses =
      Clauses.has c (some d) q.clauses := by
    intro c hc
    rw [Clauses.has, hkept c hc, Clauses.has]
  simp (disch := decide) only [of, hkept, hpick, hhas, hlock, QueryOver.limitFor,
    QueryOver.offsetFor]
  rfl

/-- The same with the subqueries rendered. -/
theorem Query.sections_unlocked (t : Target) (q : Query) :
    Query.sections t (q.clearComponent .lock) = { q.sections t with lock := none } := by
  rw [Query.sections, Sections.of_map, Sections.of_unlocked, Query.sections, Sections.of_map]
  rfl

end Unlocked

/-! ## Selects with another lock -/

section Relocked

variable {t : Target} {env : Env} {s rows : Sections Rendered} {w : SelectText}

/-- A lock has no part in how rows are counted. -/
theorem Sections.Counted.locked (h : s.Counted t env rows) (lock : Option LockMode) :
    Sections.Counted t env { s with lock } { rows with lock } := by
  obtain ⟨hstyle, hoffset, orders, horders, rfl⟩ | ⟨hnot, rfl⟩ := h.cases
  · have horders' : (renderOrders t env { s with lock }).Writes orders := horders
    unfold Sections.Counted
    rw [if_pos ⟨hstyle, hoffset⟩, numberedRows, horders']
    rfl
  · exact counted_self hnot

/-- Counting rows changes neither the source nor the lock. -/
theorem Sections.Counted.source_lock (h : s.Counted t env rows) :
    rows.source = s.source ∧ rows.lock = s.lock := by
  obtain ⟨-, -, orders, -, rfl⟩ | ⟨-, rfl⟩ := h.cases
  · exact ⟨rfl, rfl⟩
  · exact ⟨rfl, rfl⟩

/-- With another lock, only the source and the end of a select are written in another way. -/
theorem SelectText.Spells.locked (hw : w.Spells t env s) {lock : Option LockMode}
    {source lockText : Written} (hsource : (renderSource t env { s with lock }).Writes source)
    (hlock : (renderLock t { s with lock }).Writes lockText) :
    ({ w with source, lock := lockText } : SelectText).Spells t env { s with lock } where
  distinct := hw.distinct
  list := hw.list
  source := hsource
  joins := hw.joins
  filters := hw.filters
  groups := hw.groups
  havings := hw.havings
  orders := hw.orders
  combines := hw.combines
  lock := hlock

theorem Written.head?_after_ne (w : Written) : w.after.text.toList.head? ≠ some '?' := by
  unfold after
  split <;> simp

/-- A text does not begin with a question mark if its parts do not. -/
theorem head?_append_ne {s s' : String} (h : s.toList.head? ≠ some '?')
    (h' : s'.toList.head? ≠ some '?') : (s ++ s').toList.head? ≠ some '?' := by
  rw [String.toList_append, List.head?_append]
  cases hs : s.toList.head? with
  | none => exact h'
  | some c => rwa [hs] at h

/-- A select with its paging is its source and its lock between texts that do not depend on them.
Neither of the two is followed by a question mark. -/
theorem SelectText.exists_paged_around (d : Dialect) (w : SelectText) (c : PagingClause) :
    ∃ before between rest : Written, between.text.toList.head? ≠ some '?' ∧
      rest.text.toList.head? ≠ some '?' ∧
      ∀ source lock, ({ w with source, lock } : SelectText).paged d c =
        before ++ source.after ++ between ++ lock.after ++ rest := by
  obtain ⟨front, word, page, back, -, hpage, hback, hpaged⟩ := exists_paged_eq d c
  refine ⟨front ++ ⟨w.distinct, []⟩ ++ word ++ w.list,
    w.joins.after ++ w.filters.after ++ w.groups.after ++ w.havings.after ++ w.orders.after ++
      page ++ w.combines.after, back, ?_, hback, fun source lock => ?_⟩
  · have hafter := Written.head?_after_ne
    exact head?_append_ne (head?_append_ne (head?_append_ne (head?_append_ne (head?_append_ne
      (head?_append_ne (hafter _) (hafter _)) (hafter _)) (hafter _)) (hafter _)) hpage) (hafter _)
  · rw [hpaged]
    simp only [tail, Written.append_assoc]

/-! ## The texts of locks -/

/-- A dialect that has no clause for a lock says so. -/
theorem Dialect.lockClause_eq_error {d : Dialect} {mode : LockMode} {e : Error}
    (h : d.lockClause mode = .error e) : e = .unsupportedLock mode d := by
  unfold lockClause at h
  split at h <;> first | exact (Except.error.inj h).symm | exact nomatch h

theorem Dialect.plain_lockClause {d : Dialect} {mode : LockMode} {clause : String}
    (h : d.lockClause mode = .ok clause) : Plain clause ∧ clause.isEmpty = false := by
  unfold lockClause at h
  split at h
  case h_1 => exact nomatch h
  case h_2 => exact nomatch h
  case h_3 => exact nomatch h
  all_goals
    obtain rfl := Except.ok.inj h
    exact ⟨by decide, by simp⟩

/-- Where a lock is a hint, it is the only one. -/
theorem tableHints_lock {t : Target} (h : t.dialect.lockIsHint = true) (mode : LockMode) :
    t.dialect.tableHints (sourceHints t (some mode)) =
      " WITH (" ++ t.dialect.hintWord (.lock mode) ++ ")" := by
  rw [sourceHints, if_pos h]
  cases hd : t.dialect with
  | sqlServer => rfl
  | _ => rw [hd] at h; exact nomatch h

theorem plain_sourceHints (t : Target) (lock : Option LockMode) :
    Plain (t.dialect.tableHints (sourceHints t lock)) := by
  have hhints : sourceHints t lock = [] ∨ sourceHints t lock = [.noLock] ∨
      ∃ mode, sourceHints t lock = [.lock mode] := by
    unfold sourceHints sourceHints.noLockHint
    cases lock <;> cases t.dialect.lockIsHint <;> cases t.options.noLock <;> simp
  obtain h | h | ⟨mode, h⟩ := hhints <;> rw [h]
  · cases t.dialect <;> decide
  · cases t.dialect <;> decide
  · cases t.dialect <;> cases mode <;> decide

/-- Where a lock is no hint, it has no part in the source of a select. -/
theorem renderSource_locked (h : t.dialect.lockIsHint = false ∨
    ∀ name, s.source ≠ some (.table name)) (lock : Option LockMode) :
    renderSource t env { s with lock } = renderSource t env s := by
  unfold renderSource
  cases hsource : s.source with
  | none => rfl
  | some source =>
    cases source with
    | table name =>
      have hhint : t.dialect.lockIsHint = false := h.resolve_right fun h => h name hsource
      have hhints : ∀ lock, sourceHints t lock = sourceHints.noLockHint t := by
        intro lock
        cases lock <;> simp [sourceHints, hhint]
      rw [hhints, hhints]
    | query _ | raw _ _ | rows _ _ _ => rfl

theorem renderSource_table {name : String} (h : s.source = some (.table name)) :
    (renderSource t env s).Writes
      ⟨"FROM " ++ (env.wrapTable t name ++ t.dialect.tableHints (sourceHints t s.lock)), []⟩ := by
  unfold renderSource
  rw [h]
  rfl

/-- A lock that is no clause leaves the end of a select as it is. -/
theorem renderLock_of_hint (h : t.dialect.lockIsHint = true) :
    (renderLock t s).Writes ⟨"", []⟩ := by
  unfold renderLock
  cases s.lock with
  | none => rfl
  | some mode =>
    dsimp only
    rw [if_pos h]
    rfl

theorem renderLock_of_none (h : s.lock = none) : (renderLock t s).Writes ⟨"", []⟩ := by
  unfold renderLock
  rw [h]
  rfl

theorem renderLock_of_clause (h : t.dialect.lockIsHint = false) {mode : LockMode}
    (hlock : s.lock = some mode) :
    renderLock t s = Emit.ofExcept (t.dialect.lockClause mode) := by
  unfold renderLock
  rw [hlock]
  dsimp only
  rw [if_neg (by simp [h])]

end Relocked

/-! ## Statements -/

theorem bind_of_compile {t : Target} {q : Query} {c : Compiled} (h : compile t q = .ok c) :
    bind c.rawSql c.bindings t.paramStyle = .ok c := by
  obtain ⟨herror, houtcome, hbindings, -⟩ := compile_eq_ok h
  unfold compile at h
  rw [herror] at h
  dsimp only at h
  rwa [houtcome, hbindings] at h

section Statements

variable {t : Target} {q q' : Query} {lock : Option LockMode} {c : Compiled}
  (hmethod : q.method = .select) (hmethod' : q'.method = .select) (herror' : q'.error = none)
  (hsections : q'.sections t = { q.sections t with lock })

include hmethod hmethod' herror' hsections

/-- A select that says the same as another one but for the lock is written like that one, with other
texts for the source and the lock. -/
theorem exists_compile_locked (hc : compile t q = .ok c) :
    ∃ (env : Env) (rows : Sections Rendered) (before between rest source lockText : Written),
      between.text.toList.head? ≠ some '?' ∧ rest.text.toList.head? ≠ some '?' ∧
      rows.source = (q.sections t).source ∧ rows.lock = (q.sections t).lock ∧
      (renderSource t env rows).Writes source ∧ (renderLock t rows).Writes lockText ∧
      (⟨c.rawSql, c.bindings⟩ : Written) =
        before ++ source.after ++ between ++ lockText.after ++ rest ∧
      ∀ source' lockText' : Written, (renderSource t env { rows with lock }).Writes source' →
        (renderLock t { rows with lock }).Writes lockText' →
        let written := before ++ source'.after ++ between ++ lockText'.after ++ rest
        compile t q' = bind written.text written.bindings t.paramStyle := by
  obtain ⟨prologue, rows, w, page, hprologue, hcounted, hw, hpage, hwhole⟩ :=
    compile_pages hmethod hc
  obtain ⟨before, between, rest, hbetween, hrest, hpaged⟩ := w.exists_paged_around t.dialect page
  obtain ⟨hsource, hlock⟩ := hcounted.source_lock
  have henv : Env.enterStatement t {} (q'.sections t) =
      Env.enterStatement t {} (q.sections t) := by
    rw [hsections]
    rfl
  refine ⟨_, rows, prologue.leading ++ before, between, rest, w.source, w.lock, hbetween, hrest,
    hsource, hlock, hw.source, hw.lock, ?_, fun source' lockText' hsource' hlock' => ?_⟩
  · rw [hwhole]
    have hself := hpaged w.source w.lock
    rw [hself]
    simp only [Written.append_assoc]
  · have hcompile : compile t q' =
        bind (prologue.leading ++ ({ w with source := source', lock := lockText' } :
            SelectText).paged t.dialect page).text
          (prologue.leading ++ ({ w with source := source', lock := lockText' } :
            SelectText).paged t.dialect page).bindings t.paramStyle := by
      apply compile_paged herror' hmethod'
      · rw [henv, hsections]
        exact hprologue
      · rw [henv, hsections]
        exact hcounted.locked lock
      · rw [henv]
        exact hw.locked hsource' hlock'
      · rw [hsections]
        exact hpage
    rw [hcompile, hpaged]
    simp only [Written.append_assoc]

/-- **Clauses.**  Where a lock is a clause, the clause takes the place of the other one. -/
theorem compile_swap_clause (hhint : t.dialect.lockIsHint = false) (hc : compile t q = .ok c)
    {clause clause' : String}
    (hclause : ∀ rows : Sections Rendered, rows.lock = (q.sections t).lock →
      (renderLock t rows).Writes ⟨clause, []⟩)
    (hclause' : ∀ rows : Sections Rendered, rows.lock = lock →
      (renderLock t rows).Writes ⟨clause', []⟩)
    (hplain : Plain clause) (hplain' : Plain clause') :
    ∃ c', compile t q' = .ok c' ∧
      c.Swaps c' (Written.mk clause []).after.text (Written.mk clause' []).after.text := by
  obtain ⟨env, rows, before, between, rest, source, lockText, -, hrest, -, hlock, hsource,
    hlockText, hwhole, hcompile⟩ := exists_compile_locked hmethod hmethod' herror' hsections hc
  obtain rfl : lockText = ⟨clause, []⟩ := hlockText.unique (hclause rows hlock)
  have hsource' : (renderSource t env { rows with lock }).Writes source := by
    rw [renderSource_locked (.inl hhint)]
    exact hsource
  have hafter (s : String) (hs : Plain s) : Plain (Written.mk s []).after.text := by
    unfold Written.after
    dsimp only
    split
    · decide
    · exact Plain.append (by decide) hs
  have hbind := bind_of_compile hc
  have htext : c.rawSql = (before ++ source.after ++ between).text ++
      (Written.mk clause []).after.text ++ rest.text := congrArg Written.text hwhole
  have hbindings : c.bindings = _ := congrArg Written.bindings hwhole
  rw [htext] at hbind
  obtain ⟨c', hbind', hswaps⟩ :=
    bind_swap hrest (hafter clause hplain) (hafter clause' hplain') hbind
  refine ⟨c', ?_, hswaps⟩
  rw [hcompile source ⟨clause', []⟩ hsource' (hclause' _ rfl), ← hbind', hbindings]
  simp [Written.after]

/-- **Hints.**  Where a lock is a hint and there is a table, the hint takes the place of the other
one. -/
theorem compile_swap_hints (hhint : t.dialect.lockIsHint = true) {name : String}
    (htable : (q.sections t).source = some (.table name)) (hc : compile t q = .ok c) :
    ∃ c', compile t q' = .ok c' ∧
      c.Swaps c' (t.dialect.tableHints (sourceHints t (q.sections t).lock))
        (t.dialect.tableHints (sourceHints t lock)) := by
  obtain ⟨env, rows, before, between, rest, source, lockText, hbetween, hrest, hrows, hlock,
    hsource, hlockText, hwhole, hcompile⟩ :=
    exists_compile_locked hmethod hmethod' herror' hsections hc
  have htable' : rows.source = some (.table name) := hrows.trans htable
  obtain rfl := hlockText.unique (renderLock_of_hint hhint)
  obtain rfl := hsource.unique (renderSource_table htable')
  have htable'' : ({ rows with lock } : Sections Rendered).source = some (.table name) := htable'
  have hrest' : (between.text ++ rest.text).toList.head? ≠ some '?' :=
    head?_append_ne hbetween hrest
  have hword (s : String) : " " ++ ("FROM " ++ s) = " FROM " ++ s := by
    rw [← String.append_assoc]
    rfl
  have hbind := bind_of_compile hc
  have htext : c.rawSql = before.text ++ " FROM " ++ env.wrapTable t name ++
      t.dialect.tableHints (sourceHints t (q.sections t).lock) ++ (between.text ++ rest.text) := by
    rw [← hlock]
    refine (congrArg Written.text hwhole).trans ?_
    simp [Written.after, String.append_assoc, hword]
  have hbindings : c.bindings = _ := congrArg Written.bindings hwhole
  rw [htext] at hbind
  obtain ⟨c', hbind', hswaps⟩ :=
    bind_swap hrest' (plain_sourceHints t (q.sections t).lock) (plain_sourceHints t lock) hbind
  refine ⟨c', ?_, hswaps⟩
  rw [hcompile _ ⟨"", []⟩ (renderSource_table htable'') (renderLock_of_hint hhint), ← hbind',
    hbindings]
  simp [Written.after, String.append_assoc, hword]

/-- Where a lock is a hint and there is no table, it is not written. -/
theorem compile_eq_of_no_table (hhint : t.dialect.lockIsHint = true)
    (htable : ∀ name, (q.sections t).source ≠ some (.table name)) (hc : compile t q = .ok c) :
    compile t q' = .ok c := by
  obtain ⟨env, rows, before, between, rest, source, lockText, -, -, hrows, -, hsource, hlockText,
    hwhole, hcompile⟩ := exists_compile_locked hmethod hmethod' herror' hsections hc
  obtain rfl := hlockText.unique (renderLock_of_hint hhint)
  have hsource' : (renderSource t env { rows with lock }).Writes source := by
    rw [renderSource_locked (.inr fun name h => htable name (hrows.symm.trans h))]
    exact hsource
  rw [hcompile source ⟨"", []⟩ hsource' (renderLock_of_hint hhint), ← hwhole]
  exact bind_of_compile hc

end Statements

/-! ## Locks that a dialect does not have -/

section Refused

variable {t : Target} {env : Env} {s : Sections Rendered} {mode : LockMode} {e : Error}
  {sql : String}

theorem Emit.outcome_bind {α β : Type} {x : Emit α} {a : α} (h : x.outcome = .ok a)
    (f : α → Emit β) : (x >>= f).outcome = (f a).outcome := by
  rw [bind_of_ok h]

theorem Emit.outcome_bind_of_error {α β : Type} {x : Emit α} {e : Error}
    (h : x.outcome = .error e) (f : α → Emit β) : (x >>= f).outcome = .error e := by
  rw [bind_of_error h]

variable (hhint : t.dialect.lockIsHint = false) (hrefused : t.dialect.lockClause mode = .error e)

include hhint hrefused

/-- The lock is the last of the sections: if nothing else is in the way, it is what is refused. -/
theorem renderSections_refused (h : (renderSections t env s).outcome = .ok sql) :
    (renderSections t env { s with lock := some mode }).outcome = .error e := by
  unfold renderSections at h
  obtain ⟨⟨head, paging⟩, hhead, h⟩ := Emit.of_bind_ok h
  obtain ⟨source, hsource, h⟩ := Emit.of_bind_ok h
  obtain ⟨joins, hjoins, h⟩ := Emit.of_bind_ok h
  obtain ⟨filters, hfilters, h⟩ := Emit.of_bind_ok h
  obtain ⟨groups, hgroups, h⟩ := Emit.of_bind_ok h
  obtain ⟨havings, hhavings, h⟩ := Emit.of_bind_ok h
  obtain ⟨orders, horders, h⟩ := Emit.of_bind_ok h
  obtain ⟨page, hpage, h⟩ := Emit.of_bind_ok h
  obtain ⟨combines, hcombines, -⟩ := Emit.of_bind_ok h
  rw [← renderSource_locked (.inl hhint) (some mode)] at hsource
  have hlock : (renderLock t { s with lock := some mode }).outcome = .error e := by
    rw [renderLock_of_clause hhint rfl, hrefused]
    rfl
  exact (Emit.outcome_bind hhead _).trans <| (Emit.outcome_bind hsource _).trans <|
    (Emit.outcome_bind hjoins _).trans <| (Emit.outcome_bind hfilters _).trans <|
    (Emit.outcome_bind hgroups _).trans <| (Emit.outcome_bind hhavings _).trans <|
    (Emit.outcome_bind horders _).trans <| (Emit.outcome_bind hpage _).trans <|
    (Emit.outcome_bind hcombines _).trans <| Emit.outcome_bind_of_error hlock _

/-- Paging around a select has its sections rendered first. -/
theorem renderPlain_refused (h : (renderPlain t env s).outcome = .ok sql) :
    (renderPlain t env { s with lock := some mode }).outcome = .error e := by
  unfold renderPlain at h ⊢
  cases hstyle : t.pagination with
  | topRowNumber =>
    rw [(Target.pagination_topRowNumber hstyle).1] at hhint
    exact nomatch hhint
  | rowCount =>
    rw [hstyle] at h
    dsimp only at h ⊢
    split at h
    case isTrue hpaged =>
      rw [if_pos hpaged]
      obtain ⟨body, hbody, -⟩ := Emit.of_bind_ok h
      exact Emit.outcome_bind_of_error (renderSections_refused hhint hrefused hbody) _
    case isFalse hwhole =>
      rw [if_neg hwhole]
      exact renderSections_refused hhint hrefused h
  | limitOffset _ | offsetFetch _ | firstSkip =>
    rw [hstyle] at h
    exact renderSections_refused hhint hrefused h

/-- A select that compiles without its lock does not compile with one that is refused. -/
theorem compile_refused {q q' : Query} {c : Compiled} (hmethod : q.method = .select)
    (hmethod' : q'.method = .select) (herror' : q'.error = none)
    (hsections : q'.sections t = { q.sections t with lock := some mode })
    (hc : compile t q = .ok c) : compile t q' = .error e := by
  obtain ⟨prologue, sql, hprologue, hsql, -⟩ := compile_statement (.inl hmethod) hc
  have hselect : (q.sections t).method = .select := hmethod
  have hselect' : (q'.sections t).method = .select := hmethod'
  have hplain (s : Sections Rendered) (h : s.method = .select) (env : Env) :
      renderBody t env s = renderPlain t env s := if_neg (by simp [h])
  rw [hplain _ hselect] at hsql
  have hbody : (renderBody t (Env.enterStatement t {} (q'.sections t)) (q'.sections t)).outcome =
      .error e := by
    rw [hplain _ hselect', hsections]
    exact renderPlain_refused hhint hrefused hsql
  have hprologue' : (renderPrologue t (Env.enterStatement t {} (q'.sections t))
      ((q'.sections t).hoistedCtes t)).outcome = .ok prologue.text := by
    rw [hsections]
    exact congrArg Emit.outcome hprologue
  have houtcome : (renderMethod t {} (q'.sections t)).outcome = .error e := by
    rw [renderMethod_body (.inl hselect')]
    exact (Emit.outcome_bind hprologue' _).trans (Emit.outcome_bind_of_error hbody _)
  unfold compile
  rw [herror']
  dsimp only
  rw [houtcome]

end Refused

/-! ## Locks -/

/-- What is compiled with a lock, for a select that compiles without it: the same with the clause
for the lock put in, or with the hint for it in the place of the hints that are there without it.
Where a lock is a hint, it is lost if there is no table. -/
def Compiled.Locked (c₀ : Compiled) (t : Target) (source : Option (Source Rendered))
    (mode : LockMode) (result : Except Error Compiled) : Prop :=
  if t.dialect.lockIsHint then
    match source with
    | some (.table _) => ∃ c, result = .ok c ∧
      c₀.Swaps c (t.dialect.tableHints (sourceHints t none))
        (" WITH (" ++ t.dialect.hintWord (.lock mode) ++ ")")
    | _ => result = .ok c₀
  else
    match t.dialect.lockClause mode with
    | .ok clause => ∃ c, result = .ok c ∧ c₀.Swaps c "" (" " ++ clause)
    | .error e => e = .unsupportedLock mode t.dialect ∧ result = .error e

section Locks

variable {t : Target} {q : Query} {mode : LockMode}

theorem Query.sections_locked (hlock : (q.sections t).lock = some mode) :
    q.sections t = { Query.sections t (q.clearComponent .lock) with lock := some mode } := by
  rw [sections_unlocked, ← hlock]

theorem renderLock_clause_of_ok {clause : String} (hhint : t.dialect.lockIsHint = false)
    (hok : t.dialect.lockClause mode = .ok clause) (rows : Sections Rendered)
    (h : rows.lock = some mode) : (renderLock t rows).Writes ⟨clause, []⟩ := by
  rw [renderLock_of_clause hhint h, hok]
  rfl

variable (hmethod : q.method = .select) (hlock : (q.sections t).lock = some mode)

include hmethod hlock

/-- The text without a lock says what the text with the lock is. -/
theorem Compiled.locked_of_unlocked {c₀ : Compiled}
    (hc₀ : compile t (q.clearComponent .lock) = .ok c₀) :
    c₀.Locked t (q.sections t).source mode (compile t q) := by
  have hmethod₀ : (q.clearComponent .lock).method = .select := hmethod
  have hsections := Query.sections_locked hlock
  have hsections₀ := Query.sections_unlocked t q
  have hlock₀ : (Query.sections t (q.clearComponent .lock)).lock = none := by rw [hsections₀]
  have hsource₀ : (Query.sections t (q.clearComponent .lock)).source = (q.sections t).source := by
    rw [hsections₀]
  have herror : q.error = none := (compile_eq_ok hc₀).1
  unfold Locked
  split
  case isTrue hhint =>
    split
    case h_1 name htable =>
      have hswap := compile_swap_hints hmethod₀ hmethod herror hsections hhint
        (hsource₀.trans htable) hc₀
      rwa [hlock₀, tableHints_lock hhint] at hswap
    case h_2 htable =>
      exact compile_eq_of_no_table hmethod₀ hmethod herror hsections hhint
        (fun name h => htable name (hsource₀.symm.trans h)) hc₀
  case isFalse hhint =>
    have hhint := Bool.eq_false_iff.mpr hhint
    split
    case h_1 clause hok =>
      obtain ⟨hplain, hsome⟩ := Dialect.plain_lockClause hok
      have hswap := compile_swap_clause hmethod₀ hmethod herror hsections hhint hc₀
        (fun rows h => renderLock_of_none (h.trans hlock₀)) (renderLock_clause_of_ok hhint hok)
        (by decide) hplain
      simpa [Written.after, hsome] using hswap
    case h_2 e hrefused =>
      exact ⟨Dialect.lockClause_eq_error hrefused,
        compile_refused hhint hrefused hmethod₀ hmethod herror hsections hc₀⟩

/-- What compiles with a lock compiles without it, and has a dialect with the lock. -/
theorem exists_compile_unlocked {c : Compiled} (hc : compile t q = .ok c) :
    (∃ c₀, compile t (q.clearComponent .lock) = .ok c₀) ∧
      (t.dialect.lockIsHint = true ∨ ∃ clause, t.dialect.lockClause mode = .ok clause) := by
  have hmethod₀ : (q.clearComponent .lock).method = .select := hmethod
  have hsections₀ := Query.sections_unlocked t q
  have herror₀ : (q.clearComponent .lock).error = none := (compile_eq_ok hc).1
  cases hhint : t.dialect.lockIsHint with
  | true =>
    refine ⟨?_, .inl rfl⟩
    by_cases htable : ∃ name, (q.sections t).source = some (.table name)
    · obtain ⟨name, htable⟩ := htable
      obtain ⟨c₀, hc₀, -⟩ :=
        compile_swap_hints hmethod hmethod₀ herror₀ hsections₀ hhint htable hc
      exact ⟨c₀, hc₀⟩
    · exact ⟨c, compile_eq_of_no_table hmethod hmethod₀ herror₀ hsections₀ hhint
        (not_exists.mp htable) hc⟩
  | false =>
    obtain ⟨env, rows, -, -, -, -, lockText, -, -, -, hrows, -, hlockText, -⟩ :=
      exists_compile_locked hmethod hmethod₀ herror₀ hsections₀ hc
    cases hok : t.dialect.lockClause mode with
    | error e =>
      rw [renderLock_of_clause hhint (hrows.trans hlock), hok] at hlockText
      exact nomatch congrArg Emit.outcome hlockText
    | ok clause =>
      obtain ⟨c₀, hc₀, -⟩ := compile_swap_clause hmethod hmethod₀ herror₀ hsections₀ hhint hc
        (fun rows h => renderLock_clause_of_ok hhint hok rows (h.trans hlock))
        (fun rows h => renderLock_of_none h) (Dialect.plain_lockClause hok).1 (by decide)
      exact ⟨⟨c₀, hc₀⟩, .inr ⟨clause, rfl⟩⟩

/-- **Locks.**  A select with a lock compiles just if it does without the lock and the dialect has
the lock.  Then the two texts differ by the clause, or by the hint if there is a table; where a
lock is a hint and there is no table, they are the same.  A lock that the dialect does not have is
an error that says so. -/
theorem compile_lock :
    ((∃ c, compile t q = .ok c) ↔ (∃ c₀, compile t (q.clearComponent .lock) = .ok c₀) ∧
      (t.dialect.lockIsHint = true ∨ ∃ clause, t.dialect.lockClause mode = .ok clause)) ∧
    ∀ c₀, compile t (q.clearComponent .lock) = .ok c₀ →
      c₀.Locked t (q.sections t).source mode (compile t q) := by
  refine ⟨⟨fun ⟨c, hc⟩ => exists_compile_unlocked hmethod hlock hc, ?_⟩,
    fun c₀ hc₀ => Compiled.locked_of_unlocked hmethod hlock hc₀⟩
  rintro ⟨⟨c₀, hc₀⟩, hhas⟩
  have hlocked := Compiled.locked_of_unlocked hmethod hlock hc₀
  unfold Compiled.Locked at hlocked
  split at hlocked
  case isTrue =>
    split at hlocked
    case h_1 => exact hlocked.imp fun _ h => h.1
    case h_2 => exact ⟨c₀, hlocked⟩
  case isFalse hhint =>
    obtain ⟨clause, hok⟩ := hhas.resolve_left hhint
    rw [hok] at hlocked
    exact hlocked.imp fun _ h => h.1

end Locks

/-- A lock on a table, inside of what numbers the rows of a page. -/
theorem compile_lock_numbered :
    let t : Target := { dialect := .sqlServer, options := { legacyPagination := true } }
    let q : Query :=
      { clauses := [⟨.source, none, .source (.table "t")⟩, ⟨.offset, none, .offset 5⟩,
          ⟨.lock, none, .lock .share⟩] }
    q.method = .select ∧ (q.sections t).lock = some .share ∧
      ∃ c₀ c, compile t (q.clearComponent .lock) = .ok c₀ ∧ compile t q = .ok c ∧
        c₀.Swaps c "" " WITH (HOLDLOCK, ROWLOCK)" := by
  intro t q
  have hmethod : q.method = .select := rfl
  have hlock : (q.sections t).lock = some .share := rfl
  refine ⟨hmethod, hlock, ?_⟩
  have hsome : (compile t (q.clearComponent .lock)).toOption.isSome := by decide +kernel
  obtain ⟨-, hlocked⟩ := compile_lock hmethod hlock
  cases hc₀ : compile t (q.clearComponent .lock) with
  | error e =>
    rw [hc₀] at hsome
    exact nomatch hsome
  | ok c₀ =>
    obtain ⟨c, hc, hswaps⟩ := hlocked c₀ hc₀
    exact ⟨c₀, c, rfl, hc, hswaps⟩

/-- A lock on the rows of a subquery is lost: the select compiles to a text without it. -/
theorem compile_drops_lock :
    let t : Target := { dialect := .sqlServer }
    let rows : Query :=
      { clauses := [⟨.source, none, .source (.table "u")⟩], aliasName := some "s" }
    let q : Query :=
      { clauses := [⟨.source, none, .source (.query ⟨rows⟩)⟩, ⟨.lock, none, .lock .update⟩] }
    q.method = .select ∧ (q.sections t).lock = some .update ∧
      ∃ c, compile t q = .ok c ∧ compile t (q.clearComponent .lock) = .ok c ∧
        c.sql = "SELECT * FROM (SELECT * FROM [u]) AS [s]" ∧
        ¬(t.dialect.hintWord (.lock .update)).toList <:+: c.sql.toList := by
  intro t rows q
  refine ⟨rfl, rfl, ?_⟩
  have hsections : q.sections t =
      { Query.sections t (q.clearComponent .lock) with lock := some .update } := rfl
  have hsql : (compile t (q.clearComponent .lock)).toOption.map (·.sql) =
      some "SELECT * FROM (SELECT * FROM [u]) AS [s]" := by decide +kernel
  cases hc : compile t (q.clearComponent .lock) with
  | error e =>
    rw [hc] at hsql
    exact nomatch hsql
  | ok c =>
    rw [hc] at hsql
    have htext : c.sql = "SELECT * FROM (SELECT * FROM [u]) AS [s]" := Option.some.inj hsql
    have hlocked : compile t q = .ok c :=
      compile_eq_of_no_table rfl rfl rfl hsections rfl (fun _ h => nomatch h) hc
    refine ⟨c, hlocked, rfl, htext, ?_⟩
    rw [htext]
    decide +kernel

end SqlBuilder
