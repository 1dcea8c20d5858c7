import SqlBuilder.Proofs.Select.Lists

/-!
# Columns after an aggregate

Listing columns makes a query a select again that was an aggregate.  But the aggregate stays among
its clauses, and a select that has one lists this instead of columns, without DISTINCT
(`renderSelectList_of_some`).  So a query that is turned into an aggregate and back again is written
with the aggregate in the place of its list.  It compiles to what it would have been otherwise only
to a dialect that the aggregate is not meant for, or if the list happens to be the text of the
aggregate (`compile_asAggregate_select`); a list that begins with a named column never is.
-/

namespace SqlBuilder

/-! ## The sections of the query -/

section Clauses

variable {σ : Type} {d : Dialect} {q : QueryOver σ}

/-- Clauses that are added one after the other to a query without an error. -/
theorem QueryOver.foldl_addComponent {α : Type} (c : Component) (content : α → ClauseKind σ)
    (as : List α) (herror : q.error = none) :
    as.foldl (fun q a => q.addComponent c (content a)) q =
      { q with clauses := q.clauses ++ as.map fun a => ⟨c, q.engineScope, content a⟩ } := by
  induction as generalizing q with
  | nil => simp
  | cons a as ih =>
    have hadd : q.addComponent c (content a) =
        { q with clauses := q.clauses ++ [⟨c, q.engineScope, content a⟩] } := by
      simp [addComponent, herror]
    have herror' : (q.addComponent c (content a)).error = none := by rwa [hadd]
    rw [List.foldl_cons, ih herror', hadd]
    simp

/-- The clauses of a query that lists further columns. -/
theorem QueryOver.select_eq (herror : q.error = none) (columns : List String) :
    q.select columns =
      { q with
        clauses := q.clauses ++ (columns.flatMap expandColumns).map fun c =>
          ⟨.select, q.engineScope, .column (.named c)⟩
        method := .select } :=
  foldl_addComponent (q := { q with method := .select }) _ _ _ herror

theorem QueryOver.state_select (herror : q.error = none) (columns : List String) :
    (q.select columns).error = none ∧ (q.select columns).method = .select := by
  rw [select_eq herror]
  exact ⟨herror, rfl⟩

/-- Without clauses for an aggregate there is none. -/
theorem Sections.aggregate_of_none (h : ∀ c ∈ q.clauses, c.component ≠ .aggregate) :
    (of d q).aggregate = none := by
  have hnone : Clauses.ofComponent .aggregate (some d) q.clauses = [] := by
    refine List.filter_eq_nil_iff.mpr fun c hc => ?_
    simp [h c hc]
  simp [of, Clauses.pick?, hnone]

/-- A query that is turned into an aggregate and back again still has the aggregate. -/
theorem Sections.of_asAggregate_select (herror : q.error = none) (function : AggregateFunc)
    (xs columns : List String) :
    of d ((q.asAggregate function xs).select columns) =
      { of d (q.select columns) with
        aggregate := if q.engineScope = none ∨ q.engineScope = some d then some ⟨function, xs⟩
          else none } := by
  have hback : (q.asAggregate function xs).select columns =
      { q with
        clauses := Clauses.clear .aggregate q.clauses ++
          ⟨.aggregate, q.engineScope, .aggregate ⟨function, xs⟩⟩ ::
            (columns.flatMap expandColumns).map fun c =>
              ⟨.select, q.engineScope, .column (.named c)⟩
        method := .select } := by
    have herror' : (q.asAggregate function xs).error = none := by simpa using herror
    rw [QueryOver.select_eq herror', QueryOver.asAggregate_eq herror]
    simp
  rw [hback, QueryOver.select_eq herror]
  refine of_aggregated .select q.engineScope ⟨function, xs⟩ fun c hc => ?_
  obtain ⟨name, -, rfl⟩ := List.mem_map.mp hc
  simp

end Clauses

theorem Query.sections_asAggregate_select {q : Query} (herror : q.error = none) (t : Target)
    (function : AggregateFunc) (xs columns : List String) :
    Query.sections t ((q.asAggregate function xs).select columns) =
      { Query.sections t (q.select columns) with
        aggregate := if q.engineScope = none ∨ q.engineScope = some t.dialect then
          some ⟨function, xs⟩ else none } := by
  rw [Query.sections, Query.sections, Sections.of_map, Sections.of_map,
    Sections.of_asAggregate_select herror]
  rfl

/-- Listing columns does not make a query an aggregate. -/
theorem Query.aggregate_select {q : Query} (herror : q.error = none)
    (hnone : ∀ clause ∈ q.clauses, clause.component ≠ .aggregate) (t : Target)
    (columns : List String) : (Query.sections t (q.select columns)).aggregate = none := by
  rw [Query.sections, Sections.of_map, QueryOver.select_eq herror]
  refine Sections.aggregate_of_none fun clause hclause => ?_
  obtain hclause | hclause := List.mem_append.mp hclause
  · exact hnone clause hclause
  · obtain ⟨name, -, rfl⟩ := List.mem_map.mp hclause
    simp

/-! ## Selects with an aggregate -/

/-- The select list of an aggregate. -/
def AggregateClause.list (d : Dialect) : AggregateClause → String
  | ⟨function, [column]⟩ => aggregateColumn d function column
  | _ => "1"

/-- An aggregate is listed instead of columns. -/
theorem renderSelectList_of_some {t : Target} {env : Env} {s : Sections Rendered}
    {a : AggregateClause} (h : s.aggregate = some a) :
    renderSelectList t env s = pure (a.list t.dialect) := by
  unfold renderSelectList
  rw [h]
  obtain ⟨function, columns⟩ := a
  rcases columns with _ | ⟨column, _ | _⟩ <;> rfl

/-- The list of an aggregate begins with the name of its function, or is a `1`. -/
theorem AggregateClause.head?_list (d : Dialect) (a : AggregateClause) :
    ∃ c, (a.list d).toList.head? = some c ∧ c ∈ ['C', 'S', 'A', 'M', '1'] := by
  obtain ⟨function, columns⟩ := a
  have hcolumn (column : String) : ∃ c,
      (aggregateColumn d function column).toList.head? = some c ∧
        c ∈ ['C', 'S', 'A', 'M', '1'] := by
    cases function <;> simp [aggregateColumn, AggregateFunc.text]
  rcases columns with _ | ⟨column, _ | _⟩
  · simp [list]
  · exact hcolumn column
  · simp [list]

section Replaced

variable {t : Target} {env : Env} {s rows : Sections Rendered} {w : SelectText}

/-- The texts of a select with the list of an aggregate. -/
def SelectText.aggregated (d : Dialect) (w : SelectText) (a : AggregateClause) : SelectText :=
  { w with distinct := "", list := ⟨a.list d, []⟩ }

/-- With an aggregate, only the list is written in another way. -/
theorem SelectText.Spells.aggregated (hw : w.Spells t env s) (a : AggregateClause) :
    (w.aggregated t.dialect a).Spells t env { s with aggregate := some a } where
  distinct := by simp [SelectText.aggregated, Sections.listsColumns]
  list := renderSelectList_of_some rfl
  source := hw.source
  joins := hw.joins
  filters := hw.filters
  groups := hw.groups
  havings := hw.havings
  orders := hw.orders
  combines := hw.combines
  lock := hw.lock

/-- An aggregate has no part in how rows are counted. -/
theorem Sections.Counted.aggregated (h : s.Counted t env rows) (a : AggregateClause) :
    Sections.Counted t env { s with aggregate := some a } { rows with aggregate := some a } := by
  obtain ⟨hstyle, hoffset, orders, horders, rfl⟩ | ⟨hnot, rfl⟩ := h.cases
  · have horders' : (renderOrders t env { s with aggregate := some a }).Writes orders := horders
    unfold Sections.Counted
    rw [if_pos ⟨hstyle, hoffset⟩, numberedRows, horders']
    rfl
  · exact counted_self hnot

/-- The texts of a select after its list. -/
def SelectText.tail (w : SelectText) (page : Written) : Written :=
  w.source.after ++ w.joins.after ++ w.filters.after ++ w.groups.after ++ w.havings.after ++
    w.orders.after ++ page ++ w.combines.after ++ w.lock.after

theorem PagingClause.head?_inserted_ne (c : PagingClause) (hplace : c.place? = some .afterOrders) :
    c.inserted.text.toList.head? ≠ some '?' := by
  unfold inserted Written.after
  rw [if_pos hplace]
  dsimp only
  split <;> simp

/-- A select with its paging is its list with DISTINCT before it, and the sections after it, between
texts that are the same for all selects.  Between DISTINCT and the list there is a TOP at most, and
no section is followed by a question mark. -/
theorem SelectText.exists_paged_eq (d : Dialect) (c : PagingClause) :
    ∃ front between page back : Written, (between.text = "" ∨ between.text = "TOP (?) ") ∧
      page.text.toList.head? ≠ some '?' ∧ back.text.toList.head? ≠ some '?' ∧
      ∀ w : SelectText, w.paged d c =
        front ++ ⟨w.distinct, []⟩ ++ between ++ w.list ++ w.tail page ++ back := by
  have hnone : (⟨"", []⟩ : Written).text.toList.head? ≠ some '?' := by simp
  cases hplace : c.place? with
  | none =>
    obtain ⟨front, back, hback, haround⟩ := c.exists_around d
    refine ⟨⟨front ++ "SELECT ", []⟩, ⟨"", []⟩, ⟨"", []⟩, ⟨back, c.values⟩, .inl rfl, hnone, hback,
      fun w => ?_⟩
    rw [paged_around hplace, haround]
    apply Written.ext <;> simp [whole, before, rest, tail, String.append_assoc]
  | some place =>
    unfold paged
    rw [hplace]
    dsimp only
    cases place with
    | afterSelect =>
      refine ⟨⟨"SELECT ", []⟩ ++ c.inserted, ⟨"", []⟩, ⟨"", []⟩, ⟨"", []⟩, .inl rfl, hnone, hnone,
        fun w => ?_⟩
      apply Written.ext <;> simp [before, rest, tail, String.append_assoc]
    | afterDistinct =>
      have hwords : c.inserted.text = "TOP (?) " := by
        cases c with
        | top n => rfl
        | _ => simp [PagingClause.place?] at hplace
      refine ⟨⟨"SELECT ", []⟩, c.inserted, ⟨"", []⟩, ⟨"", []⟩, .inr hwords, hnone, hnone,
        fun w => ?_⟩
      apply Written.ext <;> simp [before, rest, tail, String.append_assoc]
    | afterOrders =>
      refine ⟨⟨"SELECT ", []⟩, ⟨"", []⟩, c.inserted, ⟨"", []⟩, .inl rfl,
        c.head?_inserted_ne hplace, hnone, fun w => ?_⟩
      apply Written.ext <;> simp [before, rest, tail, String.append_assoc]

/-- A select is written as with the list of an aggregate only if this is its list. -/
theorem SelectText.paged_aggregated_iff (d : Dialect) {w : SelectText} {a : AggregateClause}
    (hdistinct : w.distinct = "" ∨ w.distinct = "DISTINCT ") (c : PagingClause) :
    (w.aggregated d a).paged d c = w.paged d c ↔ w.distinct = "" ∧ w.list = ⟨a.list d, []⟩ := by
  constructor
  · intro h
    obtain ⟨front, between, page, back, hbetween, -, -, hpaged⟩ := exists_paged_eq d c
    have hparts : front ++ ⟨"", []⟩ ++ between ++ ⟨a.list d, []⟩ ++ w.tail page ++ back =
        front ++ ⟨w.distinct, []⟩ ++ between ++ w.list ++ w.tail page ++ back :=
      (hpaged (w.aggregated d a)).symm.trans (h.trans (hpaged w))
    have htext : between.text ++ a.list d = w.distinct ++ between.text ++ w.list.text := by
      have h := congrArg Written.text hparts
      simp only [Written.text_append, String.append_left_inj] at h
      simpa only [String.append_assoc, String.append_right_inj, String.empty_append] using h
    have hbindings : w.list.bindings = [] := by
      have h := congrArg Written.bindings hparts
      simpa using h
    obtain ⟨first, hfirst, hword⟩ := a.head?_list d
    obtain hdistinct | hdistinct := hdistinct
    · rw [hdistinct, String.empty_append, String.append_right_inj] at htext
      exact ⟨hdistinct, Written.ext htext.symm hbindings⟩
    · -- the list of an aggregate does not begin like DISTINCT, and nor does TOP
      have hhead : (between.text ++ a.list d).toList.head? = some 'D' := by
        rw [htext, hdistinct]
        simp
      obtain hnone | htop := hbetween
      · rw [hnone, String.empty_append, hfirst] at hhead
        obtain rfl := Option.some.inj hhead
        exact absurd hword (by decide)
      · rw [htop] at hhead
        simp at hhead
  · rintro ⟨hdistinct, hlist⟩
    rw [aggregated, ← hlist, ← hdistinct]

/-- A list of columns begins with the first of them. -/
theorem renderSelectList_begins {name : String} {cs : List (Column Rendered)} {list : Written}
    (hlists : s.listsColumns = true) (hcolumns : s.columns = .named name :: cs)
    (h : (renderSelectList t env s).Writes list) : Begins (t.dialect.wrap name) list.text := by
  rw [renderSelectList_of_columns hlists, renderColumnList, hcolumns, List.mapM_cons] at h
  obtain ⟨columns, hcolumns, htext⟩ := Emit.of_bind_ok (congrArg Emit.outcome h)
  obtain ⟨first, hfirst, hcolumns⟩ := Emit.of_bind_ok hcolumns
  obtain ⟨texts, -, hcolumns⟩ := Emit.of_bind_ok hcolumns
  obtain rfl := Except.ok.inj hfirst
  obtain rfl := Except.ok.inj hcolumns
  rw [← Except.ok.inj htext]
  cases texts with
  | nil => exact ⟨"", by simp⟩
  | cons second texts =>
    refine ⟨", " ++ String.intercalate ", " (second :: texts), ?_⟩
    simp only [List.isEmpty_cons, Bool.false_eq_true, ↓reduceIte]
    rw [String.intercalate_cons_of_ne_nil (by simp), String.append_assoc]

/-- Numbers come after the columns that are listed. -/
theorem Sections.Counted.columns_eq (hcolumns : s.hasColumns = false → s.columns = [])
    (h : s.Counted t env rows) {c : Column Rendered} {cs : List (Column Rendered)}
    (hs : s.columns = c :: cs) :
    rows.listsColumns = s.listsColumns ∧ ∃ cs', rows.columns = c :: cs' := by
  obtain ⟨-, -, orders, -, rfl⟩ | ⟨-, rfl⟩ := h.cases
  · have hhas : s.hasColumns = true := by
      refine Bool.of_not_eq_false fun hhas => ?_
      rw [hcolumns hhas] at hs
      exact nomatch hs
    rw [columns_withNumbers, if_pos hhas, hs]
    exact ⟨rfl, _, List.cons_append⟩
  · exact ⟨rfl, cs, hs⟩

/-- A list that begins with a named column is not that of an aggregate. -/
theorem AggregateClause.list_ne_of_begins {d : Dialect} {name : String} {list : Written}
    (h : Begins (d.wrap name) list.text) (a : AggregateClause) : list ≠ ⟨a.list d, []⟩ := by
  rintro rfl
  obtain ⟨rest, hrest⟩ := h
  obtain ⟨first, hfirst, hword⟩ := a.head?_list d
  dsimp only at hrest
  rw [hrest, String.toList_append, List.head?_append] at hfirst
  obtain hstar | hquote := d.head?_wrap name
  · rw [hstar] at hfirst
    obtain rfl := Option.some.inj hfirst
    exact absurd hword (by decide)
  · rw [hquote] at hfirst
    obtain rfl := Option.some.inj hfirst
    cases d <;> exact absurd hword (by decide)

/-- Neither is the list of a select whose first column is named. -/
theorem SelectText.Spells.list_ne_of_named (hw : w.Spells t env rows)
    (hcounted : s.Counted t env rows) (hcolumns : s.hasColumns = false → s.columns = [])
    (haggregate : s.aggregate = none) {name : String} {cs : List (Column Rendered)}
    (hs : s.columns = .named name :: cs) (a : AggregateClause) :
    w.list ≠ ⟨a.list t.dialect, []⟩ := by
  obtain ⟨hlists, cs', hrows⟩ := hcounted.columns_eq hcolumns hs
  have hlisted : rows.listsColumns = true := by
    rw [hlists, Sections.listsColumns, haggregate]
    rfl
  exact a.list_ne_of_begins (renderSelectList_begins hlisted hrows hw.list)

end Replaced

/-! ## Statements -/

/-- Queries that say the same to a dialect compile alike. -/
theorem compile_congr {t : Target} {q q' : Query} (herror : q.error = q'.error)
    (hsections : q.sections t = q'.sections t) : compile t q = compile t q' := by
  rw [compile, compile, herror, hsections]

theorem Written.append_right_inj {w w' w'' : Written} : w ++ w' = w ++ w'' ↔ w' = w'' := by
  refine ⟨fun h => Written.ext ?_ ?_, congrArg _⟩
  · exact (String.append_right_inj _).mp (congrArg Written.text h)
  · exact List.append_cancel_left (congrArg Written.bindings h)

/-- Only one text is bound to a result. -/
theorem bind_eq_ok_iff {w w' : Written} {style : ParamStyle} {c : Compiled}
    (h : bind w.text w.bindings style = .ok c) :
    bind w'.text w'.bindings style = .ok c ↔ w' = w := by
  refine ⟨fun h' => ?_, fun h' => h' ▸ h⟩
  obtain ⟨htext, hbindings, -⟩ := bind_eq_ok h
  obtain ⟨htext', hbindings', -⟩ := bind_eq_ok h'
  exact Written.ext (htext'.symm.trans htext) (hbindings'.symm.trans hbindings)

/-- A select that says the same as another one but for an aggregate compiles to the texts of that
one with the list of the aggregate. -/
theorem compile_aggregated {t : Target} {q back : Query} {a : AggregateClause}
    (herror : back.error = none) (hmethod : back.method = .select)
    (hsections : back.sections t = { q.sections t with aggregate := some a })
    {prologue : Written} {rows : Sections Rendered} {w : SelectText} {page : PagingClause}
    (hprologue : (renderPrologue t (Env.enterStatement t {} (q.sections t))
      ((q.sections t).hoistedCtes t)).Writes prologue)
    (hcounted : (q.sections t).Counted t (Env.enterStatement t {} (q.sections t)) rows)
    (hw : w.Spells t (Env.enterStatement t {} (q.sections t)) rows)
    (hpage : Paging.clause t.pagination (q.sections t).hasOrders
      ⟨(q.sections t).limit, (q.sections t).offset⟩ = .ok page) :
    compile t back =
      bind (prologue.leading ++ (w.aggregated t.dialect a).paged t.dialect page).text
        (prologue.leading ++ (w.aggregated t.dialect a).paged t.dialect page).bindings
        t.paramStyle := by
  have henv : Env.enterStatement t {} (back.sections t) =
      Env.enterStatement t {} (q.sections t) := by
    rw [hsections]
    rfl
  apply compile_paged herror hmethod
  · rw [henv, hsections]
    exact hprologue
  · rw [henv, hsections]
    exact hcounted.aggregated a
  · rw [henv]
    exact hw.aggregated a
  · rw [hsections]
    exact hpage

/-- **Columns after an aggregate.**  A query without an aggregate that is turned into one, and then
lists columns, compiles to what it compiles to with the columns alone if the dialect does not see
clauses that are added to it.  Otherwise the aggregate stands in the place of its list, and DISTINCT
is gone.  The results are the same just if this is the list, which it is not if that begins with
a named column. -/
theorem compile_asAggregate_select (t : Target) {q : Query} (herror : q.error = none)
    (hnone : ∀ clause ∈ q.clauses, clause.component ≠ .aggregate) (function : AggregateFunc)
    (xs columns : List String) :
    let back := (q.asAggregate function xs).select columns
    let a : AggregateClause := ⟨function, xs⟩
    let s := Query.sections t (q.select columns)
    let env := Env.enterStatement t {} s
    if q.engineScope = none ∨ q.engineScope = some t.dialect then
      ∀ c, compile t (q.select columns) = .ok c →
        ∃ (prologue : Written) (rows : Sections Rendered) (w : SelectText) (page : PagingClause),
          (renderPrologue t env (s.hoistedCtes t)).Writes prologue ∧
          s.Counted t env rows ∧ w.Spells t env rows ∧
          (⟨c.rawSql, c.bindings⟩ : Written) = prologue.leading ++ w.paged t.dialect page ∧
          (let written := prologue.leading ++ (w.aggregated t.dialect a).paged t.dialect page
           compile t back = bind written.text written.bindings t.paramStyle) ∧
          (compile t back = .ok c ↔ w.distinct = "" ∧ w.list = ⟨a.list t.dialect, []⟩) ∧
          ((∃ name cs, s.columns = .named name :: cs) → compile t back ≠ .ok c)
    else
      compile t back = compile t (q.select columns) := by
  intro back a s env
  have hs : Query.sections t back = { s with
      aggregate :=
        if q.engineScope = none ∨ q.engineScope = some t.dialect then some a else none } :=
    Query.sections_asAggregate_select herror t function xs columns
  obtain ⟨herror₁, hmethod₁⟩ := QueryOver.state_select herror columns
  have herror₂ : (q.asAggregate function xs).error = none := by simpa using herror
  obtain ⟨herror₃, hmethod₃⟩ := QueryOver.state_select herror₂ columns
  have hnone₁ : s.aggregate = none := Query.aggregate_select herror hnone t columns
  split
  case isFalse hunseen =>
    refine compile_congr (herror₃.trans herror₁.symm) ?_
    rw [hs, if_neg hunseen, ← hnone₁]
  case isTrue hseen =>
    rw [if_pos hseen] at hs
    intro c hc
    obtain ⟨prologue, rows, w, page, hprologue, hcounted, hw, hpage, hwhole⟩ :=
      compile_pages hmethod₁ hc
    have hcompile₁ : compile t (q.select columns) = _ :=
      compile_paged herror₁ hmethod₁ hprologue hcounted hw hpage
    have hcompile₃ : compile t back = _ :=
      compile_aggregated herror₃ hmethod₃ hs hprologue hcounted hw hpage
    have hdistinct : w.distinct = "" ∨ w.distinct = "DISTINCT " := by
      rw [hw.distinct]
      split <;> simp
    have hiff : compile t back = .ok c ↔ w.distinct = "" ∧ w.list = ⟨a.list t.dialect, []⟩ := by
      rw [hcompile₃, bind_eq_ok_iff (hcompile₁.symm.trans hc), Written.append_right_inj,
        SelectText.paged_aggregated_iff t.dialect hdistinct page]
    refine ⟨prologue, rows, w, page, hprologue, hcounted, hw, hwhole, hcompile₃, hiff, ?_⟩
    rintro ⟨name, cs, hcolumns⟩ hok
    exact hw.list_ne_of_named hcounted (Query.sections_columns t _) hnone₁ hcolumns a
      (hiff.mp hok).2

/-- A named column does not come back for a dialect that sees the aggregate, and for another one
there is no difference. -/
theorem compile_asAggregate_select_named :
    let t : Target := { dialect := .generic }
    let q : Query := { clauses := [⟨.source, none, .source (.table "t")⟩] }
    let other : Query := { q with engineScope := some .mySql }
    q.error = none ∧ (∀ clause ∈ q.clauses, clause.component ≠ .aggregate) ∧
      (∃ c, compile t (q.select ["b"]) = .ok c ∧
        compile t ((q.asAggregate .count ["a"]).select ["b"]) ≠ .ok c) ∧
      compile t ((other.asAggregate .count ["a"]).select ["b"]) =
        compile t (other.select ["b"]) := by
  intro t q other
  have hnone : ∀ clause ∈ q.clauses, clause.component ≠ .aggregate := by decide
  refine ⟨rfl, hnone, ?_, compile_asAggregate_select t (q := other) rfl hnone .count ["a"] ["b"]⟩
  have hcompiles : (compile t (q.select ["b"])).toOption.isSome = true := by decide +kernel
  cases hc : compile t (q.select ["b"]) with
  | error e =>
    rw [hc] at hcompiles
    exact nomatch hcompiles
  | ok c =>
    obtain ⟨-, -, -, -, -, -, -, -, -, -, hnamed⟩ :=
      compile_asAggregate_select t rfl hnone .count ["a"] ["b"] c hc
    exact ⟨c, rfl, hnamed ⟨"b", [], rfl⟩⟩

/-- A query that is turned into an aggregate, and back again, is still the aggregate. -/
theorem compile_select_keeps_aggregate :
    let t : Target := { dialect := .generic }
    let q : Query := runAll [.fromTable "t"] {}
    q.error = none ∧ q.method = .select ∧
      (∀ clause ∈ q.clauses, clause.component ≠ .aggregate) ∧
      ((q.asAggregate .count ["a"]).select ["b"]).method = .select ∧
      (compile t ((q.asAggregate .count ["a"]).select ["b"])).toOption.map (·.rawSql) =
        some "SELECT COUNT(\"a\") AS \"count\" FROM \"t\"" ∧
      (compile t (q.select ["b"])).toOption.map (·.rawSql) = some "SELECT \"b\" FROM \"t\"" := by
  decide +kernel

end SqlBuilder
