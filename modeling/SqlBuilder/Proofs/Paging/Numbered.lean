import SqlBuilder.Proofs.Alike.Value
import SqlBuilder.Proofs.Cte.Keyword
import SqlBuilder.Proofs.Frame.Select
import SqlBuilder.Proofs.Markup.Marker
import SqlBuilder.Proofs.Paging.Place

/-!
# Numbered rows

The older paging of one dialect numbers the rows of a select in a column of their own and keeps those
of a page by a filter on that column.  The order of the select moves into the column: the select
is written without its order, and its list goes on with a `ROW_NUMBER()` over the order, whose values
come right after those of the list (`compile_numbered`).

The text of the order has been rendered when it is put into the column as raw SQL, and so its markers
are turned into quotes once more.  Where quotes are brackets, these stand for themselves, but braces
become brackets and a backslash before a marker is lost: an order stays as it is just if it has no
such characters (`Dialect.wrapMarkers_eq_self_iff`).

A select that still has an aggregate lists this instead of columns, and then there is no column of
row numbers that the filter could be on.
-/

namespace SqlBuilder

open Dialect

/-! ## Markers in rendered text -/

namespace Dialect

variable {cs : List Char}

/-- Neither a brace nor a backslash before a marker. -/
structure Verbatim (cs : List Char) : Prop where
  noOpening : '{' ∉ cs
  noClosing : '}' ∉ cs
  noEscape : ∀ c, isMarker c = true → ¬['\\', c] <:+: cs

theorem verbatim_nil : Verbatim [] where
  noOpening := List.not_mem_nil
  noClosing := List.not_mem_nil
  noEscape c _ h := by simp at h

theorem verbatim_cons {c : Char} :
    Verbatim (c :: cs) ↔ (c ≠ '{' ∧ c ≠ '}') ∧
      (c = '\\' → ∀ c' ∈ cs.head?, isMarker c' = false) ∧ Verbatim cs := by
  constructor
  · intro h
    have htail : ∀ l, l <:+: cs → l <:+: c :: cs := fun l => List.infix_cons
    refine ⟨⟨?_, ?_⟩, ?_, fun hmem => ?_, fun hmem => ?_, fun c' hc' hesc => ?_⟩
    · rintro rfl
      exact h.noOpening List.mem_cons_self
    · rintro rfl
      exact h.noClosing List.mem_cons_self
    · rintro rfl c' hc'
      obtain ⟨rest, rfl⟩ := List.head?_eq_some_iff.mp hc'
      exact Bool.eq_false_iff.mpr fun hmarker => h.noEscape c' hmarker ⟨[], rest, rfl⟩
    · exact h.noOpening (List.mem_cons_of_mem _ hmem)
    · exact h.noClosing (List.mem_cons_of_mem _ hmem)
    · exact h.noEscape c' hc' (htail _ hesc)
  · rintro ⟨⟨hopen, hclose⟩, hhead, hcs⟩
    refine ⟨?_, ?_, fun c' hc' hesc => ?_⟩
    · simpa [hopen.symm] using hcs.noOpening
    · simpa [hclose.symm] using hcs.noClosing
    · obtain ⟨rest, hprefix⟩ | hesc := List.infix_cons_iff.mp hesc
      · obtain ⟨rfl, rfl⟩ := List.cons.inj hprefix
        exact absurd hc' (Bool.eq_false_iff.mp (hhead rfl c' rfl))
      · exact hcs.noEscape c' hc' hesc

/-- Where quotes are brackets, a text stands for itself just if it is verbatim. -/
theorem wrapMarkersList_eq_self_iff (cs : List Char) :
    Dialect.sqlServer.wrapMarkersList cs = cs ↔ Verbatim cs := by
  fun_induction wrapMarkersList .sqlServer cs with
  | case1 => exact iff_of_true rfl verbatim_nil
  | case2 c cs hc ih =>
    -- the marker stays, but not the backslash before it
    refine iff_of_false (fun h => ?_) fun h => ?_
    · obtain rfl : c = '\\' := (List.cons.inj h).1
      exact absurd hc (by decide)
    · exact h.noEscape c hc ⟨[], cs, rfl⟩
  | case3 c cs hc ih =>
    have hmarker : isMarker c = false := Bool.eq_false_iff.mpr hc
    rw [List.cons.injEq, ih, @verbatim_cons (c :: cs)]
    simp [hmarker]
  | case4 c cs hc ih =>
    have hhead : c = '\\' → ∀ c' ∈ cs.head?, isMarker c' = false := by
      intro hbackslash c' hc'
      obtain ⟨rest, rfl⟩ := List.head?_eq_some_iff.mp hc'
      exact (hc c' rest hbackslash rfl).elim
    have hkept : (if opensMarker c then Dialect.sqlServer.quotes.1
        else if closesMarker c then Dialect.sqlServer.quotes.2 else c) = c ↔
          c ≠ '{' ∧ c ≠ '}' := by
      by_cases hmarker : c = '{' ∨ c = '[' ∨ c = '}' ∨ c = ']'
      · obtain rfl | rfl | rfl | rfl := hmarker <;> decide
      · simp only [not_or] at hmarker
        simp [opensMarker, closesMarker, hmarker]
    rw [List.cons.injEq, ih, hkept, verbatim_cons]
    exact and_congr_right fun _ => (and_iff_right hhead).symm

theorem wrapMarkers_eq_self_iff (s : String) :
    Dialect.sqlServer.wrapMarkers s = s ↔ Verbatim s.toList := by
  rw [← wrapMarkersList_eq_self_iff, wrapMarkers, ← String.toList_inj, String.toList_ofList]

end Dialect

/-! ## Rendered text as raw SQL -/

/-- Raw SQL whose values stand for themselves. -/
theorem Env.raw_scalars {env : Env} {d : Dialect} {f : Fragment} {sql : String}
    (hscalar : ∀ v ∈ f.bindings, v.IsScalar) (h : (env.raw d f).outcome = .ok sql) :
    (env.raw d f).Writes ⟨d.wrapMarkers f.expression, f.bindings⟩ := by
  unfold Env.raw at h ⊢
  dsimp only at h ⊢
  split at h
  case isTrue hcount =>
    rw [if_pos hcount, fillValues_scalars hscalar hcount, Token.written_scan, Emit.bind_of_ok rfl]
    simp [Emit.Writes]
  case isFalse => nomatch h

/-- A text whose first and last parts stand for themselves. -/
theorem Dialect.wrapMarkers_between {d : Dialect} {first last : String} (s : String)
    (hfirst : d.wrapMarkersList first.toList = first.toList)
    (hlast : d.wrapMarkersList last.toList = last.toList)
    (hbefore : first.toList.getLast? ≠ some '\\')
    (hafter : ∀ c ∈ last.toList.head?, isMarker c = false) :
    d.wrapMarkers (first ++ (s ++ last)) = first ++ (d.wrapMarkers s ++ last) := by
  rw [wrapMarkers, String.toList_append, String.toList_append,
    wrapMarkersList_append fun h => absurd h hbefore, wrapMarkersList_append fun _ => hafter,
    hfirst, hlast, String.ofList_append, String.ofList_append, String.ofList_toList,
    String.ofList_toList]
  rfl

theorem rowNumberExpression_eq (d : Dialect) (order : String) :
    rowNumberExpression d order =
      "ROW_NUMBER() OVER (" ++ (order ++ (") AS " ++ rowNumberColumn d)) := by
  unfold rowNumberExpression
  rw [String.append_assoc, String.append_assoc]

/-- The column of row numbers, once its markers have been turned into quotes. -/
theorem wrapMarkers_rowNumberExpression (order : String) :
    Dialect.sqlServer.wrapMarkers (rowNumberExpression .sqlServer order) =
      rowNumberExpression .sqlServer (Dialect.sqlServer.wrapMarkers order) := by
  have hhead : (") AS " ++ rowNumberColumn .sqlServer).toList.head? = some ')' := by decide
  have hafter : ∀ c ∈ (") AS " ++ rowNumberColumn .sqlServer).toList.head?, isMarker c = false := by
    intro c hc
    obtain rfl : ')' = c := Option.some.inj (hhead.symm.trans hc)
    rfl
  rw [rowNumberExpression_eq, rowNumberExpression_eq]
  exact Dialect.wrapMarkers_between _ (by decide) (by decide) (by decide)
    hafter

/-! ## The select list -/

/-- What the values of an order are bound to stands for itself. -/
theorem renderOrders_scalar (t : Target) (env : Env) (s : Sections Rendered) :
    ∀ v ∈ (renderOrders t env s).bindings, v.IsScalar :=
  have himplements : Rendering.Implements (.any t.pagination) (compileOrders t s.orders) fun env =>
      renderOrders t env s := orders_implements s
  (himplements.sane env).scalar

/-- The order that rows are numbered in: that of the select, or any. -/
def numberingOrder (orders : String) : String :=
  if orders.isEmpty then "ORDER BY (SELECT 0)" else orders

/-- The column of row numbers with the values of its order. -/
def numberColumn (orders : Written) : Written :=
  ⟨rowNumberExpression .sqlServer (Dialect.sqlServer.wrapMarkers (numberingOrder orders.text)),
    orders.bindings⟩

/-- The select list of the rows that are numbered.  An aggregate is listed without the numbers, and
a list of clauses that are no columns is left out. -/
def Sections.numberedList (s : Sections Rendered) (list orders : Written) : Written :=
  if !s.listsColumns then list
  else if s.hasColumns && s.columns.isEmpty then numberColumn orders
  else list ++ ⟨", ", []⟩ ++ numberColumn orders

/-- The select of the rows that are numbered. -/
def Sections.numberedText (s : Sections Rendered) (w : SelectText) (orders : Written) : Written :=
  { w with list := s.numberedList w.list orders }.whole

/-- The columns of a select list; without any, all columns are meant. -/
def renderColumnList (t : Target) (env : Env) (cs : List (Column Rendered)) : Emit String := do
  let columns ← cs.mapM (Column.render t env)
  return if columns.isEmpty then "*" else String.intercalate ", " columns

section SelectList

variable {t : Target} {env : Env} {s : Sections Rendered}

/-- Columns before a raw one whose values stand for themselves. -/
theorem columns_concat {cs : List (Column Rendered)} {f : Fragment} {texts : List String}
    (hscalar : ∀ v ∈ f.bindings, v.IsScalar)
    (h : ((cs ++ [Column.raw f]).mapM (Column.render t env)).outcome = .ok texts) :
    ∃ parts, parts.length = cs.length ∧
      (cs.mapM (Column.render t env)).outcome = .ok parts ∧
      (cs ++ [Column.raw f]).mapM (Column.render t env) =
        ⟨(cs.mapM (Column.render t env)).bindings ++ f.bindings,
          .ok (parts ++ [t.dialect.wrapMarkers f.expression])⟩ := by
  rw [List.mapM_append] at h ⊢
  obtain ⟨parts, hparts, hrest⟩ := Emit.of_bind_ok h
  obtain ⟨last, hlast, -⟩ := Emit.of_bind_ok hrest
  rw [List.mapM_cons, List.mapM_nil, Column.render] at hlast ⊢
  obtain ⟨sql, hsql, -⟩ := Emit.of_bind_ok hlast
  have hraw := Env.raw_scalars hscalar hsql
  have hlength : parts.length = cs.length :=
    (Emit.Ensures.mapM (P := fun _ => True) (fun _ _ _ => trivial) parts hparts).1
  refine ⟨parts, hlength, hparts, ?_⟩
  rw [Emit.bind_of_ok hparts, hraw]
  simp only [pure_bind, Emit.bind_mk, Emit.bindings_pure, Emit.outcome_pure, List.append_nil]

/-- The list of an aggregate does not depend on the columns. -/
theorem renderSelectList_of_aggregate {s' : Sections Rendered} (h : s.listsColumns = false)
    (haggregate : s'.aggregate = s.aggregate) :
    renderSelectList t env s' = renderSelectList t env s := by
  unfold renderSelectList
  rw [haggregate]
  cases hs : s.aggregate with
  | none => simp [Sections.listsColumns, hs] at h
  | some a =>
    obtain ⟨function, columns⟩ := a
    rcases columns with _ | ⟨column, _ | _⟩ <;> rfl

theorem renderSelectList_of_columns (h : s.listsColumns = true) :
    renderSelectList t env s = renderColumnList t env s.columns := by
  unfold renderSelectList
  cases hs : s.aggregate with
  | none => rfl
  | some a => simp [Sections.listsColumns, hs] at h

/-- A list of columns before a raw one whose values stand for themselves. -/
theorem renderColumnList_concat {cs : List (Column Rendered)} {f : Fragment} {sql : String}
    (hscalar : ∀ v ∈ f.bindings, v.IsScalar)
    (h : (renderColumnList t env (cs ++ [.raw f])).outcome = .ok sql) :
    ∃ list, (renderColumnList t env cs).Writes list ∧
      (renderColumnList t env (cs ++ [.raw f])).Writes
        (if cs.isEmpty then ⟨t.dialect.wrapMarkers f.expression, f.bindings⟩
          else list ++ ⟨", ", []⟩ ++ ⟨t.dialect.wrapMarkers f.expression, f.bindings⟩) := by
  unfold renderColumnList at h ⊢
  obtain ⟨texts, htexts, -⟩ := Emit.of_bind_ok h
  obtain ⟨parts, hlength, hparts, hconcat⟩ := columns_concat hscalar htexts
  generalize t.dialect.wrapMarkers f.expression = last at hconcat ⊢
  refine ⟨⟨if parts.isEmpty then "*" else String.intercalate ", " parts,
    (cs.mapM (Column.render t env)).bindings⟩, ?_, ?_⟩
  · rw [Emit.bind_of_ok hparts]
    simp [Emit.Writes]
  · rw [hconcat, Emit.bind_mk]
    cases cs with
    | nil =>
      obtain rfl : parts = [] := List.length_eq_zero_iff.mp hlength
      simp [Emit.Writes]
    | cons c cs =>
      have hne : parts ≠ [] := List.ne_nil_of_length_eq_add_one hlength
      simp [Emit.Writes, hne, String.intercalate_append_of_ne_nil, String.append_assoc]

/-- All columns are meant as well where they are written out. -/
theorem renderColumnList_star (hdialect : t.dialect = .sqlServer) :
    renderColumnList t env [.named "*"] = renderColumnList t env [] := by
  have hstar : t.dialect.wrap "*" = "*" := by
    rw [hdialect]
    decide +kernel
  simp [renderColumnList, Column.render, hstar]

/-- **Select list.**  The list of numbered rows is that of the select with the column of the numbers
after it. -/
theorem renderSelectList_withNumbers {orders : Written} {sql : String}
    (hdialect : t.dialect = .sqlServer) (hscalar : ∀ v ∈ orders.bindings, v.IsScalar)
    (hcolumns : s.hasColumns = false → s.columns = [])
    (h : (renderSelectList t env (s.withNumbers t orders.text orders.bindings)).outcome = .ok sql) :
    ∃ list, (renderSelectList t env s).Writes list ∧
      (renderSelectList t env (s.withNumbers t orders.text orders.bindings)).Writes
        (s.numberedList list orders) := by
  cases hlists : s.listsColumns with
  | false =>
    have hsame : renderSelectList t env (s.withNumbers t orders.text orders.bindings) =
        renderSelectList t env s := renderSelectList_of_aggregate hlists rfl
    rw [hsame] at h ⊢
    have hlist := Emit.writes_of_outcome h
    refine ⟨_, hlist, ?_⟩
    rw [Sections.numberedList, hlists]
    exact hlist
  | true =>
    have hexpression : t.dialect.wrapMarkers
        (rowNumberExpression t.dialect (numberingOrder orders.text)) = (numberColumn orders).text := by
      rw [hdialect]
      exact wrapMarkers_rowNumberExpression _
    have hrows : renderSelectList t env (s.withNumbers t orders.text orders.bindings) =
        renderColumnList t env ((if s.hasColumns then s.columns else [.named "*"]) ++
          [.raw ⟨rowNumberExpression t.dialect (numberingOrder orders.text), orders.bindings⟩]) :=
      renderSelectList_of_columns hlists
    rw [hrows] at h ⊢
    rw [renderSelectList_of_columns hlists]
    unfold Sections.numberedList
    rw [hlists]
    obtain ⟨list, hlist, hnumbered⟩ := renderColumnList_concat hscalar h
    rw [hexpression] at hnumbered
    cases hhas : s.hasColumns with
    | true =>
      rw [hhas] at hlist hnumbered
      exact ⟨list, hlist, hnumbered⟩
    | false =>
      rw [hhas] at hlist hnumbered
      rw [hcolumns hhas, ← renderColumnList_star hdialect]
      exact ⟨list, hlist, hnumbered⟩

end SelectList

/-! ## Orders in either style of paging -/

namespace Env

variable {env env' : Env} (h : env'.scopes = env.scopes)

include h

/-- Only the scopes around matter to a variable, and not the common table expressions. -/
theorem expandReference_of_scopes (left : Nat) (resolving : List String) (name : String) :
    env'.expandReference left resolving name = env.expandReference left resolving name := by
  have hresolve : ∀ name, env'.resolve name = env.resolve name := by
    intro name
    rw [resolve, resolve, lookup, lookup, h]
  induction left generalizing resolving name with
  | zero =>
    unfold expandReference
    rw [hresolve]
    cases env.resolve name <;> rfl
  | succ left ih =>
    unfold expandReference
    rw [hresolve]
    cases env.resolve name with
    | error e => rfl
    | ok v => simp only [funext (ih (name :: resolving))]

theorem placeholder_of_scopes (v : Value) : env'.placeholder v = env.placeholder v := by
  have hnames : env'.names = env.names := by rw [names, names, h]
  rw [placeholder, placeholder, hnames, funext (expandReference_of_scopes h _ _)]

end Env

/-- An order is rendered alike for targets of one dialect. -/
theorem renderOrders_of_scopes {t t' : Target} {env env' : Env} {s s' : Sections Rendered}
    (hdialect : t'.dialect = t.dialect) (hscopes : env'.scopes = env.scopes)
    (horders : s'.orders = s.orders) : renderOrders t' env' s' = renderOrders t env s := by
  have hrender : OrderBy.render t' env' = OrderBy.render t env := by
    funext order
    cases order with
    | raw f =>
      exact (congrArg (Env.raw · env' f) hdialect).trans
        (Env.raw_congr (fun v _ => Env.placeholder_of_scopes hscopes v) _)
    | column | random => simp only [OrderBy.render, hdialect]
  rw [renderOrders, renderOrders, horders, hrender]

/-- The target without the older paging. -/
def Target.fetching (t : Target) : Target :=
  { t with options := { t.options with legacyPagination := false } }

/-- Subqueries have no part in the order of a query, nor in its scope. -/
theorem Query.sections_orders (t : Target) (q : Query) :
    (q.sections t).orders = (Sections.of t.dialect q).orders ∧ (q.sections t).scope = q.scope := by
  rw [Query.sections, Sections.of_map]
  exact ⟨rfl, rfl⟩

/-- The order of a query is the same in either style of paging. -/
theorem renderOrders_fetching (t : Target) (q : Query) :
    renderOrders t.fetching (Env.enterStatement t.fetching {} (q.sections t.fetching))
        (q.sections t.fetching) =
      renderOrders t (Env.enterStatement t {} (q.sections t)) (q.sections t) := by
  obtain ⟨horders, hscope⟩ := q.sections_orders t
  obtain ⟨horders', hscope'⟩ := q.sections_orders t.fetching
  refine renderOrders_of_scopes rfl ?_ (horders'.trans horders.symm)
  exact congrArg (· :: []) (hscope'.trans hscope.symm)

/-! ## Queries without an order -/

section Unordered

variable {σ : Type}

/-- Without its clauses for an order a query says the same, its order apart. -/
theorem Sections.of_unordered (d : Dialect) (q : QueryOver σ) :
    of d (q.clearComponent .order) = (of d q).unordered := by
  have hother : ∀ {component : Component}, component ≠ .order →
      Clauses.ofComponent component (some d) (Clauses.clear .order q.clauses) =
        Clauses.ofComponent component (some d) q.clauses :=
    fun h => Clauses.ofComponent_clear h _ _
  have horder : Clauses.ofComponent .order (some d) (Clauses.clear .order q.clauses) = [] :=
    Clauses.ofComponent_clear_self _ _ _
  simp [of, unordered, QueryOver.clearComponent, QueryOver.limitFor, QueryOver.offsetFor,
    QueryOver.scope, Clauses.pick?, Clauses.has, hother, horder]

/-- Without clauses for columns there are no columns. -/
theorem Sections.columns_of (d : Dialect) (q : QueryOver σ) (h : (of d q).hasColumns = false) :
    (of d q).columns = [] := by
  have hnone : Clauses.ofComponent .select (some d) q.clauses = [] := by
    simpa [of, Clauses.has] using h
  simp [of, hnone]

/-- The rows that are numbered are those of the query without its order and its paging. -/
theorem Query.sections_unordered (t : Target) (q : Query) :
    Query.sections t (q.unpaged.clearComponent .order) = (q.sections t).unpaged.unordered := by
  rw [← Query.sections_unpaged, Query.sections, Sections.of_map, Sections.of_unordered,
    ← Sections.unordered_map, ← Sections.of_map, ← Query.sections]

end Unordered

/-! ## Statements with numbered rows -/

section Statements

variable {t : Target} {env : Env} {s rows : Sections Rendered}

/-- What is counted is the select with the numbers of its rows. -/
theorem Sections.Counted.withNumbers (hstyle : t.pagination = .topRowNumber) (hoffset : s.offset ≠ 0)
    (h : s.Counted t env rows) :
    ∃ orders, (renderOrders t env s).Writes orders ∧
      rows = s.withNumbers t orders.text orders.bindings := by
  have hrows : (renderOrders t env s).capture >>= (fun written =>
      pure (s.withNumbers t written.1 written.2)) = pure rows := by
    unfold Sections.Counted at h
    rwa [if_pos ⟨hstyle, hoffset⟩] at h
  obtain ⟨⟨orders, bindings⟩, horders, hnumbered⟩ := Emit.of_bind_ok (congrArg Emit.outcome hrows)
  exact ⟨⟨orders, bindings⟩, Emit.of_capture_ok horders, (Except.ok.inj hnumbered).symm⟩

/-- The sections of numbered rows are those of the select without its order, the select list
apart. -/
theorem SelectText.Spells.withNumbers {w : SelectText} {orders : Written}
    (hdialect : t.dialect = .sqlServer) (hscalar : ∀ v ∈ orders.bindings, v.IsScalar)
    (hcolumns : s.hasColumns = false → s.columns = [])
    (hw : w.Spells t env (s.withNumbers t orders.text orders.bindings)) :
    ∃ w₀ : SelectText, w₀.Spells t env s.unpaged.unordered ∧
      w = { w₀ with list := s.numberedList w₀.list orders } := by
  have houtcome : (renderSelectList t env
      (s.withNumbers t orders.text orders.bindings)).outcome = .ok w.list.text :=
    congrArg Emit.outcome hw.list
  obtain ⟨list, hlist, hnumbered⟩ := renderSelectList_withNumbers hdialect hscalar hcolumns houtcome
  have hsame : w.list = s.numberedList list orders := hw.list.unique hnumbered
  refine ⟨{ w with list }, ?_, ?_⟩
  · exact
      { distinct := hw.distinct
        list := hlist
        source := hw.source
        joins := hw.joins
        filters := hw.filters
        groups := hw.groups
        havings := hw.havings
        orders := hw.orders
        combines := hw.combines
        lock := hw.lock }
  · rw [← hsame]

end Statements

/-- The column of the numbers has the order as it is just if this is verbatim. -/
theorem numberColumn_text_iff (orders : Written) :
    (numberColumn orders).text =
        "ROW_NUMBER() OVER (" ++ numberingOrder orders.text ++ ") AS [row_num]" ↔
      Dialect.Verbatim (numberingOrder orders.text).toList := by
  have hname : ") AS " ++ rowNumberColumn .sqlServer = ") AS [row_num]" := by decide
  have hcolumn : (numberColumn orders).text = "ROW_NUMBER() OVER (" ++
      (Dialect.sqlServer.wrapMarkers (numberingOrder orders.text) ++ ") AS [row_num]") := by
    rw [← hname]
    exact rowNumberExpression_eq _ _
  rw [hcolumn, String.append_assoc, String.append_right_inj, String.append_left_inj,
    Dialect.wrapMarkers_eq_self_iff]

/-- **Numbered rows.**  With an offset in the older paging of the dialect, a select is compiled to the
select without its order and its paging, whose list goes on with the numbers of the rows in that
order, and a filter on these numbers around it.  The order is the one of the select in any paging.
The column has it as it is just if nothing in it is taken for a marker once more. -/
theorem compile_numbered (t : Target) (q : Query) {c : Compiled} (hdialect : t.dialect = .sqlServer)
    (hlegacy : t.options.legacyPagination = true) (hmethod : q.method = .select)
    (hoffset : 0 < q.offsetFor (some t.dialect)) (hc : compile t q = .ok c) :
    ∃ (prologue orders : Written) (w : SelectText) (page : PagingClause),
      (renderPrologue t (Env.enterStatement t {} (q.sections t))
        ((q.sections t).hoistedCtes t)).Writes prologue ∧
      w.Spells t (Env.enterStatement t {} (q.sections t))
        (Query.sections t
          (((q.clearComponent .limit).clearComponent .offset).clearComponent .order)) ∧
      (renderOrders t (Env.enterStatement t {} (q.sections t)) (q.sections t)).Writes orders ∧
      (renderOrders t.fetching (Env.enterStatement t.fetching {} (q.sections t.fetching))
        (q.sections t.fetching)).Writes orders ∧
      Paging.clause .topRowNumber (q.hasComponent .order (some t.dialect))
        ⟨q.limitFor (some t.dialect), q.offsetFor (some t.dialect)⟩ = .ok page ∧
      (⟨c.rawSql, c.bindings⟩ : Written) = prologue.leading ++
        ⟨page.around .sqlServer ((q.sections t).numberedText w orders).text,
          ((q.sections t).numberedText w orders).bindings ++ page.values⟩ ∧
      ((numberColumn orders).text =
          "ROW_NUMBER() OVER (" ++ numberingOrder orders.text ++ ") AS [row_num]" ↔
        Dialect.Verbatim (numberingOrder orders.text).toList) := by
  obtain ⟨hlimit', hoffset', horders'⟩ := Query.sections_paging t q
  have hstyle : t.pagination = .topRowNumber := by
    unfold Target.pagination
    rw [hdialect]
    simp [hlegacy]
  have hne : (q.sections t).offset ≠ 0 := by
    rw [hoffset']
    exact UInt64.pos_iff_ne_zero.mp hoffset
  obtain ⟨prologue, numbered, w, page, hprologue, hcounted, hw, hpage, hwhole⟩ :=
    compile_pages hmethod hc
  obtain ⟨orders, horders, rfl⟩ := hcounted.withNumbers hstyle hne
  have hscalar : ∀ v ∈ orders.bindings, v.IsScalar := by
    have hbindings : (renderOrders t _ (q.sections t)).bindings = orders.bindings :=
      congrArg Emit.bindings horders
    rw [← hbindings]
    exact renderOrders_scalar t _ (q.sections t)
  have hcolumns : (q.sections t).hasColumns = false → (q.sections t).columns = [] :=
    Sections.columns_of t.dialect _
  obtain ⟨w₀, hw₀, rfl⟩ := hw.withNumbers hdialect hscalar hcolumns
  have hplace : page.place? = none :=
    (Paging.place?_eq_none_iff _ _ hpage).mpr (.inl ⟨hstyle, hne⟩)
  rw [hstyle, hlimit', hoffset', horders'] at hpage
  rw [SelectText.paged_around hplace, hdialect] at hwhole
  rw [← Query.sections_unordered] at hw₀
  have hfetching := horders
  rw [← renderOrders_fetching] at hfetching
  exact ⟨prologue, orders, w₀, page, hprologue, hw₀, horders, hfetching, hpage, hwhole,
    numberColumn_text_iff orders⟩

/-- A page of a select with a value in its list and another one in its order. -/
theorem compile_numbered_page :
    let t : Target := { dialect := .sqlServer, options := { legacyPagination := true } }
    let q : Query :=
      { clauses :=
          [⟨.source, none, .source (.table "users")⟩,
            ⟨.select, none, .column (.raw ⟨"? AS {k}", [.int 1]⟩)⟩,
            ⟨.order, none, .order (.raw ⟨"abs({score} - ?)", [.int 7]⟩)⟩,
            ⟨.limit, none, .limit 10⟩, ⟨.offset, none, .offset 5⟩] }
    t.dialect = .sqlServer ∧ t.options.legacyPagination = true ∧ q.method = .select ∧
      0 < q.offsetFor (some t.dialect) ∧
      ∃ (c : Compiled) (orders : Written), compile t q = .ok c ∧
        c.rawSql = "SELECT * FROM (SELECT ? AS [k], ROW_NUMBER() OVER " ++
          "(ORDER BY abs([score] - ?)) AS [row_num] FROM [users]) AS [results_wrapper] " ++
          "WHERE [row_num] BETWEEN ? AND ?" ∧
        (renderOrders t (Env.enterStatement t {} (q.sections t)) (q.sections t)).Writes orders ∧
        (numberColumn orders).text =
          "ROW_NUMBER() OVER (ORDER BY abs([score] - ?)) AS [row_num]" := by
  intro t q
  have hdialect : t.dialect = .sqlServer := rfl
  have hlegacy : t.options.legacyPagination = true := rfl
  have hmethod : q.method = .select := rfl
  have hoffset : 0 < q.offsetFor (some t.dialect) := by decide
  have hsql : (compile t q).toOption.map (·.rawSql) =
      some ("SELECT * FROM (SELECT ? AS [k], ROW_NUMBER() OVER " ++
        "(ORDER BY abs([score] - ?)) AS [row_num] FROM [users]) AS [results_wrapper] " ++
        "WHERE [row_num] BETWEEN ? AND ?") := by
    decide +kernel
  have horder : (renderOrders t (Env.enterStatement t {} (q.sections t))
      (q.sections t)).outcome.toOption = some "ORDER BY abs([score] - ?)" := by
    decide +kernel
  have hverbatim : Dialect.Verbatim (numberingOrder "ORDER BY abs([score] - ?)").toList :=
    (Dialect.wrapMarkers_eq_self_iff _).mp (by decide +kernel)
  refine ⟨hdialect, hlegacy, hmethod, hoffset, ?_⟩
  cases hc : compile t q with
  | error e =>
    rw [hc] at hsql
    exact nomatch hsql
  | ok c =>
    obtain ⟨-, orders, -, -, -, -, horders, -, -, -, hnumbers⟩ :=
      compile_numbered t q hdialect hlegacy hmethod hoffset hc
    rw [horders] at horder
    have htext : orders.text = "ORDER BY abs([score] - ?)" := Option.some.inj horder
    rw [hc] at hsql
    rw [htext] at hnumbers
    exact ⟨c, orders, rfl, Option.some.inj hsql, horders,
      (hnumbers.mpr hverbatim).trans (by decide +kernel)⟩

/-- A name with a brace is quoted with the brace in it, but in the column of the numbers the brace is
taken for a marker. -/
theorem compile_numbered_brace :
    let t : Target := { dialect := .sqlServer, options := { legacyPagination := true } }
    let q : Query :=
      { clauses :=
          [⟨.source, none, .source (.table "t")⟩, ⟨.order, none, .order (.column "a\x7bb" true)⟩,
            ⟨.offset, none, .offset 5⟩] }
    q.method = .select ∧ 0 < q.offsetFor (some t.dialect) ∧
      (renderOrders t (Env.enterStatement t {} (q.sections t)) (q.sections t)).outcome.toOption =
        some "ORDER BY [a\x7bb]" ∧
      (compile t.fetching q).toOption.map (·.rawSql) =
        some "SELECT * FROM [t] ORDER BY [a\x7bb] OFFSET ? ROWS" ∧
      (compile t q).toOption.map (·.rawSql) =
        some ("SELECT * FROM (SELECT *, ROW_NUMBER() OVER (ORDER BY [a[b]) AS [row_num] FROM [t]) " ++
          "AS [results_wrapper] WHERE [row_num] >= ?") := by
  decide +kernel

end SqlBuilder
