import SqlBuilder.Proofs.Markup.Clause
import SqlBuilder.Proofs.Markup.Marker
import SqlBuilder.Proofs.Query.Sections

/-!
# Selects as markup

The counterpart of the rendering of a select.  Its sections are written one after another, each with
its values in place (`renderSections_renders`), and so is the select in any of its forms: with an
aggregate, or inside a select that counts its rows (`renderSelect_renders`).

The row numbers of the older paging are the one place where values are bound apart from their text.
The ORDER BY is rendered, taken out together with its bindings, and put back as a column of raw SQL.
The counterpart has no bindings to take out: `windowMarkup` is the ORDER BY with its values in it,
and it is written where the column lands.
-/

namespace SqlBuilder

open Markup

variable (t : Target) (env : Env)

/-! ## Sections with their values in place -/

/-- Markups that are not empty, separated by spaces. -/
def joinMarkups (parts : List Markup) : Markup :=
  Markup.intercalate " " (parts.filter (!List.isEmpty ·))

/-- A keyword before a list, or nothing for an empty list. -/
def keywordMarkups (keyword separator : String) (parts : List Markup) : Markup :=
  if parts.isEmpty then [] else keyword ++ Markup.intercalate separator parts

/-- A keyword before a markup, or nothing for an empty one. -/
def keywordMarkup (keyword : String) (m : Markup) : Markup :=
  if List.isEmpty m then [] else keyword ++ m

/-- The columns of a select; `window` holds the columns with row numbers. -/
def columnsMarkup (window : List Markup) (cs : List (Column Marked)) :
    Except Error (List Markup) := do
  let columns ← cs.mapM (Column.markup t env)
  return columns ++ window

/-- The select list. -/
def selectListMarkup (window : List Markup) (s : Sections Marked) : Except Error Markup :=
  match s.aggregate with
  | some ⟨function, [column]⟩ => return aggregateColumn t.dialect function column
  | some _ => return "1"
  | none => do
    let columns ← columnsMarkup t env window s.columns
    return if columns.isEmpty then "*" else Markup.intercalate ", " columns

/-- The head of a select, and the paging that is left to write. -/
def selectHeadMarkup (window : List Markup) (s : Sections Marked) :
    Except Error (Markup × Paging) := do
  let (words, rest) ← Paging.headMarkup t.pagination ⟨s.limit, s.offset⟩
  let list ← selectListMarkup t env window s
  let distinct := if s.distinct && s.listsColumns then "DISTINCT " else ""
  return ("SELECT " ++ words.beforeDistinct ++ distinct ++ words.afterDistinct ++ list, rest)

/-- The FROM section. -/
def sourceMarkup (s : Sections Marked) : Except Error Markup :=
  match s.source with
  | none => return []
  | some source => do
    let sql ← source.markup t env (sourceHints t s.lock)
    return "FROM " ++ sql

/-- All joins. -/
def joinsMarkup (s : Sections Marked) : Except Error Markup := do
  let joins ← s.joins.mapM (JoinSections.markup t env)
  return Markup.intercalate " " joins

/-- The WHERE section. -/
def filtersMarkup (s : Sections Marked) : Except Error Markup := do
  let sql ← markupConditions t env s.filters
  return keywordMarkup "WHERE " sql

/-- The GROUP BY section. -/
def groupsMarkup (s : Sections Marked) : Except Error Markup := do
  let columns ← s.groups.mapM (Column.markup t env)
  return keywordMarkups "GROUP BY " ", " columns

/-- The HAVING section. -/
def havingsMarkup (s : Sections Marked) : Except Error Markup := do
  let sql ← markupConditions t env s.havings
  return keywordMarkup "HAVING " sql

/-- The ORDER BY section. -/
def ordersMarkup (s : Sections Marked) : Except Error Markup := do
  let orders ← s.orders.mapM (OrderBy.markup t env)
  return keywordMarkups "ORDER BY " ", " orders

/-- The set operations. -/
def combinesMarkup (s : Sections Marked) : Except Error Markup := do
  let combines ← s.combines.mapM (Combine.markup t env)
  return Markup.intercalate " " combines

/-- The lock at the end, unless it is a hint after the table. -/
def lockMarkup (s : Sections Marked) : Except Error Markup :=
  match s.lock with
  | none => return []
  | some mode =>
    if t.dialect.lockIsHint then
      return []
    else do
      let clause ← t.dialect.lockClause mode
      return clause

/-- All sections of a select. -/
def sectionsMarkup (window : List Markup) (s : Sections Marked) : Except Error Markup := do
  let (head, paging) ← selectHeadMarkup t env window s
  let source ← sourceMarkup t env s
  let joins ← joinsMarkup t env s
  let filters ← filtersMarkup t env s
  let groups ← groupsMarkup t env s
  let havings ← havingsMarkup t env s
  let orders ← ordersMarkup t env s
  let page ← paging.tailMarkup t.pagination s.hasOrders
  let combines ← combinesMarkup t env s
  let lock ← lockMarkup t s
  return joinMarkups
    [head, source, joins, filters, groups, havings, orders, page, combines, lock]

/-! ## Selects with their values in place -/

/-- The column with row numbers in the order of the select. -/
def windowMarkup (s : Sections Marked) : Except Error Markup := do
  let orders ← ordersMarkup t env s
  let order : Markup := if List.isEmpty orders then "ORDER BY (SELECT 0)" else orders
  return wrapMarkers t.dialect
    ("ROW_NUMBER() OVER (" ++ order ++ ") AS " ++ rowNumberColumn t.dialect)

/-- The select whose rows are to be numbered, without the column with the numbers. -/
def Sections.numbered {σ : Type} (s : Sections σ) : Sections σ :=
  { s.unpaged.unordered with
    columns := if s.hasColumns then s.columns else [.named "*"]
    hasColumns := true }

/-- A select that is no aggregate. -/
def plainMarkup (s : Sections Marked) : Except Error Markup :=
  match t.pagination with
  | .topRowNumber =>
    if 0 < s.offset then do
      let window ← windowMarkup t env s
      let body ← sectionsMarkup t env [window] s.numbered
      rowNumberMarkup t.dialect ⟨s.limit, s.offset⟩ body
    else
      sectionsMarkup t env [] s
  | .rowCount =>
    if 0 < s.limit ∨ 0 < s.offset then do
      let body ← sectionsMarkup t env [] s.unpaged
      rowCountMarkup t.dialect ⟨s.limit, s.offset⟩ body
    else
      sectionsMarkup t env [] s
  | _ => sectionsMarkup t env [] s

/-- The function of all rows of a derived table. -/
def wrapAggregateMarkup (d : Dialect) (function : AggregateFunc) (rows : Markup) : Markup :=
  "SELECT " ++ aggregateColumn d function "*" ++ " FROM (" ++ rows ++ ")" ++
    aliasSuffix d (some (function.resultName ++ "Query"))

/-- A select or an aggregate, in surroundings that hold the scope of the query. -/
def bodyMarkup (s : Sections Marked) : Except Error Markup :=
  if s.method = .aggregate then
    match s.aggregateForm with
    | .flat select => sectionsMarkup t env [] select
    | .wrapped function rows => do
      let sql ← plainMarkup t (env.enter s.scope) rows
      return wrapAggregateMarkup t.dialect function sql
    | .hollow => sectionsMarkup t env [] {}
  else
    plainMarkup t env s

/-- A select or an aggregate. -/
def selectMarkup (s : Sections Marked) : Except Error Markup :=
  bodyMarkup t (env.enter s.scope) s

/-! ## Transformed selects -/

namespace Sections

variable {strict : Prop} {s : Sections Prop}

theorem Unmarked.trimmed (h : s.Unmarked strict) : s.trimmed.Unmarked strict :=
  { h with
    columns := by
      intro c hc
      obtain rfl := List.mem_singleton.mp hc
      exact fun v hv => absurd hv (by simp) }

theorem Unmarked.unpaged (h : s.Unmarked strict) : s.unpaged.Unmarked strict :=
  { h with }

theorem Unmarked.numbered (h : s.Unmarked strict) : s.numbered.Unmarked strict :=
  { h with
    columns := by
      intro c hc
      change c ∈ if s.hasColumns then s.columns else [.named "*"] at hc
      split at hc
      · exact h.columns c hc
      · obtain rfl := List.mem_singleton.mp hc
        exact (by decide : Plain "*")
    orders := fun o ho => absurd ho (by simp [Sections.numbered, Sections.unordered]) }

theorem numbered_map {σ τ : Type} (f : σ → τ) (s : Sections σ) :
    (s.map f).numbered = s.numbered.map f := by
  have hcolumns : (if s.hasColumns then s.columns.map (Column.map f) else [.named "*"]) =
      (if s.hasColumns then s.columns else [.named "*"]).map (Column.map f) := by
    cases s.hasColumns <;> simp [Column.map]
  simp only [numbered, map, unpaged, unordered, ← hcolumns]
  rfl

/-- The select that an aggregate statement stands for is unmarked. -/
def AggregateForm.Unmarked (strict : Prop) : AggregateForm Prop → Prop
  | .flat select => select.Unmarked strict
  | .wrapped _ rows => rows.Unmarked strict
  | .hollow => True

theorem presenceTests_unmarked {columns : List String} (h : ∀ c ∈ columns, Plain c)
    (pending : Pending) : ∀ c ∈ presenceTests (σ := Prop) pending columns, c.Unmarked := by
  induction columns generalizing pending with
  | nil => simp [presenceTests]
  | cons column columns ih =>
    intro c hc
    rcases List.mem_cons.mp hc with rfl | hc
    · exact h column (by simp)
    · exact ih (fun c hc => h c (by simp [hc])) {} c hc

theorem Unmarked.aggregateForm (h : s.Unmarked strict) : s.aggregateForm.Unmarked strict := by
  have hbase : ({ s.unpaged.unordered with method := .select, groups := [] } :
      Sections Prop).Unmarked strict :=
    { h with
      groups := by simp
      orders := by simp [Sections.unordered] }
  unfold Sections.aggregateForm
  cases ha : s.aggregate with
  | none => exact hbase
  | some a =>
    have hcolumns : ∀ c ∈ a.columns, Plain c := h.aggregate a ha
    dsimp only
    split
    · exact hbase
    · split
      · trivial
      · split
        · refine { hbase with aggregate := by simp, columns := ?_ }
          intro c hc
          obtain ⟨name, hname, rfl⟩ := List.mem_map.mp hc
          obtain ⟨entry, hentry, hname⟩ := List.mem_flatMap.mp hname
          exact (hcolumns entry hentry).expandColumns name hname
        · refine { hbase with filters := ?_ }
          intro c hc
          rcases List.mem_append.mp hc with hc | hc
          · exact h.filters c hc
          · exact presenceTests_unmarked hcolumns s.pending c hc

end Sections

/-! ## Putting sections together -/

section Parts

variable {strict : Prop} {m : Markup} {s : String} {bs : List Value} {ms : List Markup}
  {ss : List String}

theorem Markup.Sequence.joinSections (h : Sequence (Spells strict) ms ss bs) :
    Spells strict (joinMarkups ms) (SqlBuilder.joinSections ss) bs :=
  (h.filter id).intercalate (by decide)

theorem Markup.Sequence.keywordList (h : Sequence (Spells strict) ms ss bs)
    {keyword separator : String} (hkeyword : Divider keyword) (hseparator : Divider separator) :
    Spells strict (keywordMarkups keyword separator ms) (keywordList keyword separator ss) bs := by
  have hempty : ms.isEmpty = ss.isEmpty := h.isEmpty_eq
  unfold keywordMarkups SqlBuilder.keywordList
  rw [hempty]
  split
  case isTrue hss =>
    obtain rfl : ss = [] := List.isEmpty_iff.mp hss
    cases h
    exact spells_nil.toSpells
  case isFalse => exact (spells_divider hkeyword).append (h.intercalate hseparator)

theorem Markup.Spells.keywordText (h : Spells strict m s bs) {keyword : String}
    (hkeyword : Divider keyword) :
    Spells strict (keywordMarkup keyword m) (SqlBuilder.keywordText keyword s) bs := by
  unfold keywordMarkup SqlBuilder.keywordText
  rw [h.isEmpty_eq]
  split
  case isTrue hs =>
    obtain rfl : s = "" := String.isEmpty_iff.mp hs
    obtain rfl : bs = [] := h.bindings_eq_nil
    exact spells_nil.toSpells
  case isFalse => exact (spells_divider hkeyword).append h

/-- A column with row numbers: its markup, and the raw SQL that comes to the same. -/
def WindowColumn (strict : Prop) (w : Markup × Fragment) : Prop :=
  Emit.Renders (Spells strict) (pure w.1) (env.raw t.dialect w.2)

/-- Adds columns of raw SQL to a select. -/
def Sections.addColumns {σ : Type} (fragments : List Fragment) (s : Sections σ) : Sections σ :=
  { s with columns := s.columns ++ fragments.map .raw }

end Parts

/-! ## Rendering sections -/

section Rendering

variable {t env} {strict : Prop} {γ : Type} {u : γ → Prop} {f : γ → Rendered} {g : γ → Marked}

/-- The columns of a select are written alike on both sides, and so are those with row numbers after
them. -/
theorem columns_renders (hsub : ∀ x, u x → (f x).Marks strict (g x)) (henv : env.Unmarked)
    (cs : List (Column γ)) (hcs : ∀ c ∈ cs.map (Column.map u), c.Unmarked)
    (window : List (Markup × Fragment)) (hwindow : ∀ w ∈ window, WindowColumn t env strict w) :
    Emit.Renders (Sequence (Spells strict))
      (columnsMarkup t env (window.map Prod.fst) (cs.map (Column.map g)))
      ((cs.map (Column.map f) ++ (window.map Prod.snd).map Column.raw).mapM
        (Column.render t env)) := by
  have hcolumns : Emit.Renders (Sequence (Spells strict))
      ((cs.map (Column.map g)).mapM (Column.markup t env))
      ((cs.map (Column.map f)).mapM (Column.render t env)) :=
    .mapM cs fun c hc => Column.renders hsub henv c (hcs _ (List.mem_map_of_mem hc))
  have hnumbers : Emit.Renders (Sequence (Spells strict)) (pure (window.map Prod.fst))
      (((window.map Prod.snd).map Column.raw).mapM (Column.render t env)) := by
    have hpure : (window.map Prod.fst).mapM (m := Except Error) pure =
        pure (window.map Prod.fst) := List.mapM_map.trans List.mapM_pure
    rw [← hpure, List.map_map]
    exact .mapM window hwindow
  rw [columnsMarkup, List.mapM_append]
  refine .bind hcolumns fun ms ss bs hms => ?_
  change Emit.Renders _ (pure (window.map Prod.fst) >>= fun ns => pure (ms ++ ns)) _
  exact .map hnumbers fun ns ts cs hns => hms.append hns

variable (window : List (Markup × Fragment))

/-- The select list is written alike on both sides. -/
theorem selectList_renders (hsub : ∀ x, u x → (f x).Marks strict (g x)) (henv : env.Unmarked)
    (hwindow : ∀ w ∈ window, WindowColumn t env strict w) (s : Sections γ)
    (hs : (s.map u).Unmarked strict) :
    Emit.Renders (Spells strict) (selectListMarkup t env (window.map Prod.fst) (s.map g))
      (renderSelectList t env ((s.map f).addColumns (window.map Prod.snd))) := by
  have hlist := columns_renders hsub henv s.columns hs.columns window hwindow
  unfold selectListMarkup renderSelectList
  simp only [Sections.map, Sections.addColumns]
  cases ha : s.aggregate with
  | none =>
    refine .map hlist fun ms ss bs hms => ?_
    have hempty : ms.isEmpty = ss.isEmpty := hms.isEmpty_eq
    rw [hempty]
    split
    case isTrue hss =>
      obtain rfl : ss = [] := List.isEmpty_iff.mp hss
      cases hms
      exact spells_text (by decide)
    case isFalse => exact hms.intercalate (by decide)
  | some a =>
    have hcolumns : ∀ c ∈ a.columns, Plain c := hs.aggregate a ha
    obtain ⟨function, columns⟩ := a
    match columns, hcolumns with
    | [column], hcolumns =>
      exact .pure (spells_text (plain_aggregateColumn t.dialect function (hcolumns column (by simp))))
    | [], _ => exact .pure (spells_text (by decide))
    | _ :: _ :: _, _ => exact .pure (spells_text (by decide))

/-- The head of a select is written alike on both sides, and leaves the same paging. -/
theorem selectHead_renders (hsub : ∀ x, u x → (f x).Marks strict (g x)) (henv : env.Unmarked)
    (hwindow : ∀ w ∈ window, WindowColumn t env strict w) (s : Sections γ)
    (hs : (s.map u).Unmarked strict) :
    Emit.Renders (fun m a bs => m.2 = a.2 ∧ Spells strict m.1 a.1 bs)
      (selectHeadMarkup t env (window.map Prod.fst) (s.map g))
      (renderHead t env ((s.map f).addColumns (window.map Prod.snd))) := by
  have hdistinct : SpellsClosed strict
      (ofString (if s.distinct && s.listsColumns then "DISTINCT " else ""))
      (if s.distinct && s.listsColumns then "DISTINCT " else "") [] := by
    split
    · exact spells_divider (by decide)
    · exact spells_nil
  unfold selectHeadMarkup renderHead
  refine .bind (Paging.head_renders strict t.pagination ⟨s.limit, s.offset⟩) fun m a bs hwords => ?_
  obtain ⟨words, rest⟩ := m
  obtain ⟨words', rest'⟩ := a
  obtain ⟨rfl, vs, ws, rfl, hbefore, hafter⟩ := hwords
  refine .map (selectList_renders window hsub henv hwindow s hs) fun m list cs hlist => ?_
  refine ⟨rfl, ?_⟩
  have hwords := (((spells_divider (by decide : Divider "SELECT ")).appendClosed
    hbefore).appendClosed hdistinct).appendClosed hafter
  rw [List.nil_append, List.append_nil] at hwords
  exact hwords.append hlist

section Single

variable (hsub : ∀ x, u x → (f x).Marks strict (g x)) (henv : env.Unmarked) (s : Sections γ)
  (hs : (s.map u).Unmarked strict)

include hsub henv hs

/-- The FROM section is written alike on both sides. -/
theorem source_renders (ht : t.PlainPrefix) :
    Emit.Renders (Spells strict) (sourceMarkup t env (s.map g)) (renderSource t env (s.map f)) := by
  have hhints : ∀ name, TableHint.index name ∈ sourceHints t s.lock → Plain name := by
    intro name hname
    unfold sourceHints sourceHints.noLockHint at hname
    split at hname
    · split at hname
      · simp at hname
      · split at hname <;> simp at hname
    · split at hname <;> simp at hname
  unfold sourceMarkup renderSource
  simp only [Sections.map]
  cases hsource : s.source with
  | none => exact .pure spells_nil.toSpells
  | some source =>
    have hmap : (s.map u).source = some (source.map u) := congrArg (Option.map _) hsource
    refine .map (Source.renders hsub ht henv hhints source (hs.source _ hmap)) fun m s bs hm => ?_
    exact (spells_divider (by decide)).append hm

/-- The joins are written alike on both sides. -/
theorem joins_renders (ht : t.PlainPrefix) :
    Emit.Renders (Spells strict) (joinsMarkup t env (s.map g)) (renderJoins t env (s.map f)) := by
  have hjoins : Emit.Renders (Sequence (Spells strict))
      ((s.joins.map (JoinSections.map g)).mapM (JoinSections.markup t env))
      ((s.joins.map (JoinSections.map f)).mapM (JoinSections.render t env)) :=
    .mapM s.joins fun j hj =>
      JoinSections.renders hsub ht henv j (hs.joins _ (List.mem_map_of_mem hj))
  exact .map hjoins fun ms ss bs hms => hms.intercalate (by decide)

/-- The WHERE section is written alike on both sides. -/
theorem filters_renders :
    Emit.Renders (Spells strict) (filtersMarkup t env (s.map g))
      (renderFilters t env (s.map f)) :=
  .map (renderConditions_renders hsub henv s.filters hs.filters) fun m sql bs hm =>
    hm.keywordText (by decide)

/-- The GROUP BY section is written alike on both sides. -/
theorem groups_renders :
    Emit.Renders (Spells strict) (groupsMarkup t env (s.map g)) (renderGroups t env (s.map f)) := by
  have hgroups : Emit.Renders (Sequence (Spells strict))
      ((s.groups.map (Column.map g)).mapM (Column.markup t env))
      ((s.groups.map (Column.map f)).mapM (Column.render t env)) :=
    .mapM s.groups fun c hc => Column.renders hsub henv c (hs.groups _ (List.mem_map_of_mem hc))
  exact .map hgroups fun ms ss bs hms => hms.keywordList (by decide) (by decide)

/-- The HAVING section is written alike on both sides. -/
theorem havings_renders :
    Emit.Renders (Spells strict) (havingsMarkup t env (s.map g))
      (renderHavings t env (s.map f)) :=
  .map (renderConditions_renders hsub henv s.havings hs.havings) fun m sql bs hm =>
    hm.keywordText (by decide)

/-- The set operations are written alike on both sides. -/
theorem combines_renders :
    Emit.Renders (Spells strict) (combinesMarkup t env (s.map g))
      (renderCombines t env (s.map f)) := by
  have hcombines : Emit.Renders (Sequence (Spells strict))
      ((s.combines.map (Combine.map g)).mapM (Combine.markup t env))
      ((s.combines.map (Combine.map f)).mapM (Combine.render t env)) :=
    .mapM s.combines fun c hc =>
      Combine.renders hsub henv c (hs.combines _ (List.mem_map_of_mem hc))
  exact .map hcombines fun ms ss bs hms => hms.intercalate (by decide)

end Single

/-- The ORDER BY section is written alike on both sides. -/
theorem orders_renders (strict : Prop) (henv : env.Unmarked) (s : Sections γ)
    (hs : ∀ o ∈ s.orders, o.Unmarked) :
    Emit.Renders (Spells strict) (ordersMarkup t env (s.map g)) (renderOrders t env (s.map f)) := by
  have horders : Emit.Renders (Sequence (Spells strict))
      (s.orders.mapM (OrderBy.markup t env)) (s.orders.mapM (OrderBy.render t env)) :=
    .mapM_same fun o ho => OrderBy.renders strict henv o (hs o ho)
  exact .map horders fun ms ss bs hms => hms.keywordList (by decide) (by decide)

theorem lockClause_yields (d : Dialect) (mode : LockMode) :
    Emit.Yields Plain (d.lockClause mode) := by
  have hplain : ∀ {s : String}, Plain s → Emit.Yields Plain (.ok s) := id
  have herror : Emit.Yields Plain (.error (.unsupportedLock mode d)) := rfl
  cases d <;> cases mode <;> first | exact herror | exact hplain (by decide)

/-- The lock is written alike on both sides. -/
theorem lock_renders (strict : Prop) (s : Sections γ) :
    Emit.Renders (Spells strict) (lockMarkup t (s.map g)) (renderLock t (s.map f)) := by
  unfold lockMarkup renderLock
  simp only [Sections.map]
  cases s.lock with
  | none => exact .pure spells_nil.toSpells
  | some mode =>
    dsimp only
    split
    · exact .pure spells_nil.toSpells
    · exact .ofPlain (lockClause_yields t.dialect mode)

/-- All sections of a select are written alike on both sides, one after another. -/
theorem renderSections_renders (hsub : ∀ x, u x → (f x).Marks strict (g x)) (ht : t.PlainPrefix)
    (henv : env.Unmarked) (window : List (Markup × Fragment))
    (hwindow : ∀ w ∈ window, WindowColumn t env strict w) (s : Sections γ)
    (hs : (s.map u).Unmarked strict) :
    Emit.Renders (Spells strict) (sectionsMarkup t env (window.map Prod.fst) (s.map g))
      (renderSections t env ((s.map f).addColumns (window.map Prod.snd))) := by
  unfold sectionsMarkup renderSections
  refine .bind (selectHead_renders window hsub henv hwindow s hs) fun m a bs hhead => ?_
  obtain ⟨head, paging⟩ := m
  obtain ⟨head', paging'⟩ := a
  obtain ⟨rfl, hhead⟩ := hhead
  refine .bind (source_renders hsub henv s hs ht) fun source source' _ hsource => ?_
  refine .bind (joins_renders hsub henv s hs ht) fun joins joins' _ hjoins => ?_
  refine .bind (filters_renders hsub henv s hs) fun filters filters' _ hfilters => ?_
  refine .bind (groups_renders hsub henv s hs) fun groups groups' _ hgroups => ?_
  refine .bind (havings_renders hsub henv s hs) fun havings havings' _ hhavings => ?_
  refine .bind (orders_renders (f := f) strict henv s hs.orders) fun orders orders' _ horders => ?_
  refine .bind (Paging.tail_renders strict t.plain_pagination s.hasOrders paging)
    fun page page' _ hpage => ?_
  refine .bind (combines_renders hsub henv s hs) fun combines combines' _ hcombines => ?_
  refine .map (lock_renders (f := f) strict s) fun lock lock' _ hlock => ?_
  have hparts : Sequence (Spells strict) _ _ _ :=
    .cons hhead (.cons hsource (.cons hjoins (.cons hfilters (.cons hgroups (.cons hhavings
      (.cons horders (.cons hpage (.cons hcombines (.cons hlock .nil)))))))))
  rw [List.append_nil] at hparts
  exact hparts.joinSections

/-! ## Rendering selects -/

/-- The sections of a select without row numbers are written alike on both sides. -/
theorem sections_renders (hsub : ∀ x, u x → (f x).Marks strict (g x)) (ht : t.PlainPrefix)
    (henv : env.Unmarked) (s : Sections γ) (hs : (s.map u).Unmarked strict) :
    Emit.Renders (Spells strict) (sectionsMarkup t env [] (s.map g))
      (renderSections t env (s.map f)) := by
  have hsections := renderSections_renders hsub ht henv [] (by simp) s hs
  have hadd : (s.map f).addColumns [] = s.map f := by simp [Sections.addColumns]
  rwa [List.map_nil, List.map_nil, hadd] at hsections

/-- The column with row numbers comes to the ORDER BY with its values in it, and what is left is the
select without its order. -/
theorem numberedRows_renders (strict : Prop) (henv : env.Unmarked) (s : Sections γ)
    (hs : ∀ o ∈ s.orders, o.Unmarked) :
    Emit.Renders
      (fun w numbered bs => bs = [] ∧ ∃ fragment, WindowColumn t env strict (w, fragment) ∧
        numbered = (s.numbered.map f).addColumns [fragment])
      (windowMarkup t env (s.map g)) (numberedRows t env (s.map f)) := by
  unfold windowMarkup numberedRows
  -- The values of an order are bound where they are written, whatever is asked of the statement.
  have horders := orders_renders (t := t) (f := f) (g := g) True henv s hs
  refine .map horders.capture fun m a bs hm => ?_
  obtain ⟨orders, vs⟩ := a
  obtain ⟨hm, rfl⟩ := hm
  refine ⟨rfl, ⟨rowNumberExpression t.dialect
    (if orders.isEmpty then "ORDER BY (SELECT 0)" else orders), vs⟩, ?_, ?_⟩
  · have horder : Spells True (if List.isEmpty m then "ORDER BY (SELECT 0)" else m : Markup)
        (if orders.isEmpty then "ORDER BY (SELECT 0)" else orders) vs := by
      rw [hm.isEmpty_eq]
      split
      case isTrue hempty =>
        obtain rfl : orders = "" := String.isEmpty_iff.mp hempty
        obtain rfl : vs = [] := hm.bindings_eq_nil
        exact spells_text (by decide)
      case isFalse => exact hm
    have hnumbers : Spells True
        ("ROW_NUMBER() OVER (" ++
          (if List.isEmpty m then "ORDER BY (SELECT 0)" else m : Markup) ++ ") AS " ++
          rowNumberColumn t.dialect)
        (rowNumberExpression t.dialect
          (if orders.isEmpty then "ORDER BY (SELECT 0)" else orders)) vs :=
      (((spells_divider (by decide)).append horder).add (by decide)).add
        (plain_rowNumberColumn t.dialect)
    exact Env.raw_spelled hnumbers t.dialect
  · rw [← Sections.numbered_map]
    rfl

/-- A select that is no aggregate is written alike on both sides, whatever the style of paging. -/
theorem renderPlain_renders (hsub : ∀ x, u x → (f x).Marks strict (g x)) (ht : t.PlainPrefix)
    (henv : env.Unmarked) (s : Sections γ) (hs : (s.map u).Unmarked strict) :
    Emit.Renders (Spells strict) (plainMarkup t env (s.map g)) (renderPlain t env (s.map f)) := by
  have hsections := sections_renders hsub ht henv s hs
  unfold plainMarkup renderPlain
  cases t.pagination with
  | topRowNumber =>
    refine .ite (c := 0 < s.offset) (fun _ => ?_) fun _ => hsections
    · refine .bind (numberedRows_renders strict henv s hs.orders)
        fun w numbered bs hw => ?_
      obtain ⟨rfl, fragment, hwindow, rfl⟩ := hw
      have hnumbered : (s.numbered.map u).Unmarked strict := by
        rw [← Sections.numbered_map]
        exact hs.numbered
      have hbody := renderSections_renders hsub ht henv [(w, fragment)] (by simpa using hwindow)
        s.numbered hnumbered
      rw [Sections.numbered_map]
      exact .bind hbody fun body sql cs hbody => wrapRowNumber_renders hbody t.dialect _
  | rowCount =>
    refine .ite (c := 0 < s.limit ∨ 0 < s.offset) (fun _ => ?_) fun _ => hsections
    · have hbody := sections_renders hsub ht henv s.unpaged hs.unpaged
      exact .bind hbody fun body sql cs hbody => wrapRowCount_renders hbody t.dialect _
  | _ => exact hsections

/-- A select or an aggregate is written alike on both sides. -/
theorem renderBody_renders (hsub : ∀ x, u x → (f x).Marks strict (g x)) (ht : t.PlainPrefix)
    (henv : env.Unmarked) (s : Sections γ) (hs : (s.map u).Unmarked strict) :
    Emit.Renders (Spells strict) (bodyMarkup t env (s.map g)) (renderBody t env (s.map f)) := by
  unfold bodyMarkup renderBody
  refine .ite (c := s.method = .aggregate) (fun _ => ?_) fun _ =>
    renderPlain_renders hsub ht henv s hs
  · have hform : (s.aggregateForm.map u).Unmarked strict := by
      rw [← Sections.aggregateForm_map]
      exact hs.aggregateForm
    rw [Sections.aggregateForm_map, Sections.aggregateForm_map]
    cases haggregate : s.aggregateForm with
    | flat select =>
      rw [haggregate] at hform
      exact sections_renders hsub ht henv select hform
    | wrapped function rows =>
      rw [haggregate] at hform
      have hinner : (env.enter s.scope).Unmarked := henv.enter hs.scope
      refine .map (renderPlain_renders hsub ht hinner rows hform) fun m sql bs hm => ?_
      have hcolumn : Plain (aggregateColumn t.dialect function "*") :=
        plain_aggregateColumn t.dialect function (by decide)
      have hname : Plain (function.resultName ++ "Query") :=
        (plain_resultName function).append (by decide)
      exact (((((spells_text (by decide)).add hcolumn).divide (by decide)).append hm).add
        (by decide)).add (plain_aliasSuffix t.dialect (by simpa using hname))
    | hollow =>
      have hempty : (({} : Sections γ).map u).Unmarked strict :=
        by constructor <;> simp [Sections.map, Scope.Unmarked]
      exact sections_renders hsub ht henv {} hempty

/-- A select or an aggregate is written alike on both sides, inside its scope. -/
theorem renderSelect_renders (hsub : ∀ x, u x → (f x).Marks strict (g x)) (ht : t.PlainPrefix)
    (henv : env.Unmarked) (s : Sections γ) (hs : (s.map u).Unmarked strict) :
    Emit.Renders (Spells strict) (selectMarkup t env (s.map g)) (renderSelect t env (s.map f)) :=
  renderBody_renders hsub ht (henv.enter hs.scope) s hs

end Rendering

end SqlBuilder
