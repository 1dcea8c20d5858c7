import SqlBuilder.Proofs.Frame.Condition
import SqlBuilder.Proofs.Markup.Paging
import SqlBuilder.Render.Statement

/-!
# The frame of selects

Selects on a shared context, and that they keep its frame (`select_implements`).  A select
enters the scope of its query, renders its sections, and leaves the scope.

In the older style with row numbers the order of a select is rendered first, and the bindings that
it has made are cut off to be bound again where the numbers stand among the columns.
-/

namespace SqlBuilder

open Rendering

/-! ## Sections on the shared context -/

section Definitions

variable (t : Target)

/-- The conditions on the rows of an aggregated column. -/
def compileColumnFilter : Option Prepared → Rendering String
  | some sub => sub.filter
  | none => return ""

/-- A column. -/
def Column.compile : Column Prepared → Rendering String
  | .named name => return t.dialect.wrap name
  | .raw fragment => Rendering.raw t.dialect fragment
  | .query sub => do
    let sql ← sub.select
    return "(" ++ sql ++ ")" ++ aliasSuffix t.dialect sub.aliasName
  | .aggregated function column filter => do
    let (name, aliasName) := columnParts column
    let conditions ← compileColumnFilter filter
    return filteredCall t.dialect function (t.dialect.wrap name) conditions ++
      aliasSuffix t.dialect aliasName

/-- The select list. -/
def compileSelectList (s : Sections Prepared) : Rendering String :=
  match s.aggregate with
  | some ⟨function, [column]⟩ => return aggregateColumn t.dialect function column
  | some _ => return "1"
  | none => do
    let columns ← s.columns.mapM (Column.compile t)
    return if columns.isEmpty then "*" else String.intercalate ", " columns

/-- The head of a select, and the paging that is left to write. -/
def compileHead (s : Sections Prepared) : Rendering (String × Paging) := do
  let (words, rest) ← emit (Paging.head t.pagination ⟨s.limit, s.offset⟩)
  let list ← compileSelectList t s
  let distinct := if s.distinct && s.listsColumns then "DISTINCT " else ""
  return ("SELECT " ++ words.beforeDistinct ++ distinct ++ words.afterDistinct ++ list, rest)

/-- A source of rows with the hints for a table. -/
def Source.compile (hints : List TableHint) : Source Prepared → Rendering String
  | .table name => do
    let env ← read Context.env
    return env.wrapTable t name ++ t.dialect.tableHints hints
  | .query sub => do
    let sql ← sub.select
    return "(" ++ sql ++ ")" ++ aliasSuffix t.dialect sub.aliasName
  | .raw _ fragment => Rendering.raw t.dialect fragment
  | .rows aliasName _ _ => raise (.rowsOutsideCte aliasName)

/-- The FROM section. -/
def compileSource (s : Sections Prepared) : Rendering String :=
  match s.source with
  | none => return ""
  | some source => do
    let sql ← source.compile t (sourceHints t s.lock)
    return "FROM " ++ sql

/-- A join. -/
def JoinSections.compile (j : JoinSections Prepared) : Rendering String :=
  match j.target with
  | none => raise .joinWithoutTable
  | some source => do
    let hints := (if t.options.noLock then [TableHint.noLock] else []) ++
      j.index.toList.map TableHint.index
    let table ← source.compile t hints
    let constraints ← compileConditions t j.constraints
    return joinText j.kind table constraints

/-- All joins. -/
def compileJoins (s : Sections Prepared) : Rendering String := do
  let joins ← s.joins.mapM (JoinSections.compile t)
  return String.intercalate " " joins

/-- The WHERE section. -/
def compileFilters (s : Sections Prepared) : Rendering String := do
  let sql ← compileConditions t s.filters
  return keywordText "WHERE " sql

/-- The GROUP BY section. -/
def compileGroups (s : Sections Prepared) : Rendering String := do
  let columns ← s.groups.mapM (Column.compile t)
  return keywordList "GROUP BY " ", " columns

/-- The HAVING section. -/
def compileHavings (s : Sections Prepared) : Rendering String := do
  let sql ← compileConditions t s.havings
  return keywordText "HAVING " sql

/-- One order. -/
def OrderBy.compile : OrderBy → Rendering String
  | .column name ascending =>
    return t.dialect.wrap name ++ (if ascending then "" else " DESC")
  | .random seed => return t.dialect.randomOrder seed
  | .raw fragment => Rendering.raw t.dialect fragment

/-- The ORDER BY section. -/
def compileOrders (orders : List OrderBy) : Rendering String := do
  let orders ← orders.mapM (OrderBy.compile t)
  return keywordList "ORDER BY " ", " orders

/-- A set operation. -/
def Combine.compile : Combine Prepared → Rendering String
  | .query operation all sub => do
    let sql ← sub.select
    return operation.keyword ++ " " ++ (if all then "ALL " else "") ++ sql
  | .raw fragment => Rendering.raw t.dialect fragment

/-- The set operations. -/
def compileCombines (s : Sections Prepared) : Rendering String := do
  let combines ← s.combines.mapM (Combine.compile t)
  return String.intercalate " " combines

/-- The lock at the end, unless it is a hint after the table. -/
def compileLock (lock : Option LockMode) : Rendering String :=
  match lock with
  | none => return ""
  | some mode =>
    if t.dialect.lockIsHint then return "" else ofExcept (t.dialect.lockClause mode)

/-! ## Selects on the shared context -/

/-- All sections of a select. -/
def compileSections (s : Sections Prepared) : Rendering String := do
  let (head, paging) ← compileHead t s
  let source ← compileSource t s
  let joins ← compileJoins t s
  let filters ← compileFilters t s
  let groups ← compileGroups t s
  let havings ← compileHavings t s
  let orders ← compileOrders t s.orders
  let page ← emit (paging.tail t.pagination s.hasOrders)
  let combines ← compileCombines t s
  let lock ← compileLock t s.lock
  return joinSections
    [head, source, joins, filters, groups, havings, orders, page, combines, lock]

/-- The select with a column of row numbers in the given order, which has the given bindings. -/
def Sections.withNumbers {σ : Type} (s : Sections σ) (orders : String) (bindings : List Value) :
    Sections σ :=
  let order := if orders.isEmpty then "ORDER BY (SELECT 0)" else orders
  let numbers := Column.raw ⟨rowNumberExpression t.dialect order, bindings⟩
  let listed := if s.hasColumns then s.columns else [Column.named "*"]
  { s.unpaged.unordered with columns := listed ++ [numbers], hasColumns := true }

/-- A select that is no aggregate. -/
def compilePlain (s : Sections Prepared) : Rendering String :=
  match t.pagination with
  | .topRowNumber =>
    if 0 < s.offset then do
      let (orders, bindings) ← captured (compileOrders t s.orders)
      let body ← compileSections t (s.withNumbers t orders bindings)
      emit (wrapRowNumber t.dialect ⟨s.limit, s.offset⟩ body)
    else
      compileSections t s
  | .rowCount =>
    if 0 < s.limit ∨ 0 < s.offset then do
      let body ← compileSections t s.unpaged
      emit (wrapRowCount t.dialect ⟨s.limit, s.offset⟩ body)
    else
      compileSections t s
  | _ => compileSections t s

/-- A select or an aggregate, in surroundings that hold the scope of the query. -/
def compileBody (s : Sections Prepared) : Rendering String :=
  if s.method = .aggregate then
    match s.aggregateForm with
    | .flat select => compileSections t select
    | .wrapped function rows => do
      let sql ← within s.scope (compilePlain t rows)
      return wrapAggregate t.dialect function sql
    | .hollow => compileSections t {}
  else
    compilePlain t s

/-- A select or an aggregate. -/
def compileSelect (s : Sections Prepared) : Rendering String :=
  within s.scope (compileBody t s)

/-- The conditions of a group: those on rows, or those on groups when there are none. -/
def compileGroup (s : Sections Prepared) : Rendering (Option String) :=
  let compile (cs : List (Condition Prepared)) : Rendering (Option String) := do
    let sql ← within s.scope (compileConditions t cs)
    return if sql.isEmpty then none else some sql
  if s.hasFilters then compile s.filters
  else if s.hasHavings then compile s.havings
  else return none

end Definitions

/-! ## Paging -/

section Paging

variable {use : PagingUse}

theorem boundCount_sane (n : UInt64) : (boundCount n).Sane use :=
  (Emit.Sane.bound (isScalar_ofUInt64 n)).bind fun _ => .pure _

theorem boundCount_map_sane {α : Type} (n : UInt64) (f : String → α) :
    (boundCount n >>= fun s => pure (f s)).Sane use :=
  (boundCount_sane n).bind fun _ => .pure _

theorem firstRow_justified {p : Paging} {e : Error}
    (hstyle : use.style = .topRowNumber ∨ use.style = .firstSkip ∧ p.limit ≠ 0)
    (hp : use.Covers p) (he : firstRow p.offset = .error e) : e.Justified use := by
  unfold firstRow at he
  by_cases hfits : p.offset.toNat + 1 < UInt64.size
  · rw [if_pos hfits] at he
    exact nomatch he
  · rw [if_neg hfits] at he
    obtain rfl := Except.error.inj he
    have ho : p.offset ≠ 0 := by
      intro ho
      rw [ho] at hfits
      exact hfits (by decide)
    have hused : use.IsUsed p := hp.resolve_left fun hnone => ho (by rw [hnone])
    refine ⟨p, hused, rfl, Nat.le_of_not_lt hfits, ?_⟩
    obtain hstyle | ⟨hstyle, hl⟩ := hstyle
    · by_cases hl : p.limit = 0 <;> simp [hstyle, Paging.rowNumbers, hl, ho]
    · simp [hstyle, Paging.rowNumbers, hl, ho]

theorem lastRow_justified {p : Paging} {e : Error}
    (hstyle : use.style = .topRowNumber ∨ use.style = .firstSkip ∨ use.style = .rowCount)
    (hp : use.Covers p) (he : lastRow p.limit p.offset = .error e) : e.Justified use := by
  unfold lastRow at he
  by_cases hfits : p.limit.toNat + p.offset.toNat < UInt64.size
  · rw [if_pos hfits] at he
    exact nomatch he
  · rw [if_neg hfits] at he
    obtain rfl := Except.error.inj he
    -- One number alone fits.
    have hl : p.limit ≠ 0 := by
      intro hl
      rw [hl] at hfits
      exact hfits (by simpa using p.offset.toNat_lt)
    have ho : p.offset ≠ 0 := by
      intro ho
      rw [ho] at hfits
      exact hfits (by simpa using p.limit.toNat_lt)
    have hused : use.IsUsed p := hp.resolve_left fun hnone => ho (by rw [hnone])
    refine ⟨hused, Nat.le_of_not_lt hfits, ?_⟩
    obtain hstyle | hstyle | hstyle := hstyle <;> simp [hstyle, Paging.rowNumbers, hl, ho]

/-- What is written at the head of a select binds row counts only, and leaves nothing to write or
everything. -/
theorem Paging.head_eq_ok (style : Pagination) (p : Paging) :
    ∃ bindings words rest, Paging.head style p = ⟨bindings, .ok (words, rest)⟩ ∧
      (∀ v ∈ bindings, v.IsScalar) ∧
      (rest = ⟨0, 0⟩ ∨ rest = p ∧ (style = .firstSkip → p.limit ≠ 0)) := by
  obtain ⟨l, o⟩ := p
  have hcount (n : UInt64) : ∀ v ∈ [Value.ofUInt64 n], v.IsScalar :=
    List.forall_mem_singleton.mpr (isScalar_ofUInt64 n)
  have hwhole (hskip : style = .firstSkip → l ≠ 0) :
      (⟨l, o⟩ : Paging) = ⟨0, 0⟩ ∨ (⟨l, o⟩ : Paging) = ⟨l, o⟩ ∧ (style = .firstSkip → l ≠ 0) :=
    .inr ⟨rfl, hskip⟩
  unfold head
  cases style with
  | topRowNumber =>
    dsimp only
    split
    case isTrue h =>
      obtain ⟨-, rfl⟩ := h
      exact ⟨_, _, _, rfl, hcount l, .inl rfl⟩
    case isFalse => exact ⟨_, _, _, rfl, List.forall_mem_nil _, hwhole nofun⟩
  | firstSkip =>
    dsimp only
    split
    case isTrue h =>
      obtain ⟨-, rfl⟩ := h
      exact ⟨_, _, _, rfl, hcount l, .inl rfl⟩
    case isFalse hfirst =>
      split
      case isTrue h =>
        obtain ⟨-, rfl⟩ := h
        exact ⟨_, _, _, rfl, hcount o, .inl rfl⟩
      case isFalse hskip =>
        refine ⟨_, _, _, rfl, List.forall_mem_nil _, ?_⟩
        by_cases hl : l = 0
        · have ho : o = 0 := by
            by_contra ho
            exact hskip ⟨UInt64.pos_iff_ne_zero.mpr ho, hl⟩
          exact .inl (by rw [hl, ho])
        · exact hwhole fun _ => hl
  | limitOffset _ | offsetFetch _ | rowCount =>
    exact ⟨_, _, _, rfl, List.forall_mem_nil _, hwhole nofun⟩

theorem Paging.tail_sane (hasOrders : Bool) {p : Paging} (hp : use.Covers p)
    (hskip : use.style = .firstSkip → p.limit ≠ 0) :
    (Paging.tail use.style hasOrders p).Sane use := by
  unfold Paging.tail
  refine .ite (fun _ => .pure _) fun _ => ?_
  cases hstyle : use.style with
  | limitOffset unbounded =>
    refine .ite (fun _ => boundCount_map_sane _ _) fun _ => ?_
    refine .ite (fun _ => boundCount_map_sane _ _) fun _ => ?_
    exact (boundCount_sane _).bind fun _ => boundCount_map_sane _ _
  | offsetFetch safeOrder =>
    refine (boundCount_sane _).bind fun _ => ?_
    exact .ite (fun _ => .pure _) fun _ => boundCount_map_sane _ _
  | firstSkip =>
    have hfirst : use.style = .topRowNumber ∨ use.style = .firstSkip ∧ p.limit ≠ 0 :=
      .inr ⟨hstyle, hskip hstyle⟩
    refine (Emit.Sane.ofExcept fun _ => firstRow_justified hfirst hp).bind fun a => ?_
    refine (boundCount_sane a).bind fun _ => ?_
    refine (Emit.Sane.ofExcept fun _ => lastRow_justified (.inr (.inl hstyle)) hp).bind fun b => ?_
    exact boundCount_map_sane _ _
  | topRowNumber | rowCount => exact .pure _

theorem wrapRowNumber_sane (hstyle : use.style = .topRowNumber) (d : Dialect) {p : Paging}
    (hp : use.Covers p) (body : String) : (wrapRowNumber d p body).Sane use := by
  unfold wrapRowNumber
  refine (Emit.Sane.ofExcept fun _ => firstRow_justified (.inl hstyle) hp).bind fun a => ?_
  refine (boundCount_sane a).bind fun _ => ?_
  refine .ite (fun _ => ?_) fun _ => (Emit.Sane.pure _).bind fun _ => .pure _
  refine (Emit.Sane.ofExcept fun _ => lastRow_justified (.inl hstyle) hp).bind fun b => ?_
  exact (boundCount_sane b).bind fun _ => (Emit.Sane.pure _).bind fun _ => .pure _

theorem wrapRowCount_sane (hstyle : use.style = .rowCount) (d : Dialect) {p : Paging}
    (hp : use.Covers p) (body : String) : (wrapRowCount d p body).Sane use := by
  unfold wrapRowCount
  refine .ite (fun _ => boundCount_map_sane _ _) fun _ => ?_
  refine .ite (fun _ => boundCount_map_sane _ _) fun _ => ?_
  refine (Emit.Sane.ofExcept fun _ => lastRow_justified (.inr (.inr hstyle)) hp).bind fun b => ?_
  exact (boundCount_sane b).bind fun _ => boundCount_map_sane _ _

end Paging

/-! ## The frame of the sections -/

section Sections

variable {t : Target} {use : PagingUse} {γ : Type} {f : γ → Prepared} {g : γ → Rendered}

/-- A subquery in parentheses with its alias. -/
theorem subquery_implements (hsub : ∀ x, (f x).Implements use (g x)) (x : γ) :
    Implements use
      (do
        let sql ← (f x).select
        return "(" ++ sql ++ ")" ++ aliasSuffix t.dialect (f x).aliasName)
      fun env => do
        let sql ← (g x).select env
        return "(" ++ sql ++ ")" ++ aliasSuffix t.dialect (g x).aliasName := by
  rw [(hsub x).aliasName]
  exact (hsub x).select.map _

/-- **Columns.** A column keeps its frame. -/
theorem Column.implements (hsub : ∀ x, (f x).Implements use (g x)) (c : Column γ) :
    Implements use ((c.map f).compile t) fun env => (c.map g).render t env := by
  cases c with
  | named name => exact .pure _
  | raw fragment => exact raw_implements t.dialect fragment
  | query x => exact subquery_implements hsub x
  | aggregated function column filter =>
    have hfilter : Implements use (compileColumnFilter (filter.map f)) fun env =>
        renderColumnFilter env (filter.map g) := by
      cases filter with
      | none => exact .pure _
      | some x => exact (hsub x).filter
    exact hfilter.map _

theorem columns_implements (hsub : ∀ x, (f x).Implements use (g x)) (cs : List (Column γ)) :
    Implements use ((cs.map (Column.map f)).mapM (Column.compile t)) fun env =>
      (cs.map (Column.map g)).mapM (Column.render t env) :=
  .mapM cs fun c _ => Column.implements hsub c

theorem Source.implements (hsub : ∀ x, (f x).Implements use (g x)) (hints : List TableHint)
    (s : Source γ) :
    Implements use ((s.map f).compile t hints) fun env => (s.map g).render t env hints := by
  cases s with
  | table name =>
    exact .read (f := Context.env) (g := id) (fun _ => rfl) fun env => .pure _
  | query x => exact subquery_implements hsub x
  | raw _ fragment => exact raw_implements t.dialect fragment
  | rows aliasName _ _ => exact .raise trivial

theorem JoinSections.implements (hsub : ∀ x, (f x).Implements use (g x)) (j : JoinSections γ) :
    Implements use ((j.map f).compile t) fun env => (j.map g).render t env := by
  obtain ⟨kind, target, constraints, index⟩ := j
  cases target with
  | none => exact .raise trivial
  | some source =>
    refine (Source.implements hsub _ source).bind fun table => ?_
    exact (conditions_implements hsub constraints).map _

theorem OrderBy.implements (o : OrderBy) :
    Implements use (o.compile t) fun env => o.render t env := by
  cases o with
  | column name ascending => exact .pure _
  | random seed => exact .pure _
  | raw fragment => exact raw_implements t.dialect fragment

theorem Combine.implements (hsub : ∀ x, (f x).Implements use (g x)) (c : Combine γ) :
    Implements use ((c.map f).compile t) fun env => (c.map g).render t env := by
  cases c with
  | query operation all x => exact (hsub x).select.map _
  | raw fragment => exact raw_implements t.dialect fragment

theorem justified_of_lockClause {d : Dialect} {mode : LockMode} {e : Error}
    (he : d.lockClause mode = .error e) : e.Justified use := by
  suffices h : e = .unsupportedLock mode d by
    rw [h]
    trivial
  cases d <;> cases mode <;> first | exact (Except.error.inj he).symm | exact nomatch he

theorem selectList_implements (hsub : ∀ x, (f x).Implements use (g x)) (s : Sections γ) :
    Implements use (compileSelectList t (s.map f)) fun env =>
      renderSelectList t env (s.map g) := by
  have hf : (s.map f).aggregate = s.aggregate := rfl
  have hg : (s.map g).aggregate = s.aggregate := rfl
  simp only [compileSelectList, renderSelectList, hf, hg]
  rcases s.aggregate with _ | ⟨function, _ | ⟨column, _ | _⟩⟩
  · exact (columns_implements hsub s.columns).map _
  · exact .pure _
  · exact .pure _
  · exact .pure _

/-- The head of a select keeps its frame, and what it leaves to write is nothing or everything. -/
theorem head_implements (hsub : ∀ x, (f x).Implements use (g x)) (s : Sections γ) :
    ∃ (m : Rendering String) (e : Env → Emit String) (rest : Paging), Implements use m e ∧
      compileHead t (s.map f) = (m >>= fun head => pure (head, rest)) ∧
      (∀ env, renderHead t env (s.map g) = e env >>= fun head => pure (head, rest)) ∧
      (rest = ⟨0, 0⟩ ∨
        rest = ⟨s.limit, s.offset⟩ ∧ (t.pagination = .firstSkip → s.limit ≠ 0)) := by
  obtain ⟨bindings, words, rest, hhead, hscalar, hrest⟩ :=
    Paging.head_eq_ok t.pagination ⟨s.limit, s.offset⟩
  have hwords : Implements use (emit ⟨bindings, .ok ()⟩) fun _ => ⟨bindings, .ok ()⟩ :=
    .emit ⟨hscalar, nofun⟩
  have hlist := (selectList_implements (t := t) hsub s).map fun list =>
    "SELECT " ++ words.beforeDistinct ++
      (if s.distinct && s.listsColumns then "DISTINCT " else "") ++ words.afterDistinct ++ list
  refine ⟨_, _, rest, hwords.bind fun _ => hlist, ?_, fun env => ?_, hrest⟩
  · have hemit : emit (Paging.head t.pagination ⟨s.limit, s.offset⟩) =
        emit ⟨bindings, .ok ()⟩ >>= fun _ => pure (words, rest) := by
      rw [hhead]
      rfl
    change emit (Paging.head t.pagination ⟨s.limit, s.offset⟩) >>= _ = _
    rw [hemit]
    simp only [bind_assoc, pure_bind]
    rfl
  · have hemit : Paging.head t.pagination ⟨s.limit, s.offset⟩ =
        (⟨bindings, .ok ()⟩ : Emit Unit) >>= fun _ => pure (words, rest) := by
      rw [hhead, Emit.bind_of_ok rfl]
      simp
    change Paging.head t.pagination ⟨s.limit, s.offset⟩ >>= _ = _
    rw [hemit]
    simp only [bind_assoc, pure_bind]
    rfl

theorem source_implements (hsub : ∀ x, (f x).Implements use (g x)) (s : Sections γ) :
    Implements use (compileSource t (s.map f)) fun env => renderSource t env (s.map g) := by
  have hf : (s.map f).source = s.source.map (Source.map f) := rfl
  have hg : (s.map g).source = s.source.map (Source.map g) := rfl
  unfold compileSource renderSource
  rw [hf, hg]
  cases s.source with
  | none => exact .pure _
  | some source => exact (Source.implements hsub _ source).map _

theorem joins_implements (hsub : ∀ x, (f x).Implements use (g x)) (s : Sections γ) :
    Implements use (compileJoins t (s.map f)) fun env => renderJoins t env (s.map g) := by
  have hjoins : Implements use ((s.joins.map (JoinSections.map f)).mapM (JoinSections.compile t))
      fun env => (s.joins.map (JoinSections.map g)).mapM (JoinSections.render t env) :=
    .mapM _ fun j _ => JoinSections.implements hsub j
  exact hjoins.map _

theorem filters_implements (hsub : ∀ x, (f x).Implements use (g x)) (s : Sections γ) :
    Implements use (compileFilters t (s.map f)) fun env => renderFilters t env (s.map g) :=
  (conditions_implements hsub s.filters).map _

theorem groups_implements (hsub : ∀ x, (f x).Implements use (g x)) (s : Sections γ) :
    Implements use (compileGroups t (s.map f)) fun env => renderGroups t env (s.map g) :=
  (columns_implements hsub s.groups).map _

theorem havings_implements (hsub : ∀ x, (f x).Implements use (g x)) (s : Sections γ) :
    Implements use (compileHavings t (s.map f)) fun env => renderHavings t env (s.map g) :=
  (conditions_implements hsub s.havings).map _

/-- An order has no subqueries. -/
theorem orders_implements (s : Sections Rendered) :
    Implements use (compileOrders t s.orders) fun env => renderOrders t env s := by
  have horders : Implements use ((s.orders.map id).mapM (OrderBy.compile t))
      fun env => (s.orders.map id).mapM (OrderBy.render t env) :=
    .mapM _ fun o _ => OrderBy.implements o
  rw [List.map_id] at horders
  exact horders.map _

theorem combines_implements (hsub : ∀ x, (f x).Implements use (g x)) (s : Sections γ) :
    Implements use (compileCombines t (s.map f)) fun env => renderCombines t env (s.map g) := by
  have hcombines : Implements use ((s.combines.map (Combine.map f)).mapM (Combine.compile t))
      fun env => (s.combines.map (Combine.map g)).mapM (Combine.render t env) :=
    .mapM _ fun c _ => Combine.implements hsub c
  exact hcombines.map _

theorem lock_implements (s : Sections Rendered) :
    Implements use (compileLock t s.lock) fun _ => renderLock t s := by
  unfold compileLock renderLock
  cases s.lock with
  | none => exact .pure _
  | some mode => exact .ite (fun _ => .pure _) fun _ => .ofExcept fun _ => justified_of_lockClause

/-! ## The frame of selects -/

/-- **Sections.** One section after another, each of which keeps its frame. -/
theorem sections_implements (hstyle : t.pagination = use.style)
    (hsub : ∀ x, (f x).Implements use (g x)) {s : Sections γ}
    (hp : use.Covers ⟨s.limit, s.offset⟩) :
    Implements use (compileSections t (s.map f)) fun env =>
      renderSections t env (s.map g) := by
  obtain ⟨m, e, rest, hhead, hcompile, hrender, hrest⟩ := head_implements (t := t) hsub s
  have htail (hasOrders : Bool) : (rest.tail t.pagination hasOrders).Sane use := by
    rw [hstyle]
    obtain rfl | ⟨rfl, hskip⟩ := hrest
    · exact .pure _
    · exact Paging.tail_sane hasOrders hp fun hfirst => hskip (hstyle.trans hfirst)
  unfold compileSections renderSections
  simp only [hcompile, hrender, bind_assoc, pure_bind]
  refine hhead.bind fun head => ?_
  refine (source_implements hsub s).bind fun source => ?_
  refine (joins_implements hsub s).bind fun joins => ?_
  refine (filters_implements hsub s).bind fun filters => ?_
  refine (groups_implements hsub s).bind fun groups => ?_
  refine (havings_implements hsub s).bind fun havings => ?_
  refine (orders_implements (s.map g)).bind fun orders => ?_
  have hpage : Implements use (emit (rest.tail t.pagination s.hasOrders)) fun _ =>
      rest.tail t.pagination s.hasOrders :=
    .emit (htail s.hasOrders)
  refine hpage.bind fun page => ?_
  refine (combines_implements hsub s).bind fun combines => ?_
  exact (lock_implements (s.map g)).map _

/-- The column with the numbers has no subquery. -/
theorem Sections.withNumbers_map {σ τ : Type} (f : σ → τ) (s : Sections σ) (orders : String)
    (bindings : List Value) :
    (s.map f).withNumbers t orders bindings = (s.withNumbers t orders bindings).map f := by
  cases hcolumns : s.hasColumns <;>
    simp [withNumbers, map, unpaged, unordered, Column.map, hcolumns]

/-- The bindings of an order that moves into a column are cut off, and bound again there. -/
theorem numbered_implements (hstyle : t.pagination = use.style)
    (hsub : ∀ x, (f x).Implements use (g x)) (s : Sections γ) :
    Implements use
      (do
        let (orders, bindings) ← captured (compileOrders t s.orders)
        compileSections t ((s.map f).withNumbers t orders bindings))
      fun env => numberedRows t env (s.map g) >>= renderSections t env := by
  have hnumbered : (fun env => numberedRows t env (s.map g) >>= renderSections t env) =
      fun env => (renderOrders t env (s.map g)).capture >>= fun (orders, bindings) =>
        renderSections t env ((s.map g).withNumbers t orders bindings) := by
    funext env
    change ((renderOrders t env (s.map g)).capture >>= fun (orders, bindings) =>
      pure ((s.map g).withNumbers t orders bindings)) >>= _ = _
    simp only [bind_assoc, pure_bind]
  rw [hnumbered]
  refine (orders_implements (s.map g)).captured.bind fun (orders, bindings) => ?_
  simp only [Sections.withNumbers_map]
  exact sections_implements hstyle hsub (.inl rfl)

/-- **Selects.** The styles that count rows go around a select that keeps its frame. -/
theorem plain_implements (hstyle : t.pagination = use.style)
    (hsub : ∀ x, (f x).Implements use (g x)) {s : Sections γ}
    (hp : use.Covers ⟨s.limit, s.offset⟩) :
    Implements use (compilePlain t (s.map f)) fun env => renderPlain t env (s.map g) := by
  unfold compilePlain renderPlain
  cases hpagination : t.pagination with
  | topRowNumber =>
    refine .ite (fun _ => ?_) fun _ => sections_implements hstyle hsub hp
    have hwrap : ∀ body, Implements use (emit (wrapRowNumber t.dialect ⟨s.limit, s.offset⟩ body))
        fun _ => wrapRowNumber t.dialect ⟨s.limit, s.offset⟩ body :=
      fun body => .emit (wrapRowNumber_sane (hstyle.symm.trans hpagination) _ hp body)
    have hnumbered := (numbered_implements hstyle hsub s).bind hwrap
    simp only [bind_assoc] at hnumbered
    exact hnumbered
  | rowCount =>
    refine .ite (fun _ => ?_) fun _ => sections_implements hstyle hsub hp
    have hwrap : ∀ body, Implements use (emit (wrapRowCount t.dialect ⟨s.limit, s.offset⟩ body))
        fun _ => wrapRowCount t.dialect ⟨s.limit, s.offset⟩ body :=
      fun body => .emit (wrapRowCount_sane (hstyle.symm.trans hpagination) _ hp body)
    exact (sections_implements hstyle hsub (s := s.unpaged) (.inl rfl)).bind hwrap
  | limitOffset _ | offsetFetch _ | firstSkip => exact sections_implements hstyle hsub hp

/-- The select that an aggregate stands for has no paging. -/
theorem Sections.AggregateForm.covers {s rows : Sections γ}
    (h : s.aggregateForm = .flat rows ∨ ∃ function, s.aggregateForm = .wrapped function rows) :
    use.Covers ⟨rows.limit, rows.offset⟩ := by
  obtain ⟨hlimit, hoffset⟩ := (Sections.of_aggregateForm h).1
  exact .inl (by rw [hlimit, hoffset])

/-- **Aggregates.** The rows of a derived table are selected in the scope of the query once more. -/
theorem body_implements (hstyle : t.pagination = use.style)
    (hsub : ∀ x, (f x).Implements use (g x)) {s : Sections γ}
    (hp : s.method ≠ .aggregate → use.Covers ⟨s.limit, s.offset⟩) :
    Implements use (compileBody t (s.map f)) fun env => renderBody t env (s.map g) := by
  unfold compileBody renderBody
  refine .ite (fun _ => ?_) fun hmethod => plain_implements hstyle hsub (hp hmethod)
  rw [Sections.aggregateForm_map, Sections.aggregateForm_map]
  cases hform : s.aggregateForm with
  | flat select => exact sections_implements hstyle hsub (Sections.AggregateForm.covers (.inl hform))
  | wrapped function rows =>
    have hrows : use.Covers ⟨rows.limit, rows.offset⟩ :=
      Sections.AggregateForm.covers (.inr ⟨function, hform⟩)
    exact ((plain_implements hstyle hsub hrows).within s.scope).map _
  | hollow => exact sections_implements hstyle hsub (s := {}) (.inl rfl)

theorem select_implements (hstyle : t.pagination = use.style)
    (hsub : ∀ x, (f x).Implements use (g x)) {s : Sections γ}
    (hp : s.method ≠ .aggregate → use.Covers ⟨s.limit, s.offset⟩) :
    Implements use (compileSelect t (s.map f)) fun env => renderSelect t env (s.map g) :=
  (body_implements hstyle hsub hp).within s.scope

theorem group_implements (hsub : ∀ x, (f x).Implements use (g x)) (s : Sections γ) :
    Implements use (compileGroup t (s.map f)) fun env => renderGroup t env (s.map g) := by
  have hconditions : ∀ cs : List (Condition γ), Implements use
      (within s.scope (compileConditions t (cs.map (Condition.map f))) >>= fun sql =>
        pure (if sql.isEmpty then none else some sql))
      fun env => renderConditions t (env.enter s.scope) (cs.map (Condition.map g)) >>= fun sql =>
        pure (if sql.isEmpty then none else some sql) :=
    fun cs => ((conditions_implements hsub cs).within s.scope).map _
  unfold compileGroup renderGroup
  refine .ite (fun _ => hconditions s.filters) fun _ => ?_
  exact .ite (fun _ => hconditions s.havings) fun _ => .pure none

end Sections

end SqlBuilder
