import SqlBuilder.Proofs.Alike.Rendered
import SqlBuilder.Proofs.Frame.Select
import SqlBuilder.Proofs.Rewrite.Layer

/-!
# Selects and rewritten selects

A select comes to the same text and bindings for one target as its rewriting does for another, in
surroundings where the rewriting makes up for the difference: rewritten values are written like the
values, and rewritten tables like the tables (`Rewriting.Agrees`).  The targets may differ in the
names of parameters, in the prefix of tables, and in options that the dialect takes no notice of
(`Target.Alike`).

The lemmas go section by section up to whole layers (`RewritesIn.layer`), given that the subqueries
come to the same.
-/

namespace SqlBuilder

theorem Emit.ofExcept_ok_bind {α β : Type} (a : α) (f : α → Emit β) :
    (Emit.ofExcept (.ok a) >>= f) = f a :=
  rfl

theorem Emit.ofExcept_error_bind {α β : Type} (e : Error) (f : α → Emit β) :
    (Emit.ofExcept (.error e) >>= f) = Emit.fail e :=
  rfl

/-! ## Targets -/

/-- Hints that name no index are for one dialect only. -/
theorem Dialect.tableHints_congr {d : Dialect} (hd : d ≠ .sqlServer) {hints hints' : List TableHint}
    (hindex : hints'.filterMap indexOf? = hints.filterMap indexOf?) :
    d.tableHints hints' = d.tableHints hints := by
  cases d with
  | sqlServer => exact absurd rfl hd
  | mySql => simp only [tableHints, hindex]
  | _ => rfl

/-- Of the value that a part of a date is compared with, the dialect sees no more than a text. -/
theorem Dialect.dateCondition_congr (d : Dialect) {v v' : Value} (h : v'.asText? = v.asText?)
    (column : String) (part : DatePart) (operator placeholder : String) :
    d.dateCondition column part operator placeholder v' =
      d.dateCondition column part operator placeholder v := by
  have hclock : clockFormat v' = clockFormat v := by rw [clockFormat, clockFormat, h]
  unfold dateCondition
  rw [hclock]

theorem filterMap_noLock (o : Bool) :
    (if o then [TableHint.noLock] else []).filterMap Dialect.indexOf? = [] := by
  cases o <;> rfl

/-- Targets that render everything but the names of tables alike. -/
structure Target.Alike (t t' : Target) : Prop where
  dialect : t'.dialect = t.dialect
  pagination : t'.pagination = t.pagination
  noLock : t.dialect = .sqlServer → t'.options.noLock = t.options.noLock
  omitSelect : t'.options.omitSelectInsideExists = t.options.omitSelectInsideExists

namespace Target.Alike

variable {t t' : Target}

theorem refl (t : Target) : t.Alike t :=
  ⟨rfl, rfl, fun _ => rfl, rfl⟩

variable (h : t.Alike t')

include h

/-- The source of a select has the same hints. -/
theorem sourceHints (lock : Option LockMode) :
    t.dialect.tableHints (sourceHints t' lock) = t.dialect.tableHints (sourceHints t lock) := by
  by_cases hd : t.dialect = .sqlServer
  · simp only [SqlBuilder.sourceHints, sourceHints.noLockHint, h.dialect, h.noLock hd]
  · refine Dialect.tableHints_congr hd ?_
    simp only [SqlBuilder.sourceHints, sourceHints.noLockHint, h.dialect]
    cases lock with
    | none => simp only [filterMap_noLock]
    | some mode => cases t.dialect.lockIsHint <;> simp [filterMap_noLock]

/-- The target of a join has the same hints. -/
theorem joinHints (index : Option String) :
    t.dialect.tableHints ((if t'.options.noLock then [TableHint.noLock] else []) ++
        index.toList.map TableHint.index) =
      t.dialect.tableHints ((if t.options.noLock then [TableHint.noLock] else []) ++
        index.toList.map TableHint.index) := by
  by_cases hd : t.dialect = .sqlServer
  · rw [h.noLock hd]
  · refine Dialect.tableHints_congr hd ?_
    simp only [List.filterMap_append, filterMap_noLock]

end Target.Alike

/-! ## Surroundings -/

/-- Rewritten values and tables are written in some surroundings as the values and tables themselves
are in others. -/
structure Rewriting.Agrees (ρ : Rewriting) (t t' : Target) (env env' : Env) : Prop where
  placeholder : ∀ v, env'.placeholder (ρ.value v) = env.placeholder v
  resolveValue : ∀ v, env'.resolveValue (ρ.value v) = (env.resolveValue v).map ρ.value
  /-- What a variable stands for is as much of a text as before. -/
  asText? : ∀ v w, env.resolveValue v = .ok w → (ρ.value w).asText? = w.asText?
  scalar : ∀ v : Value, v.IsScalar → ρ.value v = v
  wrapTable : ∀ table, env'.wrapTable t' (ρ.table table) = env.wrapTable t table

namespace Rewriting.Agrees

/-- In alike surroundings nothing needs to be rewritten for a target with the same dialect and
prefix. -/
theorem of_alike {t t' : Target} {env env' : Env} (h : env.Alike env')
    (hdialect : t'.dialect = t.dialect)
    (hprefixed : t'.options.tablePrefix = t.options.tablePrefix) :
    Rewriting.Agrees {} t t' env env' where
  placeholder v := (h.placeholder v).symm
  resolveValue v := by
    rw [h.resolveValue]
    exact (congrFun Except.map_id _).symm
  asText? _ _ _ := rfl
  scalar _ _ := rfl
  wrapTable table := by
    simp only [id, Env.wrapTable, Env.prefixed, hdialect, hprefixed, h.ctes]

variable {ρ : Rewriting} {t t' : Target} {env env' : Env} (h : ρ.Agrees t t' env env')

include h

/-- Values that are bound as they are, are written the same. -/
theorem placeholder_scalar {v : Value} (hv : v.IsScalar) :
    env'.placeholder v = env.placeholder v := by
  rw [← h.placeholder, h.scalar v hv]

theorem placeholders (vs : List Value) :
    env'.placeholders (vs.map ρ.value) = env.placeholders vs := by
  simp only [Env.placeholders, List.mapM_map, Function.comp_def, h.placeholder]

theorem fillValues (vs : List Value) (ts : List Token) :
    env'.fillValues (vs.map ρ.value) ts = env.fillValues vs ts := by
  fun_induction Env.fillValues env vs ts with
  | case1 v vs ts ih => rw [List.map_cons, Env.fillValues, h.placeholder, ih]
  | case2 vs token ts hmark ih =>
    have hmark' : ∀ v' vs', vs.map ρ.value = v' :: vs' → token = .mark → False := by
      intro v' vs' hvs
      obtain ⟨v, vs, rfl, -, -⟩ := List.map_eq_cons_iff.mp hvs
      exact hmark v vs rfl
    rw [Env.fillValues.eq_2 env' _ token ts hmark', ih]
  | case3 vs => cases vs <;> rfl

theorem raw (d : Dialect) (f : Fragment) : env'.raw d (f.rewrite ρ) = env.raw d f := by
  simp only [Env.raw, Fragment.rewrite, List.length_map, h.fillValues]

end Rewriting.Agrees

/-- The column with the numbers is written with values that are left alone. -/
theorem Sections.withNumbers_rewrite {σ : Type} {ρ : Rewriting} {t t' : Target}
    (hdialect : t'.dialect = t.dialect) {bindings : List Value}
    (hbindings : bindings.map ρ.value = bindings) (s : Sections σ) (orders : String) :
    (s.rewrite ρ).withNumbers t' orders bindings = (s.withNumbers t orders bindings).rewrite ρ := by
  cases hcolumns : s.hasColumns <;>
    simp [withNumbers, rewrite, unpaged, unordered, Column.rewrite, Fragment.rewrite, hcolumns,
      hbindings, hdialect]

/-! ## Renderings that agree -/

variable {γ : Type}

/-- Subqueries are rendered in some surroundings as they are in others, where a rewriting makes up
for the difference. -/
structure RewritesIn (ρ : Rewriting) (t t' : Target) (p q : γ → Rendered) (env env' : Env) :
    Prop where
  target : t.Alike t'
  agrees : ρ.Agrees t t' env env'
  subquery : ∀ x, (p x).AgreeAt env env' (q x)

variable {ρ : Rewriting} {t t' : Target} {p q : γ → Rendered} {env env' : Env}

namespace RewritesIn

variable (h : RewritesIn ρ t t' p q env env')

include h

/-! ## Conditions -/

/-- Only a text is matched with a pattern, and a rewriting keeps it. -/
theorem pattern (isNot : Bool) (column : String) (shape : StringMatch) (value : Value)
    (caseSensitive : Bool) (escape : Option Char) :
    ConditionKind.render t env isNot (.pattern column shape value caseSensitive escape) =
      ConditionKind.render t' env' isNot
        (.pattern column shape (ρ.value value) caseSensitive escape) := by
  have htext : ∀ s : String, env'.placeholder (.text s) = env.placeholder (.text s) :=
    fun s => h.agrees.placeholder_scalar trivial
  simp only [ConditionKind.render, h.agrees.resolveValue, h.target.dialect]
  cases hresolve : env.resolveValue value with
  | error e => rfl
  | ok w =>
    have hw := h.agrees.asText? value w hresolve
    simp only [Except.map, Emit.ofExcept_ok_bind]
    generalize ρ.value w = w' at hw
    cases w' with
    | text s' =>
      cases w with
      | text s =>
        obtain rfl : s' = s := Option.some.inj hw
        simp only [htext]
      | _ => exact nomatch hw
    | _ =>
      cases w with
      | text s => exact nomatch hw
      | _ => rfl

theorem datePart (isNot : Bool) (part : DatePart) (column : String) (operator : Operator)
    (value : Value) :
    ConditionKind.render t env isNot (.datePart part column operator value) =
      ConditionKind.render t' env' isNot (.datePart part column operator (ρ.value value)) := by
  simp only [ConditionKind.render, h.agrees.resolveValue, h.target.dialect]
  cases hresolve : env.resolveValue value with
  | error e => rfl
  | ok w =>
    have hdate := Dialect.dateCondition_congr t.dialect (h.agrees.asText? value w hresolve)
    simp only [Except.map, Emit.ofExcept_ok_bind, h.agrees.placeholder, hdate]

theorem conditionKind (isNot : Bool) (k : ConditionKind γ) :
    (k.map p).render t env isNot = ((k.rewrite ρ).map q).render t' env' isNot := by
  cases k with
  | compare column operator value =>
    simp only [ConditionKind.map, ConditionKind.rewrite, ConditionKind.render,
      h.agrees.placeholder, h.target.dialect]
  | pattern column shape value caseSensitive escape =>
    exact h.pattern isNot column shape value caseSensitive escape
  | datePart part column operator value => exact h.datePart isNot part column operator value
  | columns first operator second =>
    simp only [ConditionKind.map, ConditionKind.rewrite, ConditionKind.render, h.target.dialect]
  | null column =>
    simp only [ConditionKind.map, ConditionKind.rewrite, ConditionKind.render, h.target.dialect]
  | boolean column value =>
    simp only [ConditionKind.map, ConditionKind.rewrite, ConditionKind.render, h.target.dialect]
  | between column lower higher =>
    simp only [ConditionKind.map, ConditionKind.rewrite, ConditionKind.render,
      h.agrees.placeholder, h.target.dialect]
  | inList column values =>
    simp only [ConditionKind.map, ConditionKind.rewrite, ConditionKind.render,
      h.agrees.placeholders, h.target.dialect]
  | inQuery column x =>
    simp only [ConditionKind.map, ConditionKind.rewrite, ConditionKind.render,
      (h.subquery x).select, h.target.dialect]
  | nonempty x =>
    simp only [ConditionKind.map, ConditionKind.rewrite, ConditionKind.render,
      (h.subquery x).hasSource, (h.subquery x).select, (h.subquery x).existsOperand,
      h.target.omitSelect]
  | group x =>
    simp only [ConditionKind.map, ConditionKind.rewrite, ConditionKind.render,
      (h.subquery x).group]
  | raw fragment =>
    simp only [ConditionKind.map, ConditionKind.rewrite, ConditionKind.render, h.agrees.raw,
      h.target.dialect]
  | queryCompare x operator value =>
    simp only [ConditionKind.map, ConditionKind.rewrite, ConditionKind.render,
      (h.subquery x).select, h.agrees.placeholder]
  | columnQuery column operator x =>
    simp only [ConditionKind.map, ConditionKind.rewrite, ConditionKind.render,
      (h.subquery x).select, h.target.dialect]

theorem conditions (cs : List (Condition γ)) :
    renderConditions t env (cs.map (Condition.map p)) =
      renderConditions t' env' ((cs.map (Condition.rewrite ρ)).map (Condition.map q)) := by
  simp only [renderConditions, List.mapM_map, Function.comp_def, Condition.render, Condition.map,
    Condition.rewrite, h.conditionKind]

/-! ## Columns, sources, joins and set operations -/

theorem column (c : Column γ) :
    (c.map p).render t env = ((c.rewrite ρ).map q).render t' env' := by
  cases c with
  | named name => simp only [Column.map, Column.rewrite, Column.render, h.target.dialect]
  | query x =>
    simp only [Column.map, Column.rewrite, Column.render, (h.subquery x).select,
      (h.subquery x).aliasName, h.target.dialect]
  | aggregated function column filter =>
    cases filter with
    | none =>
      simp only [Column.map, Column.rewrite, Column.render, Option.map_none, renderColumnFilter,
        h.target.dialect]
    | some x =>
      simp only [Column.map, Column.rewrite, Column.render, Option.map_some, renderColumnFilter,
        (h.subquery x).filter, h.target.dialect]
  | raw fragment =>
    simp only [Column.map, Column.rewrite, Column.render, h.agrees.raw, h.target.dialect]

theorem columns (cs : List (Column γ)) :
    (cs.map (Column.map p)).mapM (Column.render t env) =
      ((cs.map (Column.rewrite ρ)).map (Column.map q)).mapM (Column.render t' env') := by
  simp only [List.mapM_map, Function.comp_def, h.column]

theorem source {hints hints' : List TableHint}
    (hhints : t.dialect.tableHints hints' = t.dialect.tableHints hints) (s : Source γ) :
    (s.map p).render t env hints = ((s.rewrite ρ).map q).render t' env' hints' := by
  cases s with
  | table name =>
    simp only [Source.map, Source.rewrite, Source.render, h.agrees.wrapTable, h.target.dialect,
      hhints]
  | query x =>
    simp only [Source.map, Source.rewrite, Source.render, (h.subquery x).select,
      (h.subquery x).aliasName, h.target.dialect]
  | raw _ fragment =>
    simp only [Source.map, Source.rewrite, Source.render, h.agrees.raw, h.target.dialect]
  | rows aliasName _ _ => rfl

theorem join (j : JoinSections γ) :
    (j.map p).render t env = ((j.rewrite ρ).map q).render t' env' := by
  obtain ⟨kind, target, constraints, index⟩ := j
  cases target with
  | none => rfl
  | some source =>
    simp only [JoinSections.map, JoinSections.rewrite, JoinSections.render, Option.map_some,
      h.conditions, h.source (h.target.joinHints index)]

theorem combine (c : Combine γ) :
    (c.map p).render t env = ((c.rewrite ρ).map q).render t' env' := by
  cases c with
  | query operation all x =>
    simp only [Combine.map, Combine.rewrite, Combine.render, (h.subquery x).select]
  | raw fragment =>
    simp only [Combine.map, Combine.rewrite, Combine.render, h.agrees.raw, h.target.dialect]

theorem order (o : OrderBy) : o.render t env = (o.rewrite ρ).render t' env' := by
  cases o with
  | column name ascending =>
    simp only [OrderBy.rewrite, OrderBy.render, h.target.dialect]
  | random seed => simp only [OrderBy.rewrite, OrderBy.render, h.target.dialect]
  | raw fragment =>
    simp only [OrderBy.rewrite, OrderBy.render, h.agrees.raw, h.target.dialect]

/-! ## The sections of a select -/

variable (s : Sections γ)

theorem selectList :
    renderSelectList t env (s.map p) = renderSelectList t' env' ((s.rewrite ρ).map q) := by
  have haggregate : (s.map p).aggregate = s.aggregate := rfl
  have haggregate' : ((s.rewrite ρ).map q).aggregate = s.aggregate := rfl
  have hcolumns : (s.map p).columns.mapM (Column.render t env) =
      ((s.rewrite ρ).map q).columns.mapM (Column.render t' env') := h.columns s.columns
  simp only [renderSelectList, haggregate, haggregate', hcolumns, h.target.dialect]

theorem head : renderHead t env (s.map p) = renderHead t' env' ((s.rewrite ρ).map q) := by
  have hpaging : (s.map p).limit = ((s.rewrite ρ).map q).limit ∧
      (s.map p).offset = ((s.rewrite ρ).map q).offset ∧
      (s.map p).distinct = ((s.rewrite ρ).map q).distinct ∧
      (s.map p).listsColumns = ((s.rewrite ρ).map q).listsColumns :=
    ⟨rfl, rfl, rfl, rfl⟩
  simp only [renderHead, hpaging, h.selectList, h.target.pagination]

theorem sourceSection :
    renderSource t env (s.map p) = renderSource t' env' ((s.rewrite ρ).map q) := by
  have hsource : (s.map p).source = s.source.map (Source.map p) := rfl
  have hsource' : ((s.rewrite ρ).map q).source =
      (s.source.map (Source.rewrite ρ)).map (Source.map q) := rfl
  have hlock : (s.map p).lock = s.lock := rfl
  have hlock' : ((s.rewrite ρ).map q).lock = s.lock := rfl
  unfold renderSource
  rw [hsource, hsource', hlock, hlock']
  cases s.source with
  | none => rfl
  | some source =>
    simp only [Option.map_some, h.source (h.target.sourceHints s.lock)]

theorem joins : renderJoins t env (s.map p) = renderJoins t' env' ((s.rewrite ρ).map q) := by
  have hjoins : (s.map p).joins.mapM (JoinSections.render t env) =
      ((s.rewrite ρ).map q).joins.mapM (JoinSections.render t' env') := by
    simp only [Sections.map, Sections.rewrite, List.mapM_map, Function.comp_def, h.join]
  simp only [renderJoins, hjoins]

theorem filters :
    renderFilters t env (s.map p) = renderFilters t' env' ((s.rewrite ρ).map q) := by
  have hfilters : renderConditions t env (s.map p).filters =
      renderConditions t' env' ((s.rewrite ρ).map q).filters := h.conditions s.filters
  simp only [renderFilters, hfilters]

theorem groups : renderGroups t env (s.map p) = renderGroups t' env' ((s.rewrite ρ).map q) := by
  have hgroups : (s.map p).groups.mapM (Column.render t env) =
      ((s.rewrite ρ).map q).groups.mapM (Column.render t' env') := h.columns s.groups
  simp only [renderGroups, hgroups]

theorem havings :
    renderHavings t env (s.map p) = renderHavings t' env' ((s.rewrite ρ).map q) := by
  have hhavings : renderConditions t env (s.map p).havings =
      renderConditions t' env' ((s.rewrite ρ).map q).havings := h.conditions s.havings
  simp only [renderHavings, hhavings]

theorem orders : renderOrders t env (s.map p) = renderOrders t' env' ((s.rewrite ρ).map q) := by
  have horders : (s.map p).orders.mapM (OrderBy.render t env) =
      ((s.rewrite ρ).map q).orders.mapM (OrderBy.render t' env') := by
    have horder : OrderBy.render t env = OrderBy.render t' env' ∘ OrderBy.rewrite ρ :=
      funext h.order
    simp only [Sections.map, Sections.rewrite, List.mapM_map, horder]
  simp only [renderOrders, horders]

theorem combines :
    renderCombines t env (s.map p) = renderCombines t' env' ((s.rewrite ρ).map q) := by
  have hcombines : (s.map p).combines.mapM (Combine.render t env) =
      ((s.rewrite ρ).map q).combines.mapM (Combine.render t' env') := by
    simp only [Sections.map, Sections.rewrite, List.mapM_map, Function.comp_def, h.combine]
  simp only [renderCombines, hcombines]

theorem lock : renderLock t (s.map p) = renderLock t' ((s.rewrite ρ).map q) := by
  have hlock : (s.map p).lock = ((s.rewrite ρ).map q).lock := rfl
  simp only [renderLock, hlock, h.target.dialect]

/-! ## Selects -/

theorem sections :
    renderSections t env (s.map p) = renderSections t' env' ((s.rewrite ρ).map q) := by
  have horders : (s.map p).hasOrders = ((s.rewrite ρ).map q).hasOrders := rfl
  simp only [renderSections, h.head, h.sourceSection, h.joins, h.filters, h.groups, h.havings,
    h.orders, h.combines, h.lock, horders, h.target.pagination]

/-- The bindings of an order that moves into a column stand for themselves. -/
theorem orderBindings {v : Value} (hv : v ∈ (renderOrders t env (s.map p)).bindings) :
    ρ.value v = v := by
  have himplements : Rendering.Implements (.any t.pagination)
      (compileOrders t (s.map p).orders) fun env => renderOrders t env (s.map p) :=
    orders_implements (s.map p)
  exact h.agrees.scalar v ((himplements.sane env).scalar v hv)

/-- The rows of a select are numbered in the same order. -/
theorem numbered {β : Type} {k k' : Sections Rendered → Emit β}
    (hk : ∀ s : Sections γ, k (s.map p) = k' ((s.rewrite ρ).map q)) :
    numberedRows t env (s.map p) >>= k = numberedRows t' env' ((s.rewrite ρ).map q) >>= k' := by
  have hbindings : (renderOrders t env (s.map p)).bindings.map ρ.value =
      (renderOrders t env (s.map p)).bindings :=
    (List.map_congr_left (g := id) fun v hv => h.orderBindings s hv).trans (List.map_id _)
  change ((renderOrders t env (s.map p)).capture >>= fun written =>
      pure ((s.map p).withNumbers t written.1 written.2)) >>= k =
    ((renderOrders t' env' ((s.rewrite ρ).map q)).capture >>= fun written =>
      pure (((s.rewrite ρ).map q).withNumbers t' written.1 written.2)) >>= k'
  rw [← h.orders, bind_assoc, bind_assoc]
  simp only [pure_bind, Sections.withNumbers_map]
  generalize renderOrders t env (s.map p) = written at hbindings
  obtain ⟨bindings, outcome⟩ := written
  cases outcome with
  | error e => rfl
  | ok orders =>
    change k ((s.withNumbers t orders bindings).map p) =
      k' (((s.rewrite ρ).withNumbers t' orders bindings).map q)
    rw [hk, Sections.withNumbers_rewrite h.target.dialect hbindings]

theorem plain : renderPlain t env (s.map p) = renderPlain t' env' ((s.rewrite ρ).map q) := by
  have hlimit : (s.map p).limit = s.limit := rfl
  have hlimit' : ((s.rewrite ρ).map q).limit = s.limit := rfl
  have hoffset : (s.map p).offset = s.offset := rfl
  have hoffset' : ((s.rewrite ρ).map q).offset = s.offset := rfl
  unfold renderPlain
  rw [h.target.pagination, h.target.dialect, hlimit, hlimit', hoffset, hoffset', h.sections]
  cases t.pagination with
  | topRowNumber =>
    dsimp only
    by_cases hpositive : 0 < s.offset
    · rw [if_pos hpositive, if_pos hpositive]
      exact h.numbered s fun s => by rw [h.sections]
    · rw [if_neg hpositive, if_neg hpositive]
  | rowCount =>
    have hunpaged : renderSections t env (s.map p).unpaged =
        renderSections t' env' ((s.rewrite ρ).map q).unpaged :=
      h.sections s.unpaged
    simp only [hunpaged]
  | limitOffset _ | offsetFetch _ | firstSkip => rfl

/-- A select or an aggregate.  The rows of a derived table are selected in the scope of the query
once more. -/
theorem body
    (hagain : RewritesIn ρ t t' p q (env.enter s.scope) (env'.enter (ρ.scope s.scope))) :
    renderBody t env (s.map p) = renderBody t' env' ((s.rewrite ρ).map q) := by
  have hmethod : (s.map p).method = s.method := rfl
  have hmethod' : ((s.rewrite ρ).map q).method = s.method := rfl
  have hscope : (s.map p).scope = s.scope := rfl
  have hscope' : ((s.rewrite ρ).map q).scope = ρ.scope s.scope := rfl
  unfold renderBody
  rw [hmethod, hmethod', Sections.aggregateForm_map, Sections.aggregateForm_map,
    Sections.aggregateForm_rewrite, h.plain, hscope, hscope']
  cases s.aggregateForm with
  | flat select =>
    simp only [Sections.AggregateForm.map, Sections.AggregateForm.rewrite, h.sections]
  | wrapped function rows =>
    simp only [Sections.AggregateForm.map, Sections.AggregateForm.rewrite, hagain.plain,
      h.target.dialect]
  | hollow =>
    have hempty : renderSections t env {} = renderSections t' env' {} := h.sections {}
    simp only [Sections.AggregateForm.map, Sections.AggregateForm.rewrite, hempty]

end RewritesIn

/-! ## Subqueries -/

section Enter

variable {s : Sections γ}
  (h : RewritesIn ρ t t' p q (env.enter s.scope) (env'.enter (ρ.scope s.scope)))

include h

theorem RewritesIn.select
    (hagain : RewritesIn ρ t t' p q ((env.enter s.scope).enter s.scope)
      ((env'.enter (ρ.scope s.scope)).enter (ρ.scope s.scope))) :
    renderSelect t env (s.map p) = renderSelect t' env' ((s.rewrite ρ).map q) :=
  h.body s hagain

theorem RewritesIn.group :
    renderGroup t env (s.map p) = renderGroup t' env' ((s.rewrite ρ).map q) := by
  have hfilters : renderConditions t (env.enter (s.map p).scope) (s.map p).filters =
      renderConditions t' (env'.enter ((s.rewrite ρ).map q).scope)
        ((s.rewrite ρ).map q).filters :=
    h.conditions s.filters
  have hhavings : renderConditions t (env.enter (s.map p).scope) (s.map p).havings =
      renderConditions t' (env'.enter ((s.rewrite ρ).map q).scope)
        ((s.rewrite ρ).map q).havings :=
    h.conditions s.havings
  have hpresence : (s.map p).hasFilters = ((s.rewrite ρ).map q).hasFilters ∧
      (s.map p).hasHavings = ((s.rewrite ρ).map q).hasHavings := ⟨rfl, rfl⟩
  simp only [renderGroup, hpresence, hfilters, hhavings]

/-- A layer whose subqueries come to the same inside comes to the same. -/
theorem RewritesIn.layer
    (hagain : RewritesIn ρ t t' p q ((env.enter s.scope).enter s.scope)
      ((env'.enter (ρ.scope s.scope)).enter (ρ.scope s.scope))) :
    (Rendered.of t (s.map p)).AgreeAt env env' (Rendered.of t' ((s.rewrite ρ).map q)) where
  aliasName := rfl
  hasSource := rfl
  select := h.select hagain
  existsOperand := RewritesIn.select (s := s.trimmed) h hagain
  group := h.group
  filter := h.conditions s.filters

end Enter

end SqlBuilder
