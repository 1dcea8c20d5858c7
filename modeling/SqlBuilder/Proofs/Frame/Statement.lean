import SqlBuilder.Proofs.Compile
import SqlBuilder.Proofs.Cte.Distinct
import SqlBuilder.Proofs.Frame.Select
import SqlBuilder.Proofs.Query.Inside
import SqlBuilder.Session

/-!
# The frame of a compilation

A query that is rendered on a shared context from the inside out (`Subquery.prepared`) keeps its
frame: one layer does when its subqueries do (`Prepared.of_implements`), so every depth does
(`Subquery.prepared_implements`).  What it complains about is the paging of the query itself or of
one that the dialect sees inside of it.

`Rendering.Frame` says what that means in one context.  A renderer leaves the scopes, the common
table expressions and the variables that are being replaced as they were, appends its bindings to
those that were there, and would do the same whatever these had been.  Every part of a statement has
this property in every context (`rendering_frame`), also when it fails.

Statements around a query bind nothing but what such parts bind (`renderMethod_sane`).
-/

namespace SqlBuilder

open Rendering

variable (t : Target)

/-- The limit and the offset of a query that are in force for a dialect. -/
def QueryOver.pagingFor {σ : Type} (q : QueryOver σ) (d : Dialect) : Paging :=
  ⟨q.limitFor (some d), q.offsetFor (some d)⟩

/-! ## Subqueries on the shared context -/

/-- What an enclosing statement can ask of a query. -/
def Prepared.of (s : Sections Prepared) : Prepared where
  aliasName := s.aliasName
  hasSource := s.hasSource
  select := compileSelect t s
  existsOperand := compileSelect t s.trimmed
  group := compileGroup t s
  filter := within s.scope (compileConditions t s.filters)

/-- A subquery, prepared from the inside out. -/
def Subquery.prepared : Subquery → Prepared :=
  Subquery.fold fun layer => Prepared.of t (Sections.of t.dialect layer)

/-- What a query says to the dialect, its subqueries prepared. -/
def Query.preparedSections (q : Query) : Sections Prepared :=
  Sections.of t.dialect (q.map (Subquery.prepared t))

theorem Subquery.prepared_mk (q : Query) :
    Subquery.prepared t ⟨q⟩ = Prepared.of t (q.preparedSections t) :=
  Subquery.fold_mk _ q

section Parts

variable {t} {use : PagingUse} {γ : Type} {f : γ → Prepared} {g : γ → Rendered}

/-! ## Common table expressions -/

theorem placeholder_sane (env : Env) (v : Value) : (env.placeholder v).Sane use :=
  (parameter_implements v).sane env

theorem placeholders_sane (env : Env) (vs : List Value) : (env.placeholders vs).Sane use :=
  (parameters_implements vs).sane env

theorem renderRows_sane (env : Env) (columns : List String) (values : List Value) :
    (renderRows t env columns values).Sane use := by
  unfold renderRows
  refine .ite (fun _ => .fail trivial) fun _ => ?_
  cases t.dialect.rowsStyle with
  | valuesTable =>
    refine Emit.Sane.bind (.mapM fun row _ => ?_) fun rows => .pure _
    exact (placeholders_sane env row).bind fun _ => .pure _
  | unionAll =>
    refine Emit.Sane.bind (.mapM fun row _ => ?_) fun selects => .pure _
    refine Emit.Sane.bind (.mapM fun (value, column) _ => ?_) fun cells => .pure _
    exact (placeholder_sane env value).bind fun _ => .pure _

theorem Source.renderBody_sane (hsub : ∀ x, (f x).Implements use (g x)) (env : Env)
    (s : Source γ) : ((s.map g).renderBody t env).Sane use := by
  cases s with
  | table name => exact .pure _
  | query x => exact (hsub x).select.sane env
  | raw _ fragment => exact (raw_implements t.dialect fragment).sane env
  | rows _ columns values => exact renderRows_sane env columns values

theorem allCtes_sane (hsub : ∀ x, (f x).Implements use (g x)) (s : Sections γ) :
    ∀ c ∈ (s.map g).allCtes t, ∀ env, (c.body env).Sane use := by
  intro c hc env
  obtain ⟨source, hsource, hc⟩ := List.mem_flatMap.mp hc
  obtain ⟨s', -, rfl⟩ := List.mem_map.mp hsource
  obtain hinner | hbody := List.mem_append.mp hc
  · cases s' with
    | query x => exact (hsub x).ctes c hinner env
    | table _ | raw _ _ | rows _ _ _ => exact absurd hinner List.not_mem_nil
  · obtain rfl := List.mem_singleton.mp hbody
    exact Source.renderBody_sane hsub env s'

/-! ## Subqueries -/

/-- One layer, its subqueries being known through what is asked of them. -/
theorem Prepared.of_implements (hstyle : t.pagination = use.style)
    (hsub : ∀ x, (f x).Implements use (g x)) {s : Sections γ}
    (hp : s.method ≠ .aggregate → use.Covers ⟨s.limit, s.offset⟩) :
    (Prepared.of t (s.map f)).Implements use (Rendered.of t (s.map g)) where
  aliasName := rfl
  hasSource := rfl
  select := select_implements hstyle hsub hp
  existsOperand := select_implements (s := s.trimmed) hstyle hsub hp
  group := group_implements hsub s
  filter := (conditions_implements hsub s.filters).within s.scope
  ctes := allCtes_sane hsub s

/-- The use covers the limits and offsets of all queries that are selected inside of a query, those
of aggregates apart, which are dropped. -/
def PagingUse.CoversInside (use : PagingUse) (d : Dialect) (q : Query) : Prop :=
  ∀ r : Query, Query.Inside d r q → r.method ≠ .aggregate → use.Covers (r.pagingFor d)

theorem PagingUse.CoversInside.sub {q : Query} {s : Subquery}
    (h : use.CoversInside t.dialect q) (hs : s ∈ (Sections.of t.dialect q).subqueries) :
    use.CoversInside t.dialect s.query :=
  fun r hr => h r (.sub hs hr)

/-- What a dialect sees of a query is a layer over prepared subqueries that keep their frame. -/
theorem Subquery.exists_attach_prepared {q : Query}
    (h : ∀ s ∈ (Sections.of t.dialect q).subqueries,
      (s.prepared t).Implements use (s.rendered t)) :
    ∃ (γ : Type) (f : γ → Prepared) (g : γ → Rendered) (S : Sections γ),
      (∀ x, (f x).Implements use (g x)) ∧ q.preparedSections t = S.map f ∧
        q.sections t = S.map g ∧ S.method = q.method ∧
          (⟨S.limit, S.offset⟩ : Paging) = q.pagingFor t.dialect := by
  obtain ⟨S, hS⟩ := (Sections.of t.dialect q).attach h
  refine ⟨_, Subquery.prepared t ∘ Subtype.val, Subquery.rendered t ∘ Subtype.val, S,
    fun x => x.2, ?_, ?_, congrArg Sections.method hS, ?_⟩
  · rw [Query.preparedSections, Sections.of_map, ← hS, Sections.map_map]
  · rw [Query.sections, Sections.of_map, ← hS, Sections.map_map]
  · exact congrArg (fun s => Paging.mk s.limit s.offset) hS

/-- A prepared subquery keeps its frame, at every depth. -/
theorem Subquery.prepared_implements (hstyle : t.pagination = use.style) (s : Subquery)
    (h : use.CoversInside t.dialect s.query) :
    (s.prepared t).Implements use (s.rendered t) := by
  induction s using Subquery.induction with
  | layer q ih =>
    have hsub : ∀ s ∈ (Sections.of t.dialect q).subqueries,
        (s.prepared t).Implements use (s.rendered t) :=
      fun s hs => ih s (Sections.mem_subqueries_of hs) (h.sub hs)
    obtain ⟨γ, f, g, S, himplements, hprepared, hrendered, hmethod, hpaging⟩ :=
      exists_attach_prepared hsub
    rw [Subquery.rendered_mk, hrendered, Subquery.prepared_mk, hprepared]
    refine Prepared.of_implements hstyle himplements fun hselect => ?_
    rw [hpaging]
    exact h q (.self q) (hmethod ▸ hselect)

/-! ## Statements -/

theorem renderPrologue_sane (env : Env) {cs : List Cte}
    (hcs : ∀ c ∈ cs, ∀ env, (c.body env).Sane use) : (renderPrologue t env cs).Sane use := by
  refine Emit.Sane.bind (.mapM fun c hc => ?_) fun parts => .pure _
  unfold Cte.render
  cases c.aliasName with
  | none => exact .fail trivial
  | some a => exact (hcs c hc env).bind fun _ => .pure _

theorem renderTarget_sane (env : Env) (s : Sections Rendered) (method : Method) :
    (renderTarget t env s method).Sane use := by
  unfold renderTarget
  split
  · exact .pure _
  · exact (raw_implements t.dialect _).sane env
  · exact .fail trivial

theorem justified_of_collect? {columns : List String} {σ : Type} {rows : List (InsertClause σ)}
    {e : Error} (he : InsertRows.collect? columns rows = .error e) : e.Justified use := by
  fun_induction InsertRows.collect? columns rows with
  | case1 => exact nomatch he
  | case2 =>
    obtain rfl := Except.error.inj he
    trivial
  | case3 => exact nomatch he
  | case4 _ _ _ e' hrest ih =>
    obtain rfl := Except.error.inj he
    exact ih hrest
  | case5 =>
    obtain rfl := Except.error.inj he
    trivial

theorem justified_of_insertSuffix {d : Dialect} {returnId : Bool} {e : Error}
    (he : insertSuffix d returnId = .error e) : e.Justified use := by
  unfold insertSuffix lastInsertId at he
  split at he
  · split at he
    · exact nomatch he
    · obtain rfl := Except.error.inj he
      trivial
  · exact nomatch he

theorem renderRowInserts_sane (env : Env) (table columns : String) (rows : List (List Value)) :
    (renderRowInserts t env table columns rows).Sane use := by
  refine Emit.Sane.bind (.mapM fun row _ => placeholders_sane env row) fun lists => ?_
  cases t.dialect.multiInsert <;> exact .pure _

theorem renderInsert_sane (hsub : ∀ x, (f x).Implements use (g x)) (env : Env)
    (s : Sections γ) : (renderInsert t env (s.map g)).Sane use := by
  refine (renderTarget_sane env _ _).bind fun table => ?_
  have hinserts : (s.map g).inserts = s.inserts.map (InsertClause.map g) := rfl
  rw [hinserts]
  match s.inserts with
  | [] => exact .fail trivial
  | .query columns x :: _ => exact ((hsub x).select.sane env).bind fun _ => .pure _
  | .row columns values returnId :: rest =>
    refine Emit.Sane.bind (.ofExcept fun _ => justified_of_collect?) fun insert => ?_
    dsimp only
    split
    · refine (placeholders_sane env _).bind fun list => ?_
      exact Emit.Sane.bind (.ofExcept fun _ => justified_of_insertSuffix) fun _ => .pure _
    · exact renderRowInserts_sane env _ _ _

theorem renderUpdate_sane (hsub : ∀ x, (f x).Implements use (g x)) (env : Env)
    (s : Sections γ) : (renderUpdate t env (s.map g)).Sane use := by
  refine (renderTarget_sane env _ _).bind fun table => ?_
  cases (s.map g).update with
  | none => exact .fail trivial
  | some update =>
    have hassignments : (update.render t env).Sane use := by
      cases update with
      | set columns values =>
        refine Emit.Sane.bind (.mapM fun (column, value) _ => ?_) fun parts => .pure _
        exact (placeholder_sane env value).bind fun _ => .pure _
      | increment column amount => exact (placeholder_sane env _).bind fun _ => .pure _
    exact hassignments.bind fun _ => ((filters_implements hsub s).sane env).bind fun _ => .pure _

theorem renderDelete_sane (hsub : ∀ x, (f x).Implements use (g x)) (env : Env)
    (s : Sections γ) : (renderDelete t env (s.map g)).Sane use := by
  refine (renderTarget_sane env _ _).bind fun table => ?_
  have htarget : ∀ e, deleteTarget t.dialect (s.map g) = .error e → e.Justified use := by
    intro e he
    unfold deleteTarget at he
    split at he
    · exact nomatch he
    · obtain rfl := Except.error.inj he
      trivial
  have hhead : (renderDeleteHead t env (s.map g) table).Sane use := by
    refine .ite (fun _ => ?_) fun _ => .pure _
    exact Emit.Sane.bind (.ofExcept htarget) fun _ =>
      ((joins_implements hsub s).sane env).bind fun _ => .pure _
  exact hhead.bind fun _ => ((filters_implements hsub s).sane env).bind fun _ => .pure _

theorem renderStatement_sane (hstyle : t.pagination = use.style)
    (hsub : ∀ x, (f x).Implements use (g x)) (env : Env) {s : Sections γ}
    (hp : s.method = .select → use.Covers ⟨s.limit, s.offset⟩) :
    (renderStatement t env (s.map g)).Sane use := by
  have hctes : ∀ c ∈ (s.map g).hoistedCtes t, ∀ env, (c.body env).Sane use :=
    fun c hc => allCtes_sane hsub s c ((distinctCtes_sublist _ _).subset hc)
  refine (renderPrologue_sane _ hctes).bind fun prologue => ?_
  have hdata : ∀ env, (renderData t env (s.map g)).Sane use := by
    intro env
    unfold renderData
    split
    case h_1 hselect => exact (body_implements hstyle hsub fun _ => hp hselect).sane env
    case h_2 haggregate =>
      exact (body_implements hstyle hsub fun hmethod => absurd haggregate hmethod).sane env
    · exact renderInsert_sane hsub env s
    · exact renderUpdate_sane hsub env s
    · exact renderDelete_sane hsub env s
    · exact .fail trivial
  exact (hdata _).bind fun _ => .pure _

/-! ## Tables -/

theorem justified_of_tableName {env : Env} {s : Sections Rendered} {e : Error}
    (he : tableName t env s = .error e) : e.Justified use := by
  unfold tableName at he
  split at he
  · exact nomatch he
  · obtain rfl := Except.error.inj he
    trivial

theorem justified_of_renderCreateTable {env : Env} {s : Sections Rendered} {e : Error}
    (he : renderCreateTable t env s = .error e) : e.Justified use := by
  unfold renderCreateTable at he
  split at he
  · obtain rfl := Except.error.inj he
    trivial
  · split at he
    · obtain rfl := Except.error.inj he
      trivial
    · split at he
      · next hname =>
        obtain rfl := Except.error.inj he
        exact justified_of_tableName hname
      · exact nomatch he

theorem justified_of_renderDropTable {env : Env} {s : Sections Rendered} {e : Error}
    (he : renderDropTable t env s = .error e) : e.Justified use := by
  unfold renderDropTable at he
  split at he
  · exact nomatch he
  · next hname =>
    obtain rfl := Except.error.inj he
    exact justified_of_tableName hname

theorem justified_of_renderTruncateTable {env : Env} {s : Sections Rendered} {e : Error}
    (he : renderTruncateTable t env s = .error e) : e.Justified use := by
  unfold renderTruncateTable at he
  split at he
  · exact nomatch he
  · next hname =>
    obtain rfl := Except.error.inj he
    exact justified_of_tableName hname

theorem renderCreateTableAs_sane (hsub : ∀ x, (f x).Implements use (g x)) (env : Env)
    (s : Sections γ) : (renderCreateTableAs t env (s.map g)).Sane use := by
  have hcreate : ∀ {temporary table select : String} {e : Error},
      t.dialect.createAs temporary table select = .error e → e.Justified use := by
    intro temporary table select e he
    unfold Dialect.createAs at he
    split at he
    · exact nomatch he
    · obtain rfl := Except.error.inj he
      trivial
    · exact nomatch he
  have hsource : (s.map g).tableSource = s.tableSource.map (Source.map g) := rfl
  unfold renderCreateTableAs
  rw [hsource]
  match s.tableSource with
  | some (.query x) =>
    refine Emit.Sane.bind (.ofExcept fun _ => justified_of_tableName) fun table => ?_
    exact ((hsub x).select.sane env).bind fun select => .ofExcept fun _ => hcreate
  | none | some (.table _) | some (.raw _ _) | some (.rows _ _ _) => exact .fail trivial

/-- **Statements.** A statement binds scalar values only, and complains about a row number only when
it does not fit. -/
theorem renderMethod_sane (hstyle : t.pagination = use.style)
    (hsub : ∀ x, (f x).Implements use (g x)) (env : Env) {s : Sections γ}
    (hp : s.method = .select → use.Covers ⟨s.limit, s.offset⟩) :
    (renderMethod t env (s.map g)).Sane use := by
  unfold renderMethod
  split
  · exact .ofExcept fun _ => justified_of_renderCreateTable
  · exact renderCreateTableAs_sane hsub _ s
  · exact .ofExcept fun _ => justified_of_renderDropTable
  · exact .ofExcept fun _ => justified_of_renderTruncateTable
  · exact renderStatement_sane hstyle hsub env hp

end Parts

/-- The limits and offsets that the dialect pages rows by in a statement: that of the query itself,
if it is a select, and those of the queries inside of it; an aggregate drops its own. -/
inductive Query.Pages (d : Dialect) (q : Query) : Paging → Prop
  | own (hmethod : q.method = .select) : Pages d q (q.pagingFor d)
  | inside {s : Subquery} {r : Query} (hs : s ∈ (Sections.of d q).subqueries)
      (hr : Query.Inside d r s.query) (hmethod : r.method ≠ .aggregate) :
      Pages d q (r.pagingFor d)

/-- What the paging of the target is used for in a query. -/
def Query.pagingUse (q : Query) : PagingUse where
  style := t.pagination
  IsUsed := q.Pages t.dialect

/-- The statement of a query. -/
theorem Query.renderMethod_sane (env : Env) (q : Query) :
    (renderMethod t env (q.sections t)).Sane (q.pagingUse t) := by
  have hsub : ∀ s ∈ (Sections.of t.dialect q).subqueries,
      (s.prepared t).Implements (q.pagingUse t) (s.rendered t) := fun s hs =>
    s.prepared_implements rfl fun r hr hmethod => .inr (.inside hs hr hmethod)
  obtain ⟨γ, f, g, S, himplements, -, hrendered, hmethod, hpaging⟩ :=
    Subquery.exists_attach_prepared hsub
  rw [hrendered]
  refine SqlBuilder.renderMethod_sane rfl himplements env fun hselect => ?_
  rw [hpaging]
  exact .inr (.own (hmethod ▸ hselect))

/-! ## Frames -/

/-- The context of a session, on which no variable is being replaced. -/
def Session.context (s : Session) : Context where
  scopes := s.env.scopes
  ctes := s.env.ctes
  bindings := s.bindings

namespace Rendering

variable {t} {α : Type}

/-- In the context the renderer keeps its frame: it leaves the scopes, the common table expressions
and the variables that are being replaced as they were, and appends scalar values to the bindings;
with other bindings before these it comes to the same result and appends the same ones. -/
structure Frame (m : Rendering α) (ctx : Context) : Prop where
  scopes : (m ctx).2.scopes = ctx.scopes
  ctes : (m ctx).2.ctes = ctx.ctes
  resolving : (m ctx).2.resolving = ctx.resolving
  bindings : ∃ new : List Value, (∀ v ∈ new, v.IsScalar) ∧
    ∀ before, m { ctx with bindings := before } =
      ((m ctx).1, { ctx with bindings := before ++ new })

/-- On the context of a session the renderer does what the session does with the part. -/
def Serves (m : Rendering α) (part : Env → Emit α) : Prop :=
  ∀ s : Session, m s.context = ((s.emit part).1, (s.emit part).2.context)

theorem RunsAs.frame {use : PagingUse} {m : Rendering α} {x : Emit α} {ctx : Context}
    (h : RunsAs use ctx.surroundings m x) : Frame m ctx := by
  have hrun : ∀ before, m { ctx with bindings := before } =
      (x.outcome, { ctx with bindings := before ++ x.bindings }) := h.run
  have hctx : m ctx = (x.outcome, { ctx with bindings := ctx.bindings ++ x.bindings }) :=
    hrun ctx.bindings
  constructor
  case scopes | ctes | resolving => rw [hctx]
  case bindings =>
    refine ⟨x.bindings, h.sane.scalar, fun before => ?_⟩
    rw [hrun before, hctx]

variable {use : PagingUse} {m : Rendering α} {part : Env → Emit α}

theorem Implements.frame (h : Implements use m part) (ctx : Context) : Frame m ctx := by
  obtain ⟨x, hx, -⟩ := h ctx.surroundings
  exact hx.frame

theorem Implements.serves (h : Implements use m part) : Serves m part := by
  intro s
  obtain ⟨x, hx, hagree⟩ := h s.context.surroundings
  have hrun : m s.context = (x.outcome, { s.context with bindings := s.bindings ++ x.bindings }) :=
    hx.run s.bindings
  rw [hrun, hagree rfl]
  rfl

end Rendering

/-- **Frames.** Selects, conditions, columns, values and raw SQL keep their frame in every context,
whatever they come to, and do there what the renderers do that are handed their surroundings.  So
the bindings of a compiled statement are scalar values. -/
theorem rendering_frame :
    (∀ q : Query,
      Serves (compileSelect t (q.preparedSections t)) (renderSelect t · (q.sections t)) ∧
        ∀ ctx, Frame (compileSelect t (q.preparedSections t)) ctx) ∧
    (∀ cs : List (Condition Subquery),
      Serves (compileConditions t (cs.map (Condition.map (Subquery.prepared t))))
          (renderConditions t · (cs.map (Condition.map (Subquery.rendered t)))) ∧
        ∀ ctx, Frame (compileConditions t (cs.map (Condition.map (Subquery.prepared t)))) ctx) ∧
    (∀ c : Column Subquery,
      Serves ((c.map (Subquery.prepared t)).compile t)
          ((c.map (Subquery.rendered t)).render t ·) ∧
        ∀ ctx, Frame ((c.map (Subquery.prepared t)).compile t) ctx) ∧
    (∀ v : Value, Serves (parameter v) (·.placeholder v) ∧ ∀ ctx, Frame (parameter v) ctx) ∧
    (∀ fragment : Fragment,
      Serves (Rendering.raw t.dialect fragment) (·.raw t.dialect fragment) ∧
        ∀ ctx, Frame (Rendering.raw t.dialect fragment) ctx) ∧
    ∀ (q : Query) (c : Compiled), compile t q = .ok c → ∀ v ∈ c.bindings, v.IsScalar := by
  have hsub : ∀ s : Subquery, (s.prepared t).Implements (.any t.pagination) (s.rendered t) :=
    fun s => s.prepared_implements rfl fun _ _ _ => .inr trivial
  refine ⟨fun q => ?_, fun cs => ?_, fun c => ?_, fun v => ?_, fun fragment => ?_, fun q c hc => ?_⟩
  · have hselect := select_implements (t := t) (s := Sections.of t.dialect q) rfl hsub
      fun _ => .inr trivial
    rw [← Sections.of_map] at hselect
    simp only [← Sections.of_map] at hselect
    exact ⟨hselect.serves, hselect.frame⟩
  · have hconditions := conditions_implements (t := t) hsub cs
    exact ⟨hconditions.serves, hconditions.frame⟩
  · have hcolumn := Column.implements (t := t) hsub c
    exact ⟨hcolumn.serves, hcolumn.frame⟩
  · have hvalue : Implements (.any t.pagination) (parameter v) (·.placeholder v) :=
      parameter_implements v
    exact ⟨hvalue.serves, hvalue.frame⟩
  · have hraw : Implements (.any t.pagination) (Rendering.raw t.dialect fragment)
        (·.raw t.dialect fragment) := raw_implements t.dialect fragment
    exact ⟨hraw.serves, hraw.frame⟩
  · obtain ⟨-, -, hbindings, -⟩ := compile_eq_ok hc
    rw [← hbindings]
    exact (Query.renderMethod_sane t {} q).scalar

/-- A select with row numbers, whose order and condition ask for the same variable. -/
theorem rendering_frame_rowNumber :
    let t : Target := { dialect := .sqlServer, options := { legacyPagination := true } }
    let q : Query :=
      { clauses :=
          [⟨.source, none, .source (.table "users")⟩, ⟨.offset, none, .offset 5⟩,
            ⟨.filter, none, .condition { kind := .compare "age" .gt (.reference "age") }⟩,
            ⟨.order, none, .order (.raw ⟨"[age] - ?", [.reference "age"]⟩)⟩]
        definitions := [("age", .int 18)] }
    ∃ c, compile t q = .ok c ∧ c.bindings.map Value.display = ["18", "18", "6"] ∧
      ∀ v ∈ c.bindings, v.IsScalar := by
  intro t q
  have hbindings : (compile t q).toOption.map (·.bindings.map Value.display) =
      some ["18", "18", "6"] := by
    decide +kernel
  cases hc : compile t q with
  | error e =>
    rw [hc] at hbindings
    exact absurd hbindings (by simp [Except.toOption])
  | ok c =>
    rw [hc] at hbindings
    refine ⟨c, rfl, Option.some.inj hbindings, ?_⟩
    exact (rendering_frame t).2.2.2.2.2 q c hc

end SqlBuilder
