import SqlBuilder.Compiler
import SqlBuilder.Proofs.Cte.Tree
import SqlBuilder.Proofs.Markup.Cte
import SqlBuilder.Proofs.Markup.Mutation
import SqlBuilder.Proofs.Markup.Table
import SqlBuilder.Proofs.Rewrite.Select

/-!
# Statements and rewritten statements

Mutations and the bodies of common table expressions come to the same when they are rewritten, like
selects.  Together with an induction over the query this carries a rewriting that is sound in
surroundings that are related, and stay related inside of queries (`Rewriting.Sound`), from single
values and tables to whole statements (`Rewriting.Sound.method`).

A delete with joins and the statements about tables name their table in other ways than
`Env.wrapTable`, so a rewriting must leave tables alone there (`Rewriting.KeepsTables`).
-/

namespace SqlBuilder

variable {γ : Type} {ρ : Rewriting} {t t' : Target} {p q : γ → Rendered} {env env' : Env}

/-! ## Rows written out -/

theorem pieces_map {α β : Type} (f : α → β) (width : Nat) (as : List α) :
    pieces width (as.map f) = (pieces width as).map (List.map f) := by
  induction as with
  | nil => rfl
  | cons a as ih =>
    rw [List.map_cons, pieces, pieces, ih, List.length_map]
    cases pieces width as with
    | nil => rfl
    | cons p ps =>
      simp only [List.map_cons]
      split <;> rfl

namespace RewritesIn

variable (h : RewritesIn ρ t t' p q env env')

include h

theorem rowSelect (columns : List String) (row : List Value) :
    renderRowSelect t env columns row = renderRowSelect t' env' columns (row.map ρ.value) := by
  simp only [renderRowSelect, List.zip_map_left, List.mapM_map, Function.comp_def, Prod.map, id,
    h.agrees.placeholder, h.target.dialect]

theorem rows (columns : List String) (values : List Value) :
    renderRows t env columns values = renderRows t' env' columns (values.map ρ.value) := by
  have htable : ∀ rows : List (List Value), renderValuesTable t env columns rows =
      renderValuesTable t' env' columns (rows.map (List.map ρ.value)) := by
    intro rows
    simp only [renderValuesTable, List.mapM_map, Function.comp_def, h.agrees.placeholders,
      h.target.dialect]
  have hselects : ∀ rows : List (List Value), rows.mapM (renderRowSelect t env columns) =
      (rows.map (List.map ρ.value)).mapM (renderRowSelect t' env' columns) := by
    intro rows
    have hselect : renderRowSelect t env columns =
        renderRowSelect t' env' columns ∘ List.map ρ.value := funext (h.rowSelect columns)
    rw [List.mapM_map, hselect]
  simp only [renderRows, pieces_map, htable, hselects, List.isEmpty_map, List.length_map,
    h.target.dialect]

/-- The body of a common table expression. -/
theorem renderBody (x : Source γ) :
    (x.map p).renderBody t env = ((x.rewrite ρ).map q).renderBody t' env' := by
  cases x with
  | table name =>
    simp only [Source.map, Source.rewrite, Source.renderBody, h.agrees.wrapTable]
  | query x => exact (h.subquery x).select
  | raw _ fragment =>
    simp only [Source.map, Source.rewrite, Source.renderBody, h.agrees.raw, h.target.dialect]
  | rows _ columns values => exact h.rows columns values

end RewritesIn

/-! ## Mutations -/

/-- The rows of rewritten inserts. -/
theorem InsertRows.collect?_rewrite (columns : List String) (clauses : List (InsertClause γ)) :
    InsertRows.collect? columns (clauses.map (InsertClause.rewrite ρ)) =
      (InsertRows.collect? columns clauses).map fun insert =>
        { insert with rows := insert.rows.map (List.map ρ.value) } := by
  induction clauses with
  | nil => rfl
  | cons clause clauses ih =>
    cases clause with
    | query columns' x => rfl
    | row columns' values returnId =>
      rw [List.map_cons, InsertClause.rewrite, InsertRows.collect?, InsertRows.collect?, ih]
      split
      · cases InsertRows.collect? columns clauses <;> rfl
      · rfl

namespace RewritesIn

variable (h : RewritesIn ρ t t' p q env env') (s : Sections γ)

include h

theorem tableTarget (method : Method) :
    renderTarget t env (s.map p) method = renderTarget t' env' ((s.rewrite ρ).map q) method := by
  have hsource : (s.map p).source = s.source.map (Source.map p) := rfl
  have hsource' : ((s.rewrite ρ).map q).source =
      (s.source.map (Source.rewrite ρ)).map (Source.map q) := rfl
  unfold renderTarget
  rw [hsource, hsource']
  match s.source with
  | none => rfl
  | some (.table name) =>
    simp only [Option.map_some, Source.map, Source.rewrite, h.agrees.wrapTable]
  | some (.query x) => rfl
  | some (.raw _ fragment) =>
    simp only [Option.map_some, Source.map, Source.rewrite, h.agrees.raw, h.target.dialect]
  | some (.rows _ _ _) => rfl

theorem rowInserts (table columns : String) (rows : List (List Value)) :
    renderRowInserts t env table columns rows =
      renderRowInserts t' env' table columns (rows.map (List.map ρ.value)) := by
  have hlists : rows.mapM env.placeholders =
      (rows.map (List.map ρ.value)).mapM env'.placeholders := by
    have hlist : env.placeholders = env'.placeholders ∘ List.map ρ.value :=
      funext fun vs => (h.agrees.placeholders vs).symm
    rw [List.mapM_map, hlist]
  simp only [renderRowInserts, hlists, h.target.dialect]

theorem insert : renderInsert t env (s.map p) = renderInsert t' env' ((s.rewrite ρ).map q) := by
  have hinserts : (s.map p).inserts = s.inserts.map (InsertClause.map p) := rfl
  have hinserts' : ((s.rewrite ρ).map q).inserts =
      (s.inserts.map (InsertClause.rewrite ρ)).map (InsertClause.map q) := rfl
  unfold renderInsert
  rw [h.tableTarget, hinserts, hinserts']
  cases s.inserts with
  | nil => simp only [List.map_nil]
  | cons i inserts =>
    cases i with
    | query columns x =>
      simp only [List.map_cons, InsertClause.map, InsertClause.rewrite,
        (h.subquery x).select, h.target.dialect]
    | row columns values returnId =>
      have hrows := InsertRows.collect?_map p columns
        (InsertClause.row columns values returnId :: inserts)
      have hrows' := (InsertRows.collect?_map q columns
        ((InsertClause.row columns values returnId :: inserts).map (InsertClause.rewrite ρ))).trans
          (InsertRows.collect?_rewrite columns _)
      simp only [List.map_cons, InsertClause.map, InsertClause.rewrite] at hrows hrows'
      simp only [List.map_cons, InsertClause.map, InsertClause.rewrite, hrows,
        hrows']
      cases InsertRows.collect? columns (InsertClause.row columns values returnId :: inserts) with
      | error e => simp only [Except.map, Emit.ofExcept_error_bind]
      | ok insert =>
        obtain ⟨columns', rows, returnId'⟩ := insert
        simp only [Except.map, Emit.ofExcept_ok_bind]
        rcases rows with _ | ⟨row, _ | ⟨row', rows⟩⟩
        · simp only [List.map_nil, h.rowInserts, h.target.dialect]
        · simp only [List.map_cons, List.map_nil, h.agrees.placeholders, h.target.dialect]
        · simp only [List.map_cons, h.rowInserts, h.target.dialect]

theorem update : renderUpdate t env (s.map p) = renderUpdate t' env' ((s.rewrite ρ).map q) := by
  have hassignments : ∀ u : UpdateClause, u.render t env = (u.rewrite ρ).render t' env' := by
    intro u
    cases u with
    | set columns values =>
      simp only [UpdateClause.rewrite, UpdateClause.render, List.zip_map_right, List.mapM_map,
        Function.comp_def, Prod.map, id, h.agrees.placeholder, h.target.dialect]
    | increment column amount =>
      have hamount := h.agrees.placeholder_scalar (isScalar_ofUInt64 (magnitude amount))
      simp only [UpdateClause.rewrite, UpdateClause.render, hamount, h.target.dialect]
  have hupdate : (s.map p).update = s.update := rfl
  have hupdate' : ((s.rewrite ρ).map q).update = s.update.map (UpdateClause.rewrite ρ) := rfl
  simp only [renderUpdate, h.tableTarget, hupdate, hupdate']
  cases s.update with
  | none => rfl
  | some u => simp only [Option.map_some, hassignments, h.filters]

end RewritesIn

/-! ## Statements that name tables in other ways -/

/-- A rewriting leaves tables alone, and the targets put the same prefix before them. -/
structure Rewriting.KeepsTables (ρ : Rewriting) (t t' : Target) : Prop where
  table : ∀ name, ρ.table name = name
  tablePrefix : t'.options.tablePrefix = t.options.tablePrefix

theorem Rewriting.KeepsTables.prefixed (h : ρ.KeepsTables t t') (hctes : env'.ctes = env.ctes)
    (name : String) : env'.prefixed t' name = env.prefixed t name := by
  simp only [Env.prefixed, hctes, h.tablePrefix]

/-- The statements that name a table as a source of rows does. -/
def Method.rowMethods : List Method :=
  [.select, .aggregate, .insert, .update]

namespace RewritesIn

variable (s : Sections γ)

/-- The name of the table of a statement about tables. -/
theorem tableName (htarget : t.Alike t') (hkeeps : ρ.KeepsTables t t')
    (hctes : env'.ctes = env.ctes) :
    SqlBuilder.tableName t env (s.map p) =
      SqlBuilder.tableName t' env' ((s.rewrite ρ).map q) := by
  have hsource : ((s.rewrite ρ).source) = s.source.map (Source.rewrite ρ) := rfl
  have htemporary : (s.rewrite ρ).isTemporary = s.isTemporary := rfl
  rw [tableName_map, tableName_map]
  simp only [SqlBuilder.tableName, hsource, htemporary]
  cases s.source with
  | none => rfl
  | some source =>
    cases source with
    | table name =>
      simp only [Option.map_some, Source.rewrite, hkeeps.table, hkeeps.prefixed hctes,
        htarget.dialect]
    | query _ | raw _ _ | rows _ _ _ => rfl

variable (h : RewritesIn ρ t t' p q env env')

include h

theorem delete (hkeeps : ρ.KeepsTables t t') :
    renderDelete t env (s.map p) = renderDelete t' env' ((s.rewrite ρ).map q) := by
  have hjoins : (s.map p).hasJoins = ((s.rewrite ρ).map q).hasJoins := rfl
  have halias : (s.source.map (Source.map p)).bind Source.alias? =
      ((s.source.map (Source.rewrite ρ)).map (Source.map q)).bind Source.alias? := by
    match s.source with
    | none => rfl
    | some (.query x) => exact (h.subquery x).aliasName
    | some (.table name) =>
      simp only [Option.map_some, Source.map, Source.rewrite, hkeeps.table, Option.bind_some,
        Source.alias?]
    | some (.raw _ _) | some (.rows _ _ _) => rfl
  have hsource : (s.map p).source = s.source.map (Source.map p) := rfl
  have hsource' : ((s.rewrite ρ).map q).source =
      (s.source.map (Source.rewrite ρ)).map (Source.map q) := rfl
  simp only [renderDelete, renderDeleteHead, deleteTarget, hsource, hsource', halias, hjoins,
    h.tableTarget, h.filters, h.joins, h.target.dialect]

/-- A select or a mutation without the WITH before it. -/
theorem data (hmethod : s.method ∈ Method.rowMethods ∨ ρ.KeepsTables t t')
    (hagain : RewritesIn ρ t t' p q (env.enter s.scope) (env'.enter (ρ.scope s.scope))) :
    renderData t env (s.map p) = renderData t' env' ((s.rewrite ρ).map q) := by
  have hsame : (s.map p).method = s.method := rfl
  have hsame' : ((s.rewrite ρ).map q).method = s.method := rfl
  simp only [renderData, hsame, hsame', h.body s hagain, h.insert, h.update]
  cases hdelete : s.method with
  | delete =>
    rcases hmethod with hmethod | hkeeps
    · rw [hdelete] at hmethod
      exact absurd hmethod (by decide)
    · exact h.delete s hkeeps
  | _ => rfl

theorem createTableAs (hkeeps : ρ.KeepsTables t t') (hctes : env'.ctes = env.ctes) :
    renderCreateTableAs t env (s.map p) = renderCreateTableAs t' env' ((s.rewrite ρ).map q) := by
  have hsource : (s.map p).tableSource = s.tableSource.map (Source.map p) := rfl
  have hsource' : ((s.rewrite ρ).map q).tableSource =
      (s.tableSource.map (Source.rewrite ρ)).map (Source.map q) := rfl
  have htemporary : ∀ d, temporaryWord d (s.map p) = temporaryWord d ((s.rewrite ρ).map q) :=
    fun _ => rfl
  have htable : SqlBuilder.tableName t env (s.map p) =
      SqlBuilder.tableName t' env' ((s.rewrite ρ).map q) :=
    tableName s h.target hkeeps hctes
  unfold renderCreateTableAs
  rw [hsource, hsource', htable, htemporary, h.target.dialect]
  match s.tableSource with
  | none => rfl
  | some (.table _) | some (.raw _ _) | some (.rows _ _ _) => rfl
  | some (.query x) =>
    simp only [Option.map_some, Source.map, Source.rewrite, (h.subquery x).select]

end RewritesIn

/-- Of the target, a WITH depends on the dialect only. -/
theorem renderPrologue_target (hdialect : t'.dialect = t.dialect) (cs : List Cte) :
    renderPrologue t' env cs = renderPrologue t env cs := by
  have hcte : Cte.render t' env = Cte.render t env := by
    funext c
    simp only [Cte.render, hdialect]
  simp only [renderPrologue, hcte]

/-- A statement in its own surroundings, whose common table expressions have the given names. -/
theorem statement_rewrite {s : Sections γ} {names : List String}
    (hmethod : s.method ∈ Method.rowMethods ∨ ρ.KeepsTables t t')
    (hnames : cteNames ((s.map p).hoistedCtes t) = names)
    (hnames' : cteNames (((s.rewrite ρ).map q).hoistedCtes t') = names)
    (h : RewritesIn ρ t t' p q ⟨[s.scope], names⟩ ⟨[ρ.scope s.scope], names⟩)
    (hagain : RewritesIn ρ t t' p q ⟨[s.scope, s.scope], names⟩
      ⟨[ρ.scope s.scope, ρ.scope s.scope], names⟩)
    (hctes : List.Forall₂ (Cte.AgreeAt ⟨[s.scope], names⟩ ⟨[ρ.scope s.scope], names⟩)
      ((s.map p).hoistedCtes t) (((s.rewrite ρ).map q).hoistedCtes t')) :
    renderStatement t {} (s.map p) = renderStatement t' {} ((s.rewrite ρ).map q) := by
  have henter : Env.enterStatement t {} (s.map p) = ⟨[s.scope], names⟩ := by
    rw [Env.enterStatement, hnames]
    rfl
  have henter' : Env.enterStatement t' {} ((s.rewrite ρ).map q) =
      ⟨[ρ.scope s.scope], names⟩ := by
    rw [Env.enterStatement, hnames']
    rfl
  simp only [renderStatement, henter, henter', renderPrologue_agree hctes,
    renderPrologue_target h.target.dialect, h.data s hmethod hagain]

/-- Any statement, if selects and mutations are the same.  The others only come to the same if
tables are left alone. -/
theorem method_rewrite {s : Sections γ}
    (hdata : renderStatement t {} (s.map p) = renderStatement t' {} ((s.rewrite ρ).map q))
    (hmethod : s.method ∈ Method.rowMethods ∨ ρ.KeepsTables t t' ∧
      RewritesIn ρ t t' p q (Env.enter {} s.scope) (Env.enter {} (ρ.scope s.scope))) :
    renderMethod t {} (s.map p) = renderMethod t' {} ((s.rewrite ρ).map q) := by
  have hsame : (s.map p).method = s.method := rfl
  have hsame' : ((s.rewrite ρ).map q).method = s.method := rfl
  have hscope : (s.map p).scope = s.scope := rfl
  have hscope' : ((s.rewrite ρ).map q).scope = ρ.scope s.scope := rfl
  rcases hmethod with hrows | ⟨hkeeps, h⟩
  · unfold renderMethod
    rw [hsame, hsame']
    simp only [Method.rowMethods, List.mem_cons, List.not_mem_nil, or_false] at hrows
    rcases hrows with hrows | hrows | hrows | hrows <;> simp only [hrows, hdata]
  · have htable : tableName t {} (s.map p) = tableName t' {} ((s.rewrite ρ).map q) :=
      RewritesIn.tableName s h.target hkeeps rfl
    have hcolumns : ((s.rewrite ρ).map q).tableColumns = (s.map p).tableColumns := rfl
    have htemporary : ∀ d, temporaryWord d ((s.rewrite ρ).map q) = temporaryWord d (s.map p) :=
      fun _ => rfl
    have hextension : ∀ d, tableExtension d ((s.rewrite ρ).map q) = tableExtension d (s.map p) :=
      fun _ => rfl
    simp only [renderMethod, hsame, hsame', hscope, hscope', hdata, renderCreateTable,
      renderDropTable, renderTruncateTable, htable, hcolumns, htemporary, hextension,
      h.createTableAs s hkeeps rfl, h.target.dialect]

/-! ## Queries -/

/-- The query and all of its subqueries, at any depth, have the property. -/
inductive Subquery.Everywhere (C : Query → Prop) : Subquery → Prop
  | mk {q : Query} (here : C q) (below : ∀ s ∈ q.subqueries, Everywhere C s) : Everywhere C ⟨q⟩

/-- What all queries have in common holds everywhere. -/
theorem Subquery.Everywhere.of_forall {C : Query → Prop} (h : ∀ q, C q) (s : Subquery) :
    s.Everywhere C :=
  Subquery.induction (P := Everywhere C) (fun q ih => .mk (h q) ih) s

theorem Subquery.Everywhere.imp {C C' : Query → Prop} (h : ∀ q, C q → C' q) {s : Subquery}
    (hs : s.Everywhere C) : s.Everywhere C' := by
  induction hs with
  | mk here _ ih => exact .mk (h _ here) ih

/-- What rewriting makes of every query, holds everywhere in a rewritten one. -/
theorem Subquery.Everywhere.rewrite {C C' : Query → Prop} (h : ∀ q, C q → C' (Query.rewrite ρ q))
    {s : Subquery} (hs : s.Everywhere C) : (s.rewrite ρ).Everywhere C' := by
  induction hs with
  | @mk q here _ ih =>
    rw [Subquery.rewrite_mk]
    refine .mk (h q here) fun s hs => ?_
    rw [Query.subqueries_rewrite] at hs
    obtain ⟨s', hs', rfl⟩ := List.mem_map.mp hs
    exact ih s' hs'

/-- The body of a common table expression that a statement brings along is made of subqueries of the
statement. -/
theorem Query.everywhere_of_declared {C : Query → Prop} {d : Dialect} {q : Query}
    (hbelow : ∀ s ∈ q.subqueries, s.Everywhere C) {c : DeclaredCte}
    (hc : c ∈ Query.declaredCtes d q) : ∀ s ∈ c.source.subqueries, s.Everywhere C := by
  let P (s : Subquery) : Prop := (∀ s' ∈ s.query.subqueries, s'.Everywhere C) →
    ∀ c ∈ s.declaredCtes d, ∀ s' ∈ c.source.subqueries, s'.Everywhere C
  suffices h : P ⟨q⟩ from h hbelow c hc
  refine Subquery.induction (fun q ih hbelow c hc => ?_) ⟨q⟩
  rw [Subquery.declaredCtes_mk] at hc
  obtain ⟨source, hsource, hc⟩ := List.mem_flatMap.mp hc
  have hsub : ∀ s ∈ source.subqueries, s ∈ q.subqueries :=
    fun s hs => QueryOver.mem_subqueries_of_ctes hsource hs
  rcases List.mem_append.mp hc with hc | hc
  · -- It was declared in the body of one of the query's own.
    obtain ⟨s, hs, hc⟩ := List.mem_flatMap.mp hc
    have hinner := hbelow s (hsub s hs)
    cases hinner with
    | mk here below => exact ih _ (hsub _ hs) below c hc
  · obtain rfl := List.mem_singleton.mp hc
    exact fun s hs => hbelow s (hsub s hs)

/-- What a rewritten query says to a target, its subqueries rendered. -/
theorem Query.sections_rewrite (q : Query) :
    (Query.rewrite ρ q).sections t =
      (Sections.of t.dialect (q.map (Subquery.rendered t ∘ Subquery.rewrite ρ))).rewrite ρ := by
  rw [Query.sections, Query.rewrite, Sections.of_map, Sections.of_rewrite, Sections.map_rewrite,
    ← Sections.of_map, QueryOver.map_map]

/-- A rewriting makes up for the difference between two targets in surroundings that are related,
and they stay so inside the queries of a kind. -/
structure Rewriting.Sound (ρ : Rewriting) (t t' : Target) (C : Query → Prop)
    (Around : Env → Env → Prop) : Prop where
  target : t.Alike t'
  agrees : ∀ {env env'}, Around env env' → ρ.Agrees t t' env env'
  enter : ∀ {env env'} {q : Query}, C q → Around env env' →
    Around (env.enter q.scope) (env'.enter (ρ.scope q.scope))

namespace Rewriting.Sound

variable {C : Query → Prop} {Around : Env → Env → Prop} (h : ρ.Sound t t' C Around)

include h

/-- **Subqueries.** A rewritten query is rendered like the query. -/
theorem rendered {s : Subquery} (hs : s.Everywhere C) (haround : Around env env') :
    (s.rendered t).AgreeAt env env' ((s.rewrite ρ).rendered t') := by
  let P (s : Subquery) : Prop := s.Everywhere C → ∀ env env', Around env env' →
    (s.rendered t).AgreeAt env env' ((s.rewrite ρ).rendered t')
  suffices hP : P s from hP hs env env' haround
  refine Subquery.induction (fun q ih hs env env' haround => ?_) s
  cases hs with
  | mk here below =>
    let R (s : Subquery) : Prop := ∀ env env', Around env env' →
      (s.rendered t).AgreeAt env env' ((s.rewrite ρ).rendered t')
    have hlayer : ∀ s ∈ q.subqueries, R s := fun s hs => ih s hs (below s hs)
    obtain ⟨S, hscope, hS⟩ := Sections.exists_attach t.dialect q hlayer
    have hin : ∀ env env', Around env env' → RewritesIn ρ t t'
        (Subquery.rendered t ∘ @Subtype.val _ R)
        ((Subquery.rendered t' ∘ Subquery.rewrite ρ) ∘ @Subtype.val _ R) env env' :=
      fun env env' haround => ⟨h.target, h.agrees haround, fun x => x.2 env env' haround⟩
    rw [Subquery.rendered_mk, Subquery.rewrite_mk, Subquery.rendered_mk, Query.sections,
      Query.sections_rewrite, h.target.dialect, hS, hS, ← Sections.map_rewrite]
    refine RewritesIn.layer (hin _ _ ?_) (hin _ _ ?_)
    · rw [hscope]
      exact h.enter here haround
    · rw [hscope]
      exact h.enter here (h.enter here haround)

end Rewriting.Sound

/-! ## Common table expressions -/

/-- Rewrites a common table expression. -/
def DeclaredCte.rewrite (ρ : Rewriting) (c : DeclaredCte) : DeclaredCte where
  scope := ρ.scope c.scope
  source := (c.source.map (Subquery.rewrite ρ)).rewrite ρ

/-- What a rewritten query declares. -/
theorem Subquery.declaredCtes_rewrite (d : Dialect) (s : Subquery) :
    (s.rewrite ρ).declaredCtes d = (s.declaredCtes d).map (DeclaredCte.rewrite ρ) := by
  refine Subquery.induction
    (P := fun s => (s.rewrite ρ).declaredCtes d = (s.declaredCtes d).map (DeclaredCte.rewrite ρ))
    (fun q ih => ?_) s
  have hctes : (Sections.of d (Query.rewrite ρ q)).ctes =
      (Sections.of d q).ctes.map fun x => (x.map (Subquery.rewrite ρ)).rewrite ρ := by
    rw [Query.rewrite, Sections.of_rewrite, Sections.of_map]
    exact List.map_map
  have hscope : (Query.rewrite ρ q).scope = ρ.scope q.scope := rfl
  rw [Subquery.rewrite_mk, Subquery.declaredCtes_mk, Subquery.declaredCtes_mk, hctes, hscope,
    List.flatMap_map, List.map_flatMap]
  refine List.flatMap_congr fun source hsource => ?_
  have hinner : source.subqueries.flatMap (fun s => (s.rewrite ρ).declaredCtes d) =
      source.subqueries.flatMap fun s => (s.declaredCtes d).map (DeclaredCte.rewrite ρ) :=
    List.flatMap_congr fun s hs => ih s (QueryOver.mem_subqueries_of_ctes hsource hs)
  rw [List.map_append, DeclaredCte.inner, DeclaredCte.inner, List.map_flatMap,
    Source.subqueries_rewrite, Source.subqueries_map, List.flatMap_map, hinner]
  rfl

/-- What a rewritten statement defines, if the common table expressions keep their names. -/
theorem Query.definedCtes_rewrite {d : Dialect} {q : Query}
    (h : ∀ c ∈ Query.declaredCtes d q, Aliased.alias? (c.rewrite ρ) = Aliased.alias? c) :
    Query.definedCtes d (Query.rewrite ρ q) =
      (Query.definedCtes d q).map (DeclaredCte.rewrite ρ) := by
  have hdeclared : Query.declaredCtes d (Query.rewrite ρ q) =
      (Query.declaredCtes d q).map (DeclaredCte.rewrite ρ) := by
    rw [Query.declaredCtes, ← Subquery.rewrite_mk, Subquery.declaredCtes_rewrite]
    rfl
  rw [Query.definedCtes, hdeclared, distinctCtes_map_of_mem h]
  rfl

/-- A common table expression keeps its name, unless it is that of a table. -/
theorem DeclaredCte.alias?_rewrite {c : DeclaredCte}
    (h : (∀ name, c.source ≠ .table name) ∨ ∀ name, ρ.table name = name) :
    Aliased.alias? (c.rewrite ρ) = Aliased.alias? c := by
  obtain ⟨scope, source⟩ := c
  cases source with
  | table name =>
    rcases h with h | h
    · exact absurd rfl (h name)
    · exact congrArg (fun name => Source.alias? (σ := Subquery) (.table name)) (h name)
  | query s =>
    obtain ⟨q⟩ := s
    rw [DeclaredCte.rewrite, Source.map, Subquery.rewrite_mk]
    rfl
  | raw aliasName fragment => rfl
  | rows aliasName columns values => rfl

namespace Rewriting.Sound

variable {C : Query → Prop} {Around : Env → Env → Prop} (h : ρ.Sound t t' C Around)

include h

/-- The body of a rewritten common table expression is rendered like the body. -/
theorem cte {c : DeclaredCte} (hc : ∀ s ∈ c.source.subqueries, s.Everywhere C)
    (halias : Aliased.alias? (c.rewrite ρ) = Aliased.alias? c) (haround : Around env env') :
    (c.rendered t).AgreeAt env env' ((c.rewrite ρ).rendered t') where
  aliasName := halias.symm
  body := by
    let R (s : Subquery) : Prop := (s.rendered t).AgreeAt env env' ((s.rewrite ρ).rendered t')
    have hsub : ∀ s ∈ c.source.subqueries, R s := fun s hs => h.rendered (hc s hs) haround
    obtain ⟨x, hx⟩ := c.source.exists_attach hsub
    have hin : RewritesIn ρ t t' (Subquery.rendered t ∘ @Subtype.val _ R)
        ((Subquery.rendered t' ∘ Subquery.rewrite ρ) ∘ @Subtype.val _ R) env env' :=
      ⟨h.target, h.agrees haround, fun x => x.2⟩
    change (c.source.map (Subquery.rendered t)).renderBody t env =
      (((c.source.map (Subquery.rewrite ρ)).rewrite ρ).map
        (Subquery.rendered t')).renderBody t' env'
    rw [← hx, Source.map_map, hin.renderBody, Source.map_rewrite, Source.map_rewrite,
      Source.map_map, Source.map_map]

/-- **Statements.** A rewritten statement is rendered like the statement, as long as its common
table expressions keep their names. -/
theorem method {q : Query} (hq : Subquery.Everywhere C ⟨q⟩)
    (haliases : ∀ c ∈ Query.declaredCtes t.dialect q,
      Aliased.alias? (c.rewrite ρ) = Aliased.alias? c)
    (hinside : Around ⟨[q.scope], cteNames (Query.definedCtes t.dialect q)⟩
      ⟨[ρ.scope q.scope], cteNames (Query.definedCtes t.dialect q)⟩)
    (hmethod : q.method ∈ Method.rowMethods ∨
      ρ.KeepsTables t t' ∧ Around ⟨[q.scope], []⟩ ⟨[ρ.scope q.scope], []⟩) :
    renderMethod t {} (q.sections t) = renderMethod t' {} ((Query.rewrite ρ q).sections t') := by
  cases hq with
  | mk here below =>
  let R (s : Subquery) : Prop := ∀ env env', Around env env' →
    (s.rendered t).AgreeAt env env' ((s.rewrite ρ).rendered t')
  have hlayer : ∀ s ∈ q.subqueries, R s := fun s hs _ _ haround => h.rendered (below s hs) haround
  obtain ⟨S, hscope, hS⟩ := Sections.exists_attach t.dialect q hlayer
  let f := Subquery.rendered t ∘ @Subtype.val _ R
  let g := (Subquery.rendered t' ∘ Subquery.rewrite ρ) ∘ @Subtype.val _ R
  have hin : ∀ env env', Around env env' → RewritesIn ρ t t' f g env env' :=
    fun env env' haround => ⟨h.target, h.agrees haround, fun x => x.2 env env' haround⟩
  have hsections : q.sections t = S.map f := hS _
  have hsections' : (Query.rewrite ρ q).sections t' = (S.rewrite ρ).map g := by
    rw [Query.sections_rewrite, h.target.dialect, hS, ← Sections.map_rewrite]
  let names := cteNames (Query.definedCtes t.dialect q)
  have hdefined : ∀ c ∈ Query.definedCtes t.dialect q, c ∈ Query.declaredCtes t.dialect q :=
    fun c hc => (distinctCtes_sublist _ _).subset hc
  have hhoisted : (S.map f).hoistedCtes t =
      (Query.definedCtes t.dialect q).map (DeclaredCte.rendered t) := by
    rw [← hsections, Query.hoistedCtes_sections]
  have hhoisted' : ((S.rewrite ρ).map g).hoistedCtes t' =
      ((Query.definedCtes t.dialect q).map (DeclaredCte.rewrite ρ)).map
        (DeclaredCte.rendered t') := by
    rw [← hsections', Query.hoistedCtes_sections, h.target.dialect,
      Query.definedCtes_rewrite haliases]
  have hnames : cteNames ((S.map f).hoistedCtes t) = names := by
    rw [hhoisted, cteNames_map (f := DeclaredCte.rendered t) fun c => rfl]
  have hnames' : cteNames (((S.rewrite ρ).map g).hoistedCtes t') = names := by
    rw [hhoisted', cteNames_map (f := DeclaredCte.rendered t') fun c => rfl,
      cteNames_map_of_mem fun c hc => haliases c (hdefined c hc)]
  have hagain : Around ⟨[S.scope, S.scope], names⟩
      ⟨[ρ.scope S.scope, ρ.scope S.scope], names⟩ := by
    rw [hscope]
    exact h.enter here hinside
  rw [← hscope] at hinside
  have hctes : List.Forall₂ (Cte.AgreeAt ⟨[S.scope], names⟩ ⟨[ρ.scope S.scope], names⟩)
      ((S.map f).hoistedCtes t) (((S.rewrite ρ).map g).hoistedCtes t') := by
    rw [hhoisted, hhoisted', List.forall₂_map_left_iff, List.map_map, List.forall₂_map_right_iff,
      List.forall₂_same]
    intro c hc
    exact h.cte (Query.everywhere_of_declared below (hdefined c hc))
      (haliases c (hdefined c hc)) hinside
  have hsame : S.method = q.method := congrArg Sections.method hsections.symm
  rw [← hsame] at hmethod
  have hstatement : renderStatement t {} (S.map f) = renderStatement t' {} ((S.rewrite ρ).map g) :=
    statement_rewrite (hmethod.imp_right And.left) hnames hnames' (hin _ _ hinside)
      (hin _ _ hagain) hctes
  rw [hsections, hsections']
  refine method_rewrite hstatement (hmethod.imp_right fun hkeeps => ⟨hkeeps.1, hin _ _ ?_⟩)
  rw [hscope]
  exact hkeeps.2

end Rewriting.Sound

end SqlBuilder
