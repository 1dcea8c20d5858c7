import SqlBuilder.Proofs.Cte.Prologue
import SqlBuilder.Proofs.Scope.Lookup

/-!
# Lexical scope

A variable means what the query that it stands in says: what that query defines, or else the queries
that it was begun in (`QueryOver.resolve`).  `compileLexically` renders every query in its own scope
and nothing else, and the body of a common table expression that has no query of its own in the
scope that it was declared in.

Compiling a statement looks at all queries around instead.  This comes to the same for a query whose
subqueries were each begun in the query directly around them, after its last definition
(`compile_eq_compileLexically`), with one exception: a common table expression that is declared in
the body of another one is moved to the front of the statement, and meets the definitions of the
statement there without those of the queries in between (`DeclaredCte.KeepsScope`).
-/

namespace SqlBuilder

/-! ## Rendering in lexical scope -/

/-- The surroundings without the queries around; the names of common table expressions are left. -/
def Env.outermost (env : Env) : Env :=
  { env with scopes := [] }

/-- A common table expression in the scope that it was declared in, wherever it lands. -/
def Cte.within (scope : Scope) (c : Cte) : Cte :=
  { c with body := fun env => c.body { env with scopes := [scope] } }

/-- A query in its own scope, whatever is around it. -/
def Rendered.within (scope : Scope) (r : Rendered) : Rendered where
  aliasName := r.aliasName
  hasSource := r.hasSource
  select env := r.select env.outermost
  existsOperand env := r.existsOperand env.outermost
  group env := r.group env.outermost
  filter env := r.filter env.outermost
  ctes := r.ctes.map (Cte.within scope)

/-- A subquery rendered with every query in its own scope. -/
def Subquery.renderedLexically (t : Target) : Subquery → Rendered :=
  Subquery.fold fun layer => (Rendered.of t (Sections.of t.dialect layer)).within layer.scope

/-- What a query says to the dialect, its subqueries rendered with every query in its own scope. -/
def Query.sectionsLexically (t : Target) (q : Query) : Sections Rendered :=
  Sections.of t.dialect (q.map (Subquery.renderedLexically t))

/-- Compiles a query with every variable in the scope of the query that it stands in. -/
def compileLexically (t : Target) (q : Query) : Except Error Compiled :=
  match q.error with
  | some e => .error e
  | none =>
    let rendered := renderMethod t {} (q.sectionsLexically t)
    match rendered.outcome with
    | .ok rawSql => bind rawSql rendered.bindings t.paramStyle
    | .error e => .error e

/-! ## Queries that are begun where they stand -/

/-- The query was begun in the scope, and each of its subqueries, at any depth, in the query
directly around it, after the last definition of that. -/
inductive Subquery.BegunIn : Scope → Subquery → Prop
  | mk {around : Scope} {q : Query} (hparent : q.parent = around)
      (hsub : ∀ s ∈ q.subqueries, BegunIn q.scope s) : BegunIn around ⟨q⟩

/-- Every subquery, at any depth, was begun in the query directly around it, after the last
definition of that. -/
def Query.Nested (q : Query) : Prop :=
  ∀ s ∈ q.subqueries, Subquery.BegunIn q.scope s

/-- Where it lands in a statement, the body of a common table expression finds the values of the
scope that it was declared in.  A query finds them unless the statement itself gives another value
to a variable; a body without a query has to find all of them, if it mentions a variable. -/
def DeclaredCte.KeepsScope (q : Query) (c : DeclaredCte) : Prop :=
  match c.source with
  | .table _ => True
  | .query _ => ∀ name v, q.definitions.lookup name = some v → c.scope.lookup name = some v
  | .raw _ fragment =>
    (∀ v ∈ fragment.bindings, v.isClosed) ∨ ∀ name, c.scope.lookup name = q.scope.lookup name
  | .rows _ _ values =>
    (∀ v ∈ values, v.isClosed) ∨ ∀ name, c.scope.lookup name = q.scope.lookup name

/-- What the statement declares itself keeps its scope. -/
theorem DeclaredCte.KeepsScope.of_scope {q : Query} {c : DeclaredCte} (h : c.scope = q.scope) :
    c.KeepsScope q := by
  unfold KeepsScope
  rw [h]
  cases c.source with
  | table name => trivial
  | query s =>
    intro name v hv
    rw [QueryOver.scope, Scope.lookup_cons, hv, Option.some_or]
  | raw aliasName fragment => exact .inr fun _ => rfl
  | rows aliasName columns values => exact .inr fun _ => rfl

/-! ## Subqueries -/

theorem Rendered.AgreeAt.within {env env' : Env} {r r' : Rendered}
    (h : r.AgreeAt env env'.outermost r') (scope : Scope) :
    r.AgreeAt env env' (r'.within scope) where
  aliasName := h.aliasName
  hasSource := h.hasSource
  select := h.select
  existsOperand := h.existsOperand
  group := h.group
  filter := h.filter

namespace Subquery

variable {t : Target}

theorem renderedLexically_mk (q : Query) :
    renderedLexically t ⟨q⟩ = (Rendered.of t (q.sectionsLexically t)).within q.scope := by
  rw [renderedLexically, fold_mk]
  rfl

theorem alias?_renderedLexically (s : Subquery) :
    Aliased.alias? (s.renderedLexically t) = Aliased.alias? s := by
  obtain ⟨q⟩ := s
  rw [renderedLexically_mk]
  rfl

/-- **Lexical scope.** A query that is begun where it stands is rendered in fitting surroundings as
in its own scope. -/
theorem rendered_agree_lexically {s : Subquery} {around : Scope} (hbegun : BegunIn around s)
    {env env' : Env} (hctes : env.ctes = env'.ctes) (hfits : env.Fits around) :
    (s.rendered t).AgreeAt env env' (s.renderedLexically t) := by
  let P (s : Subquery) : Prop := ∀ around, BegunIn around s → ∀ env env', env.ctes = env'.ctes →
    env.Fits around → (s.rendered t).AgreeAt env env' (s.renderedLexically t)
  suffices h : P s from h around hbegun env env' hctes hfits
  refine Subquery.induction (fun q ih around hbegun env env' hctes hfits => ?_) s
  cases hbegun with
  | mk hparent hsub =>
    subst hparent
    -- What the subqueries of this layer have in common is all that the layer needs.
    let R (s : Subquery) : Prop := ∀ env env', env.ctes = env'.ctes → env.Fits q.scope →
      (s.rendered t).AgreeAt env env' (s.renderedLexically t)
    have hlayer : ∀ s ∈ q.subqueries, R s := fun s hs => ih s hs q.scope (hsub s hs)
    have hinside : ∀ name, (env.enter q.scope).lookup name = q.scope.lookup name :=
      hfits.lookup_enter q.definitions
    have hinside' : ∀ name, (env'.outermost.enter q.scope).lookup name = q.scope.lookup name :=
      (Env.Fits.outermost env'.ctes q.parent).lookup_enter q.definitions
    have hagain : ∀ name, ((env.enter q.scope).enter q.scope).lookup name = q.scope.lookup name :=
      Env.Fits.lookup_enter_again hinside
    have hagain' : ∀ name, ((env'.outermost.enter q.scope).enter q.scope).lookup name =
        q.scope.lookup name :=
      Env.Fits.lookup_enter_again hinside'
    obtain ⟨S, hscope, hS⟩ := Sections.exists_attach t.dialect q hlayer
    let f := Subquery.rendered t ∘ @Subtype.val _ R
    let g := Subquery.renderedLexically t ∘ @Subtype.val _ R
    have hin : AgreeIn f g (env.enter q.scope) (env'.outermost.enter q.scope) :=
      ⟨⟨fun name => (hinside name).trans (hinside' name).symm, hctes⟩,
        fun x => x.2 _ _ hctes (.of_lookup hinside)⟩
    have hinagain : AgreeIn f g ((env.enter q.scope).enter q.scope)
        ((env'.outermost.enter q.scope).enter q.scope) :=
      ⟨⟨fun name => (hagain name).trans (hagain' name).symm, hctes⟩,
        fun x => x.2 _ _ hctes (.of_lookup hagain)⟩
    rw [← hscope] at hin hinagain
    rw [rendered_mk, renderedLexically_mk, Query.sections, Query.sectionsLexically, hS, hS]
    exact (hin.layer hinagain).within _

end Subquery

/-! ## Common table expressions -/

section Ctes

variable {t : Target}

/-- A common table expression, its body rendered in the scope that it was declared in. -/
def DeclaredCte.renderedLexically (t : Target) (c : DeclaredCte) : Cte where
  aliasName := c.source.alias?
  body env := (c.source.map (Subquery.renderedLexically t)).renderBody t
    { env with scopes := [c.scope] }

/-- What a query wants defined stays in its scope when it is put into another one. -/
theorem Subquery.map_within_ctes (s : Subquery) (scope : Scope) :
    (s.renderedLexically t).ctes.map (Cte.within scope) = (s.renderedLexically t).ctes := by
  obtain ⟨q⟩ := s
  rw [renderedLexically_mk]
  exact List.map_map

/-- What a query wants defined is what it declares. -/
theorem Subquery.ctes_renderedLexically (s : Subquery) :
    (s.renderedLexically t).ctes =
      (s.declaredCtes t.dialect).map (DeclaredCte.renderedLexically t) := by
  refine Subquery.ctes_eq_map (fun q => ?_) s
  have hctes : (Subquery.renderedLexically t ⟨q⟩).ctes =
      ((q.sectionsLexically t).allCtes t).map (Cte.within q.scope) := by
    rw [renderedLexically_mk]
    rfl
  rw [hctes, Query.sectionsLexically, Sections.of_map,
    Sections.allCtes_map Subquery.alias?_renderedLexically, List.map_flatMap]
  refine List.flatMap_congr fun source _ => ?_
  rw [List.map_append, List.map_flatMap]
  simp only [Subquery.map_within_ctes]
  rfl

/-- What a statement defines, put into its scope. -/
theorem Query.hoistedCtes_sectionsLexically (q : Query) :
    ((q.sectionsLexically t).hoistedCtes t).map (Cte.within q.scope) =
      (Query.definedCtes t.dialect q).map (DeclaredCte.renderedLexically t) := by
  have hall : ((q.sectionsLexically t).allCtes t).map (Cte.within q.scope) =
      (Query.declaredCtes t.dialect q).map (DeclaredCte.renderedLexically t) := by
    rw [Query.declaredCtes, ← Subquery.ctes_renderedLexically, Subquery.renderedLexically_mk]
    rfl
  rw [Sections.hoistedCtes, ← distinctCtes_map (f := Cte.within q.scope) (fun c => rfl), hall,
    distinctCtes_map (f := DeclaredCte.renderedLexically t) (fun c => rfl), Query.definedCtes]

end Ctes

/-- The body of a common table expression that a statement brings along was begun in the scope that
it was declared in, and that scope extends the one of the statement. -/
theorem Query.Nested.declared {d : Dialect} {q : Query} (hnested : q.Nested) {c : DeclaredCte}
    (hc : c ∈ Query.declaredCtes d q) :
    (∀ s ∈ c.source.subqueries, Subquery.BegunIn c.scope s) ∧
      ∀ name, c.scope.lookup name = none → q.scope.lookup name = none := by
  let P (s : Subquery) : Prop := Query.Nested s.query → ∀ c ∈ s.declaredCtes d,
    (∀ s ∈ c.source.subqueries, Subquery.BegunIn c.scope s) ∧
      ∀ name, c.scope.lookup name = none → s.query.scope.lookup name = none
  suffices h : P ⟨q⟩ from h hnested c hc
  refine Subquery.induction (fun q ih hnested c hc => ?_) ⟨q⟩
  rw [Subquery.declaredCtes_mk] at hc
  obtain ⟨source, hsource, hc⟩ := List.mem_flatMap.mp hc
  have hsub : ∀ s ∈ source.subqueries, s ∈ q.subqueries :=
    fun s hs => QueryOver.mem_subqueries_of_ctes hsource hs
  rcases List.mem_append.mp hc with hc | hc
  · -- It was declared in the body of one of the query's own.
    obtain ⟨s, hs, hc⟩ := List.mem_flatMap.mp hc
    have hbegun := hnested s (hsub s hs)
    cases hbegun with
    | @mk around q' hparent hnested' =>
      obtain ⟨hbody, hextends⟩ := ih ⟨q'⟩ (hsub _ hs) hnested' c hc
      refine ⟨hbody, fun name hname => ?_⟩
      have hinner : q'.scope.lookup name = none := hextends name hname
      rw [QueryOver.scope, hparent, Scope.lookup_cons, Option.or_eq_none_iff] at hinner
      exact hinner.2
  · obtain rfl := List.mem_singleton.mp hc
    exact ⟨fun s hs => hnested s (hsub s hs), fun _ => id⟩

/-! ## Statements -/

section Statements

variable {t : Target} {q : Query}

/-- Where it lands, a common table expression that keeps its scope is rendered as in the scope that
it was declared in. -/
theorem DeclaredCte.KeepsScope.agree {c : DeclaredCte} (hkeeps : c.KeepsScope q)
    (hnested : q.Nested) (hc : c ∈ Query.declaredCtes t.dialect q) {env : Env}
    (henv : env.scopes = [q.scope]) :
    (c.rendered t).AgreeAt env env (c.renderedLexically t) where
  aliasName := rfl
  body := by
    obtain ⟨hbody, hextends⟩ := hnested.declared hc
    obtain ⟨scope, source⟩ := c
    let inner : Env := { env with scopes := [scope] }
    change (source.map (Subquery.rendered t)).renderBody t env =
      (source.map (Subquery.renderedLexically t)).renderBody t inner
    have hvalues : ∀ vs : List Value, ((∀ v ∈ vs, v.isClosed) ∨
        ∀ name, scope.lookup name = q.scope.lookup name) →
        ∀ v ∈ vs, env.placeholder v = inner.placeholder v := by
      rintro vs (hclosed | hsame) v hv
      · exact Env.placeholder_closed (hclosed v hv)
      · have hinner : inner.scopes = [scope] := rfl
        have halike : env.Alike inner := by
          refine ⟨fun name => ?_, rfl⟩
          rw [(Env.lookup_single henv name).2.2, (Env.lookup_single hinner name).2.2]
          exact (hsame name).symm
        rw [halike.placeholder]
    cases source with
    | table name => simp only [Source.map, Source.renderBody, Env.wrapTable, Env.prefixed, inner]
    | query s =>
      have hfits : env.Fits scope := by
        intro name
        rw [(Env.lookup_single henv name).1, (Env.lookup_single henv name).2.1]
        rw [QueryOver.scope, List.head?_cons, Option.bind_some]
        cases hname : q.definitions.lookup name with
        | some v => rw [Option.some_or, hkeeps name v hname]
        | none =>
          rw [Option.none_or]
          cases hscope : scope.lookup name with
          | some v => rfl
          | none => rw [Option.none_or]; exact hextends name hscope
      have hbegun : Subquery.BegunIn scope s := hbody s List.mem_cons_self
      have hctes : env.ctes = inner.ctes := rfl
      exact (Subquery.rendered_agree_lexically hbegun hctes hfits).select
    | raw aliasName fragment =>
      exact Env.raw_congr (hvalues fragment.bindings hkeeps) t.dialect
    | rows aliasName columns values => exact renderRows_congr (hvalues values hkeeps)

/-- In the scope of a query and nothing else, be it entered once or twice, variables have the values
that they have in the scope. -/
theorem lookup_of_scopes {r : Query} {env : Env}
    (henv : env.scopes = [r.scope] ∨ env.scopes = [r.scope, r.scope]) (name : String) :
    env.lookup name = r.scope.lookup name := by
  rcases henv with henv | henv
  · exact (Env.lookup_single henv name).2.2
  · have honce : ∀ name, Env.lookup ⟨[r.scope], env.ctes⟩ name = r.scope.lookup name :=
      fun name => (Env.lookup_single rfl name).2.2
    have htwice : env = Env.enter ⟨[r.scope], env.ctes⟩ r.scope :=
      congrArg (Env.mk · env.ctes) henv
    rw [htwice]
    exact Env.Fits.lookup_enter_again honce name

/-- There a variable has the value that the query resolves it to. -/
theorem resolve_of_scopes {r : Query} {env : Env}
    (henv : env.scopes = [r.scope] ∨ env.scopes = [r.scope, r.scope]) (name : String) :
    env.resolve name = r.resolve name := by
  rw [Env.resolve, lookup_of_scopes henv]
  rfl

/-- **Lexical scope of statements.** A statement whose subqueries were each begun where they stand
is compiled with every query in its own scope, where a variable has the value that the query
resolves it to, provided that the common table expressions that the statement defines keep their
scope. -/
theorem compile_eq_compileLexically (hnested : q.Nested)
    (hkeeps : ∀ c ∈ Query.definedCtes t.dialect q, c.KeepsScope q) :
    compile t q = compileLexically t q ∧
      ∀ (r : Query) (env : Env), env.scopes = [r.scope] ∨ env.scopes = [r.scope, r.scope] →
        ∀ name, env.resolve name = r.resolve name := by
  refine ⟨?_, fun r env henv name => resolve_of_scopes henv name⟩
  let R (s : Subquery) : Prop := ∀ env env', env.ctes = env'.ctes → env.Fits q.scope →
    (s.rendered t).AgreeAt env env' (s.renderedLexically t)
  have hlayer : ∀ s ∈ q.subqueries, R s :=
    fun s hs env env' hctes hfits => Subquery.rendered_agree_lexically (hnested s hs) hctes hfits
  obtain ⟨S, hscope, hS⟩ := Sections.exists_attach t.dialect q hlayer
  let f := Subquery.rendered t ∘ @Subtype.val _ R
  let g := Subquery.renderedLexically t ∘ @Subtype.val _ R
  have hsections : q.sections t = S.map f := hS _
  have hsections' : q.sectionsLexically t = S.map g := hS _
  -- Nothing is around the statement, so its surroundings are its scope.
  have hin : ∀ env : Env, env.scopes = [q.scope] ∨ env.scopes = [q.scope, q.scope] →
      AgreeIn f g env env :=
    fun env henv => ⟨.refl _, fun x => x.2 _ _ rfl (.of_lookup (lookup_of_scopes henv))⟩
  have hhoisted : (S.map f).hoistedCtes t =
      (Query.definedCtes t.dialect q).map (DeclaredCte.rendered t) := by
    rw [← hsections, Query.hoistedCtes_sections]
  have hhoisted' : ((S.map g).hoistedCtes t).map (Cte.within q.scope) =
      (Query.definedCtes t.dialect q).map (DeclaredCte.renderedLexically t) := by
    rw [← hsections', Query.hoistedCtes_sectionsLexically]
  have hnames : cteNames ((S.map f).hoistedCtes t) = cteNames ((S.map g).hoistedCtes t) := by
    have hwithin : cteNames (((S.map g).hoistedCtes t).map (Cte.within q.scope)) =
        cteNames ((S.map g).hoistedCtes t) :=
      cteNames_map (f := Cte.within q.scope) (fun c => rfl) _
    rw [← hwithin, hhoisted, hhoisted', cteNames_map (f := DeclaredCte.rendered t) fun c => rfl,
      cteNames_map (f := DeclaredCte.renderedLexically t) fun c => rfl]
  let env : Env := ⟨[q.scope], cteNames ((S.map f).hoistedCtes t)⟩
  have henter : Env.enterStatement t {} (S.map f) = env := by
    rw [Env.enterStatement]
    exact congrArg (Env.mk · _) (congrArg (fun scope => [scope]) hscope)
  have henter' : Env.enterStatement t {} (S.map g) = env := by
    rw [Env.enterStatement, ← hnames]
    exact congrArg (Env.mk · _) (congrArg (fun scope => [scope]) hscope)
  have hctes : List.Forall₂ (Cte.AgreeAt env env) ((S.map f).hoistedCtes t)
      ((S.map g).hoistedCtes t) := by
    have hwithin : List.Forall₂ (Cte.AgreeAt env env) ((S.map f).hoistedCtes t)
        (((S.map g).hoistedCtes t).map (Cte.within q.scope)) := by
      rw [hhoisted, hhoisted', List.forall₂_map_left_iff, List.forall₂_map_right_iff,
        List.forall₂_same]
      intro c hc
      exact (hkeeps c hc).agree hnested ((distinctCtes_sublist _ _).subset hc) rfl
    rw [List.forall₂_map_right_iff] at hwithin
    exact hwithin.imp fun c c' h => ⟨h.aliasName, h.body⟩
  have hstatement : renderStatement t {} (S.map f) = renderStatement t {} (S.map g) := by
    refine statement_agree ?_ ?_ ?_
    · rw [henter, henter']
      exact hin _ (.inl rfl)
    · rw [henter, henter', hscope]
      exact hin _ (.inr rfl)
    · rw [henter, henter']
      exact hctes
  have hmethod : renderMethod t {} (q.sections t) = renderMethod t {} (q.sectionsLexically t) := by
    rw [hsections, hsections']
    refine method_agree ?_ hstatement
    rw [hscope]
    exact hin _ (.inl rfl)
  rw [compile, hmethod]
  rfl

end Statements

/-- A variable of the statement that a derived table defines anew; the body of a common table
expression sees the definition of the statement. -/
theorem compile_eq_compileLexically_shadowed :
    let t : Target := { dialect := .generic }
    let test (column : String) : Clause Subquery :=
      ⟨.filter, none, .condition { kind := .compare column .eq (.reference "x") }⟩
    let body : Query :=
      { clauses := [⟨.source, none, .source (.table "t")⟩, test "a"]
        aliasName := some "w"
        parent := [[("x", .int 1)]] }
    let rows : Query :=
      { clauses := [⟨.source, none, .source (.table "w")⟩, test "b"]
        aliasName := some "s"
        definitions := [("x", .int 2)]
        parent := [[("x", .int 1)]] }
    let q : Query :=
      { clauses :=
          [⟨.cte, none, .source (.query ⟨body⟩)⟩, ⟨.source, none, .source (.query ⟨rows⟩)⟩, test "c"]
        definitions := [("x", .int 1)] }
    q.Nested ∧ (∀ c ∈ Query.definedCtes t.dialect q, c.KeepsScope q) ∧
      compile t q = compileLexically t q ∧
        (compile t q).toOption.map (·.bindings.map Value.display) = some ["1", "2", "1"] := by
  intro t test body rows q
  have hnested : q.Nested := by
    intro s hs
    have hs : s ∈ [(⟨body⟩ : Subquery), ⟨rows⟩] := hs
    obtain rfl | rfl : s = ⟨body⟩ ∨ s = ⟨rows⟩ := by simpa using hs
    all_goals exact .mk rfl fun s hs => absurd hs List.not_mem_nil
  have hkeeps : ∀ c ∈ Query.definedCtes t.dialect q, c.KeepsScope q := by
    intro c hc
    have hc := (distinctCtes_sublist _ _).subset hc
    rw [Query.declaredCtes, Subquery.declaredCtes_mk] at hc
    obtain ⟨source, hsource, hc⟩ := List.mem_flatMap.mp hc
    obtain rfl : source = .query ⟨body⟩ := List.mem_singleton.mp hsource
    have hinner : DeclaredCte.inner t.dialect ⟨q.scope, .query ⟨body⟩⟩ = [] := by
      rw [DeclaredCte.inner, Source.subqueries, List.flatMap_singleton, Subquery.declaredCtes_mk]
      rfl
    rw [hinner] at hc
    obtain rfl := List.mem_singleton.mp hc
    exact .of_scope rfl
  have hbindings : (compile t q).toOption.map (·.bindings.map Value.display) =
      some ["1", "2", "1"] := by
    decide +kernel
  exact ⟨hnested, hkeeps, (compile_eq_compileLexically hnested hkeeps).1, hbindings⟩

/-- A common table expression in the body of another one, whose query defines a variable anew: in
front of the statement, the body sees the definition of the statement instead. -/
theorem compile_ne_compileLexically :
    let t : Target := { dialect := .generic }
    let inner : Query :=
      { clauses :=
          [⟨.source, none, .source (.table "t")⟩,
            ⟨.filter, none, .condition { kind := .compare "a" .eq (.reference "x") }⟩]
        aliasName := some "i"
        parent := [[("x", .int 2)], [("x", .int 1)]] }
    let middle : Query :=
      { clauses := [⟨.source, none, .source (.table "i")⟩, ⟨.cte, none, .source (.query ⟨inner⟩)⟩]
        aliasName := some "m"
        definitions := [("x", .int 2)]
        parent := [[("x", .int 1)]] }
    let q : Query :=
      { clauses := [⟨.source, none, .source (.table "i")⟩, ⟨.cte, none, .source (.query ⟨middle⟩)⟩]
        definitions := [("x", .int 1)] }
    q.Nested ∧ (inner.resolve "x").toOption.map Value.display = some "2" ∧
      (compile t q).toOption.map (·.bindings.map Value.display) = some ["1"] ∧
        (compileLexically t q).toOption.map (·.bindings.map Value.display) = some ["2"] := by
  intro t inner middle q
  refine ⟨?_, by decide +kernel, by decide +kernel, by decide +kernel⟩
  have hinner : Subquery.BegunIn middle.scope ⟨inner⟩ :=
    .mk rfl fun s hs => absurd hs List.not_mem_nil
  have hmiddle : Subquery.BegunIn q.scope ⟨middle⟩ := by
    refine .mk rfl fun s hs => ?_
    obtain rfl : s = ⟨inner⟩ := List.mem_singleton.mp hs
    exact hinner
  intro s hs
  obtain rfl : s = ⟨middle⟩ := List.mem_singleton.mp hs
  exact hmiddle

end SqlBuilder
