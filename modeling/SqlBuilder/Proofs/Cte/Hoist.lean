import SqlBuilder.Proofs.Alike.Statement
import SqlBuilder.Compiler
import SqlBuilder.Proofs.Cte.Tree

/-!
# Common table expressions that are hoisted

A statement looks for common table expressions among its own clauses and in the bodies that it finds
there, and nowhere else.  Those of a query in any other place are not asked for, and neither are
those of a statement that is no select or mutation: taking them out of the query, at any depth,
leaves the compiled statement as it is (`compile_hoisted`).

`Subquery.withoutCtes` takes out all of them, `Subquery.hoistable` all but those that are found.
-/

namespace SqlBuilder

variable {σ τ υ : Type}

/-! ## Queries without common table expressions -/

/-- Replaces the subqueries of a layer: those of common table expressions by `f`, all others by
`g`. -/
def QueryOver.mapCtes (f g : σ → τ) (q : QueryOver σ) : QueryOver τ :=
  { q.map g with
    clauses := q.clauses.map fun c => if c.component = .cte then c.map f else c.map g }

/-- A query without its common table expressions and those of its subqueries, at any depth. -/
def Subquery.withoutCtes : Subquery → Subquery :=
  Subquery.fold fun layer => ⟨layer.clearComponent .cte⟩

/-- A query without its common table expressions and those of its subqueries, at any depth. -/
def Query.withoutCtes (q : Query) : Query :=
  (q.map Subquery.withoutCtes).clearComponent .cte

/-- One layer for `Subquery.hoistable`; beside each subquery stands the one without any common table
expression. -/
def hoistLayer (layer : QueryOver (Subquery × Subquery)) : Subquery × Subquery :=
  (⟨layer.mapCtes Prod.fst Prod.snd⟩, ⟨(layer.map Prod.snd).clearComponent .cte⟩)

/-- A query with its common table expressions and those of their bodies, at any depth, but without
those of subqueries in other places. -/
def Subquery.hoistable (s : Subquery) : Subquery :=
  (Subquery.fold hoistLayer s).1

/-- A query with its common table expressions and those of their bodies, at any depth, but without
those of subqueries in other places. -/
def Query.hoistable (q : Query) : Query :=
  q.mapCtes Subquery.hoistable Subquery.withoutCtes

/-- A statement with those common table expressions only that it defines. -/
def Query.hoisted (q : Query) : Query :=
  if q.method.isDdl then q.withoutCtes else q.hoistable

theorem QueryOver.map_mapCtes (f g : σ → τ) (h : τ → υ) (q : QueryOver σ) :
    (q.mapCtes f g).map h = q.mapCtes (h ∘ f) (h ∘ g) := by
  have hclause : ∀ c : Clause σ, (if c.component = .cte then c.map f else c.map g).map h =
      if c.component = .cte then c.map (h ∘ f) else c.map (h ∘ g) := by
    intro c
    by_cases hcte : c.component = .cte
    · rw [if_pos hcte, if_pos hcte, Clause.map_map]
    · rw [if_neg hcte, if_neg hcte, Clause.map_map]
  simp only [mapCtes, QueryOver.map, Clauses.map_eq, List.map_map, Function.comp_def, hclause]

theorem QueryOver.mapCtes_map (f g : τ → υ) (h : σ → τ) (q : QueryOver σ) :
    (q.map h).mapCtes f g = q.mapCtes (f ∘ h) (g ∘ h) := by
  have hclause : ∀ c : Clause σ,
      (if (c.map h).component = .cte then (c.map h).map f else (c.map h).map g) =
        if c.component = .cte then c.map (f ∘ h) else c.map (g ∘ h) := by
    intro c
    rw [Clause.component_map, Clause.map_map, Clause.map_map]
  simp only [mapCtes, QueryOver.map, Clauses.map_eq, List.map_map, Function.comp_def, hclause]

theorem QueryOver.map_clearComponent (f : σ → τ) (component : Component) (q : QueryOver σ) :
    (q.clearComponent component).map f = (q.map f).clearComponent component := by
  simp [clearComponent, QueryOver.map, Clauses.clear, Clauses.map_eq, List.filter_map,
    Function.comp_def]

namespace Subquery

theorem withoutCtes_mk (q : Query) : withoutCtes ⟨q⟩ = ⟨q.withoutCtes⟩ := by
  rw [withoutCtes, fold_mk, Query.withoutCtes, withoutCtes]

theorem hoistable_mk (q : Query) : hoistable ⟨q⟩ = ⟨q.hoistable⟩ := by
  have hsnd : Prod.snd ∘ fold hoistLayer = withoutCtes := by
    funext s
    exact eq_fold (F := Prod.snd ∘ fold hoistLayer)
      (fun q => by rw [Function.comp_apply, fold_mk, hoistLayer, QueryOver.map_map]) s
  have hfst : Prod.fst ∘ fold hoistLayer = hoistable := rfl
  rw [hoistable, fold_mk, hoistLayer, QueryOver.mapCtes_map, hsnd, hfst]
  rfl

end Subquery

/-! ## Their sections -/

/-- What a query says without its common table expressions. -/
theorem Sections.of_clearCtes (d : Dialect) (q : QueryOver σ) :
    of d (q.clearComponent .cte) = { of d q with ctes := [] } := by
  have hother : ∀ {component : Component}, component ≠ .cte →
      Clauses.ofComponent component (some d) (Clauses.clear .cte q.clauses) =
        Clauses.ofComponent component (some d) q.clauses :=
    fun h => Clauses.ofComponent_clear h _ _
  have hcte : Clauses.ofComponent .cte (some d) (Clauses.clear .cte q.clauses) = [] :=
    Clauses.ofComponent_clear_self _ _ _
  simp [of, QueryOver.clearComponent, QueryOver.limitFor, QueryOver.offsetFor, QueryOver.scope,
    Clauses.pick?, Clauses.has, hother, hcte]

/-- What a query says, the subqueries of its common table expressions replaced in a way of their
own. -/
theorem Sections.of_mapCtes (f g : σ → τ) (d : Dialect) (q : QueryOver σ) :
    of d (q.mapCtes f g) =
      { (of d q).map g with ctes := (of d q).ctes.map (Source.map f) } := by
  have hclauses : ∀ component : Component,
      Clauses.ofComponent component (some d) (q.mapCtes f g).clauses =
        (Clauses.ofComponent component (some d) q.clauses).map
          fun c => if c.component = .cte then c.map f else c.map g := by
    intro component
    have happlies : ∀ c : Clause σ,
        (if c.component = .cte then c.map f else c.map g).component = c.component ∧
          (if c.component = .cte then c.map f else c.map g).applies (some d) =
            c.applies (some d) := by
      intro c
      split <;> simp
    simp only [Clauses.ofComponent, QueryOver.mapCtes, List.filter_map, Function.comp_def, happlies]
  have hmem : ∀ {component : Component}, ∀ c ∈ Clauses.ofComponent component (some d) q.clauses,
      c.component = component := by
    intro component c hc
    have h := (List.mem_filter.mp hc).2
    simp only [Bool.and_eq_true, beq_iff_eq] at h
    exact h.1
  have hother : ∀ {component : Component}, component ≠ .cte →
      Clauses.ofComponent component (some d) (q.mapCtes f g).clauses =
        Clauses.ofComponent component (some d) (q.map g).clauses := by
    intro component hne
    have hcomponent : (q.map g).clauses = Clauses.map g q.clauses := rfl
    rw [hclauses, hcomponent, Clauses.ofComponent_map]
    refine List.map_congr_left fun c hc => if_neg ?_
    rw [hmem c hc]
    exact hne
  have hcte : Clauses.ofComponent .cte (some d) (q.mapCtes f g).clauses =
      (Clauses.ofComponent .cte (some d) q.clauses).map (Clause.map f) := by
    rw [hclauses]
    exact List.map_congr_left fun c hc => if_pos (hmem c hc)
  have hmap : of d (q.mapCtes f g) =
      { of d (q.map g) with ctes := (of d q).ctes.map (Source.map f) } := by
    have hstate : (q.mapCtes f g).method = q.method ∧ (q.mapCtes f g).distinct = q.distinct ∧
        (q.mapCtes f g).aliasName = q.aliasName ∧ (q.mapCtes f g).scope = q.scope ∧
        (q.mapCtes f g).pending = q.pending ∧ (q.mapCtes f g).error = q.error ∧
        (q.mapCtes f g).engineScope = q.engineScope := ⟨rfl, rfl, rfl, rfl, rfl, rfl, rfl⟩
    have hstate' : (q.map g).method = q.method ∧ (q.map g).distinct = q.distinct ∧
        (q.map g).aliasName = q.aliasName ∧ (q.map g).scope = q.scope ∧
        (q.map g).pending = q.pending ∧ (q.map g).error = q.error ∧
        (q.map g).engineScope = q.engineScope := ⟨rfl, rfl, rfl, rfl, rfl, rfl, rfl⟩
    simp [of, QueryOver.limitFor, QueryOver.offsetFor, Clauses.pick?, Clauses.has, hother, hcte,
      hstate, hstate', List.filterMap_map, List.map_filterMap]
  rw [hmap, of_map]

/-! ## Rendering without them -/

section Render

variable {t : Target} {env : Env} {s : Sections Rendered} {ctes : List (Source Rendered)}

theorem renderPlain_ctes : renderPlain t env { s with ctes } = renderPlain t env s := by
  unfold renderPlain
  cases t.pagination with
  | topRowNumber =>
    dsimp only
    split
    · simp only [numberedRows, bind_assoc, pure_bind]
      rfl
    · rfl
  | _ => rfl

/-- The select that an aggregate statement stands for, with other common table expressions. -/
def Sections.AggregateForm.withCtes (ctes : List (Source Rendered)) :
    Sections.AggregateForm Rendered → Sections.AggregateForm Rendered
  | .flat select => .flat { select with ctes }
  | .wrapped function rows => .wrapped function { rows with ctes }
  | .hollow => .hollow

theorem Sections.aggregateForm_ctes (s : Sections Rendered) (ctes : List (Source Rendered)) :
    { s with ctes }.aggregateForm = s.aggregateForm.withCtes ctes := by
  cases s with
  | mk method distinct columns aggregate =>
    unfold aggregateForm
    cases aggregate with
    | none => rfl
    | some a =>
      dsimp only
      split
      case isTrue => rfl
      case isFalse =>
        split
        case isTrue => rfl
        case isFalse => split <;> rfl

/-- A select does not ask for the common table expressions. -/
theorem renderBody_ctes : renderBody t env { s with ctes } = renderBody t env s := by
  unfold renderBody
  by_cases hmethod : s.method = .aggregate
  · rw [if_pos hmethod, if_pos hmethod, Sections.aggregateForm_ctes]
    cases s.aggregateForm with
    | flat select => rfl
    | wrapped function rows =>
      simp only [Sections.AggregateForm.withCtes, renderPlain_ctes]
    | hollow => rfl
  · rw [if_neg hmethod, if_neg hmethod]
    exact renderPlain_ctes

/-- Neither does a mutation. -/
theorem renderData_ctes : renderData t env { s with ctes } = renderData t env s := by
  have hbody : renderBody t env { s with ctes } = renderBody t env s := renderBody_ctes
  unfold renderData
  dsimp only
  split
  · exact hbody
  · exact hbody
  all_goals rfl

/-- A layer without its common table expressions agrees with the layer. -/
theorem Rendered.of_ctes :
    (Rendered.of t { s with ctes }).AgreeAt env env (Rendered.of t s) where
  aliasName := rfl
  hasSource := rfl
  select := renderBody_ctes
  existsOperand := renderBody_ctes (s := s.trimmed)
  group := rfl
  filter := rfl

end Render

namespace Rendered.AgreeAt

variable {env env' env'' : Env} {r r' r'' : Rendered}

theorem trans (h : r.AgreeAt env env' r') (h' : r'.AgreeAt env' env'' r'') :
    r.AgreeAt env env'' r'' where
  aliasName := h.aliasName.trans h'.aliasName
  hasSource := h.hasSource.trans h'.hasSource
  select := h.select.trans h'.select
  existsOperand := h.existsOperand.trans h'.existsOperand
  group := h.group.trans h'.group
  filter := h.filter.trans h'.filter

end Rendered.AgreeAt

/-! ## Hoisting -/

variable {t : Target}

/-- Without its common table expressions a query is rendered alike everywhere. -/
theorem Subquery.withoutCtes_agree (s : Subquery) (env : Env) :
    ((withoutCtes s).rendered t).AgreeAt env env (s.rendered t) := by
  let P (s : Subquery) : Prop :=
    ∀ env, ((withoutCtes s).rendered t).AgreeAt env env (s.rendered t)
  suffices h : P s from h env
  refine Subquery.induction (fun q ih env => ?_) s
  obtain ⟨S, -, hS⟩ := Sections.exists_attach t.dialect q ih
  have hagree : ∀ env, AgreeIn (Subquery.rendered t ∘ withoutCtes ∘ @Subtype.val _ P)
      (Subquery.rendered t ∘ Subtype.val) env env :=
    fun env => ⟨.refl env, fun x => x.2 env⟩
  have hlayer := (hagree (env.enter S.scope)).layer (t := t) (hagree _)
  rw [withoutCtes_mk, rendered_mk, rendered_mk, Query.withoutCtes, Query.sections, Query.sections,
    QueryOver.map_clearComponent, Sections.of_clearCtes, QueryOver.map_map, hS, hS]
  exact Rendered.of_ctes.trans hlayer

theorem Subquery.agreeIn_withoutCtes (env : Env) :
    AgreeIn (Subquery.rendered t ∘ withoutCtes) (Subquery.rendered t) env env :=
  ⟨.refl env, fun s => s.withoutCtes_agree env⟩

/-- Nothing else is left of a query without its common table expressions. -/
theorem Query.sections_withoutCtes (q : Query) :
    Sections.of t.dialect (q.withoutCtes.map (Subquery.rendered t)) =
      { (Sections.of t.dialect q).map (Subquery.rendered t ∘ Subquery.withoutCtes) with
        ctes := [] } := by
  rw [Query.withoutCtes, QueryOver.map_clearComponent, Sections.of_clearCtes, QueryOver.map_map,
    Sections.of_map]

theorem Query.sections_hoistable (q : Query) :
    Sections.of t.dialect (q.hoistable.map (Subquery.rendered t)) =
      { (Sections.of t.dialect q).map (Subquery.rendered t ∘ Subquery.withoutCtes) with
        ctes := (Sections.of t.dialect q).ctes.map
          (Source.map (Subquery.rendered t ∘ Subquery.hoistable)) } := by
  rw [Query.hoistable, QueryOver.map_mapCtes, Sections.of_mapCtes]

/-- With those that are found, too. -/
theorem Subquery.hoistable_agree (s : Subquery) (env : Env) :
    ((hoistable s).rendered t).AgreeAt env env (s.rendered t) := by
  obtain ⟨q⟩ := s
  have hlayer := (agreeIn_withoutCtes (t := t)
    (env.enter (Sections.of t.dialect q).scope)).layer (t := t) (agreeIn_withoutCtes _)
  rw [hoistable_mk, rendered_mk, rendered_mk, Query.sections, Query.sections,
    Query.sections_hoistable, Sections.of_map]
  exact Rendered.of_ctes.trans hlayer

theorem Subquery.agreeIn_hoistable (env : Env) :
    AgreeIn (Subquery.rendered t ∘ hoistable) (Subquery.rendered t) env env :=
  ⟨.refl env, fun s => s.hoistable_agree env⟩

theorem Subquery.alias?_hoistable (s : Subquery) :
    Aliased.alias? (hoistable s) = Aliased.alias? s := by
  obtain ⟨q⟩ := s
  rw [hoistable_mk]
  rfl

/-- The common table expressions of one layer are rendered alike, if what their bodies bring along
is. -/
theorem Sections.allCtes_hoistable (sources : List (Source Subquery)) {s s' : Sections Rendered}
    (hs : s.ctes = sources.map (Source.map (Subquery.rendered t ∘ Subquery.hoistable)))
    (hs' : s'.ctes = sources.map (Source.map (Subquery.rendered t)))
    (hinner : ∀ source ∈ sources, ∀ x ∈ source.subqueries,
      (x.hoistable.rendered t).ctes = (x.rendered t).ctes) :
    s.allCtes t = s'.allCtes t := by
  have halias : ∀ x : Subquery,
      Aliased.alias? ((Subquery.rendered t ∘ Subquery.hoistable) x) = Aliased.alias? x := by
    intro x
    rw [Function.comp_apply, Subquery.alias?_rendered, Subquery.alias?_hoistable]
  simp only [Sections.allCtes, hs, hs', List.flatMap_map]
  refine List.flatMap_congr fun source hsource => ?_
  rw [Source.ctes_map halias, Source.ctes_map Subquery.alias?_rendered]
  have hbody : (fun env =>
      (source.map (Subquery.rendered t ∘ Subquery.hoistable)).renderBody t env) =
      fun env => (source.map (Subquery.rendered t)).renderBody t env :=
    funext fun env => (Subquery.agreeIn_hoistable env).renderBody source
  rw [hbody]
  exact congrArg (· ++ _) (List.flatMap_congr fun x hx => hinner source hsource x hx)

/-- What is found in a query is found in it without the others. -/
theorem Subquery.ctes_hoistable (s : Subquery) :
    (s.hoistable.rendered t).ctes = (s.rendered t).ctes := by
  refine Subquery.induction
    (P := fun s => (s.hoistable.rendered t).ctes = (s.rendered t).ctes) (fun q ih => ?_) s
  rw [hoistable_mk, rendered_mk, rendered_mk]
  refine Sections.allCtes_hoistable (Sections.of t.dialect q).ctes ?_ ?_ ?_
  · rw [Query.sections, Query.sections_hoistable]
  · rw [Query.sections, Sections.of_map]
    rfl
  · exact fun source hsource x hx => ih x (QueryOver.mem_subqueries_of_ctes hsource hx)

theorem renderMethod_withoutCtes (env : Env) {q : Query} (hddl : q.method.isDdl) :
    renderMethod t env (q.withoutCtes.sections t) = renderMethod t env (q.sections t) := by
  let s := Sections.of t.dialect q
  let f := Subquery.rendered t ∘ Subquery.withoutCtes
  let g := Subquery.rendered t
  have hwithout : q.withoutCtes.sections t = { s.map f with ctes := [] } := q.sections_withoutCtes
  have hsections : q.sections t = s.map g := Sections.of_map _ _ _
  have hmethod : ({ s.map f with ctes := [] } : Sections Rendered).method = q.method ∧
      (s.map g).method = q.method := ⟨rfl, rfl⟩
  rw [hwithout, hsections, renderMethod, renderMethod, hmethod.1, hmethod.2]
  cases hq : q.method with
  | createTable =>
    have hcreate : renderCreateTable t env (s.map f) = renderCreateTable t env (s.map g) := by
      rw [renderCreateTable_map, renderCreateTable_map]
    exact congrArg Emit.ofExcept hcreate
  | createTableAs => exact (Subquery.agreeIn_withoutCtes (env.enter s.scope)).createTableAs s
  | dropTable =>
    have hdrop : renderDropTable t env (s.map f) = renderDropTable t env (s.map g) := by
      rw [renderDropTable_map, renderDropTable_map]
    exact congrArg Emit.ofExcept hdrop
  | truncateTable =>
    have htruncate : renderTruncateTable t env (s.map f) =
        renderTruncateTable t env (s.map g) := by
      rw [renderTruncateTable_map, renderTruncateTable_map]
    exact congrArg Emit.ofExcept htruncate
  | _ => simp [hq, Method.isDdl] at hddl

theorem renderMethod_hoistable (env : Env) {q : Query} (hdata : ¬q.method.isDdl) :
    renderMethod t env (q.hoistable.sections t) = renderMethod t env (q.sections t) := by
  let s := Sections.of t.dialect q
  let f := Subquery.rendered t ∘ Subquery.withoutCtes
  let g := Subquery.rendered t
  let ctes := s.ctes.map (Source.map (Subquery.rendered t ∘ Subquery.hoistable))
  have hhoistable : q.hoistable.sections t = { s.map f with ctes } := q.sections_hoistable
  have hsections : q.sections t = s.map g := Sections.of_map _ _ _
  have hctes : Sections.hoistedCtes t { s.map f with ctes } = (s.map g).hoistedCtes t :=
    congrArg (distinctCtes []) (Sections.allCtes_hoistable s.ctes rfl rfl
      fun source _ x _ => Subquery.ctes_hoistable x)
  have henter : env.enterStatement t { s.map f with ctes } = env.enterStatement t (s.map g) := by
    rw [Env.enterStatement, Env.enterStatement, hctes]
    rfl
  have hrest : ∀ env, renderData t env { s.map f with ctes } = renderData t env (s.map g) := by
    intro env
    rw [renderData_ctes]
    exact (Subquery.agreeIn_withoutCtes env).data s (Subquery.agreeIn_withoutCtes _)
  have hstatement :
      renderStatement t env { s.map f with ctes } = renderStatement t env (s.map g) := by
    rw [renderStatement, renderStatement, hctes, henter]
    simp only [hrest]
  have hmethod : ({ s.map f with ctes } : Sections Rendered).method = q.method ∧
      (s.map g).method = q.method := ⟨rfl, rfl⟩
  rw [hhoistable, hsections, renderMethod, renderMethod, hmethod.1, hmethod.2]
  cases hq : q.method with
  | createTable | createTableAs | dropTable | truncateTable => simp [hq, Method.isDdl] at hdata
  | _ => exact hstatement

/-- **Hoisting.** A statement does not depend on the common table expressions that it does not
define: those of subqueries other than bodies of common table expressions, and of a statement that
is neither a select nor a mutation all of them. -/
theorem compile_hoisted (q : Query) : compile t q.hoisted = compile t q := by
  have herror : q.hoisted.error = q.error := by
    unfold Query.hoisted
    split <;> rfl
  have hrendered : renderMethod t {} (q.hoisted.sections t) = renderMethod t {} (q.sections t) := by
    unfold Query.hoisted
    by_cases hddl : q.method.isDdl
    · rw [if_pos hddl]
      exact renderMethod_withoutCtes {} hddl
    · rw [if_neg hddl]
      exact renderMethod_hoistable {} hddl
  rw [compile, compile, herror, hrendered]

end SqlBuilder
