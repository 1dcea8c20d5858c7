import SqlBuilder.Proofs.Rewrite.Statement

/-!
# Statements in alike surroundings

Two renderings of one statement, whose subqueries are rendered in two ways and which stand in two
surroundings, come to the same text and bindings if the surroundings are alike and the two ways
agree there (`AgreeIn`): this is the rewriting that changes nothing.  Selects and the bodies of
common table expressions come to the same, and so do whole statements whose common table expressions
have the same names and bodies that come to the same (`statement_agree`).
-/

namespace SqlBuilder

variable {γ : Type} {t : Target} {p q : γ → Rendered} {env env' : Env}

/-! ## Rows written out -/

/-- Rows are written the same if their values are. -/
theorem renderRows_congr {columns : List String} {values : List Value}
    (h : ∀ v ∈ values, env.placeholder v = env'.placeholder v) :
    renderRows t env columns values = renderRows t env' columns values := by
  have hrow : ∀ row ∈ pieces columns.length values, ∀ v ∈ row,
      env.placeholder v = env'.placeholder v := by
    intro row hrow v hv
    refine h v ?_
    rw [← flatten_pieces columns.length values]
    exact List.mem_flatten_of_mem hrow hv
  have hselect : ∀ row ∈ pieces columns.length values,
      renderRowSelect t env columns row = renderRowSelect t env' columns row := by
    intro row hmem
    unfold renderRowSelect
    refine congrArg (· >>= _) (Emit.mapM_congr fun (value, column) hcell => ?_)
    dsimp only
    rw [hrow row hmem value (List.of_mem_zip hcell).1]
  have hlist : ∀ row ∈ pieces columns.length values,
      env.placeholders row = env'.placeholders row :=
    fun row hmem => Env.placeholders_congr (hrow row hmem)
  have htable : renderValuesTable t env columns (pieces columns.length values) =
      renderValuesTable t env' columns (pieces columns.length values) := by
    unfold renderValuesTable
    refine congrArg (· >>= _) (Emit.mapM_congr fun row hmem => ?_)
    rw [hlist row hmem]
  have hselects : (pieces columns.length values).mapM (renderRowSelect t env columns) =
      (pieces columns.length values).mapM (renderRowSelect t env' columns) :=
    Emit.mapM_congr hselect
  simp only [renderRows, htable, hselects]

/-! ## Renderings that agree -/

/-- Two ways to render subqueries agree, in surroundings that are alike. -/
structure AgreeIn (p q : γ → Rendered) (env env' : Env) : Prop where
  alike : env.Alike env'
  subquery : ∀ x, (p x).AgreeAt env env' (q x)

namespace AgreeIn

variable (h : AgreeIn p q env env')

include h

/-- The rewriting that changes nothing makes up for the difference, as there is none. -/
theorem rewritesIn : RewritesIn {} t t p q env env' :=
  ⟨.refl t, .of_alike h.alike rfl rfl, h.subquery⟩

theorem renderBody (x : Source γ) :
    (x.map p).renderBody t env = (x.map q).renderBody t env' := by
  rw [h.rewritesIn.renderBody, Source.rewrite_id]

variable (s : Sections γ)

/-- A select or a mutation without the WITH before it. -/
theorem data (hagain : AgreeIn p q (env.enter s.scope) (env'.enter s.scope)) :
    renderData t env (s.map p) = renderData t env' (s.map q) := by
  have hdata := h.rewritesIn.data (t := t) s (.inr ⟨fun _ => rfl, rfl⟩)
    (by rw [Rewriting.scope_id]; exact hagain.rewritesIn)
  rwa [Sections.rewrite_id] at hdata

theorem createTableAs :
    renderCreateTableAs t env (s.map p) = renderCreateTableAs t env' (s.map q) := by
  have htable := h.rewritesIn.createTableAs (t := t) s ⟨fun _ => rfl, rfl⟩ h.alike.ctes.symm
  rwa [Sections.rewrite_id] at htable

end AgreeIn

/-- Layers whose subqueries agree inside agree. -/
theorem AgreeIn.layer {s : Sections γ} (h : AgreeIn p q (env.enter s.scope) (env'.enter s.scope))
    (hagain : AgreeIn p q ((env.enter s.scope).enter s.scope)
      ((env'.enter s.scope).enter s.scope)) :
    (Rendered.of t (s.map p)).AgreeAt env env' (Rendered.of t (s.map q)) := by
  have hlayer : (Rendered.of t (s.map p)).AgreeAt env env'
      (Rendered.of t ((s.rewrite {}).map q)) := by
    refine RewritesIn.layer ?_ ?_
    · rw [Rewriting.scope_id]
      exact h.rewritesIn
    · rw [Rewriting.scope_id]
      exact hagain.rewritesIn
  rwa [Sections.rewrite_id] at hlayer

/-! ## Statements -/

/-- A statement in its own surroundings. -/
theorem statement_agree {s : Sections γ}
    (h : AgreeIn p q (env.enterStatement t (s.map p)) (env.enterStatement t (s.map q)))
    (hagain : AgreeIn p q ((env.enterStatement t (s.map p)).enter s.scope)
      ((env.enterStatement t (s.map q)).enter s.scope))
    (hctes : List.Forall₂
      (Cte.AgreeAt (env.enterStatement t (s.map p)) (env.enterStatement t (s.map q)))
      ((s.map p).hoistedCtes t) ((s.map q).hoistedCtes t)) :
    renderStatement t env (s.map p) = renderStatement t env (s.map q) := by
  simp only [renderStatement, renderPrologue_agree hctes, h.data s hagain]

/-- Any statement, if selects and mutations are the same.  Of the others, only a created table that
is filled by a query has subqueries, and it renders them in its own scope. -/
theorem method_agree {s : Sections γ}
    (htable : AgreeIn p q (env.enter s.scope) (env.enter s.scope))
    (hdata : renderStatement t env (s.map p) = renderStatement t env (s.map q)) :
    renderMethod t env (s.map p) = renderMethod t env (s.map q) := by
  have hmethod : ∀ f : γ → Rendered, (s.map f).method = s.method := fun _ => rfl
  have hscope : ∀ f : γ → Rendered, (s.map f).scope = s.scope := fun _ => rfl
  simp only [renderMethod, hmethod, hscope, renderCreateTable_map, renderDropTable_map,
    renderTruncateTable_map, htable.createTableAs, hdata]

end SqlBuilder
