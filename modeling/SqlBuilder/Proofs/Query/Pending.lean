import SqlBuilder.Proofs.Query.EngineScope
import SqlBuilder.Proofs.Query.JoinState
import SqlBuilder.Proofs.Rewrite.Statement

/-!
# Modifiers that no condition took up

An `or` or a `not` is pending on a query until a condition takes it up.  What is pending at the end
changes no statement (`compile_withoutPending`), neither on the query itself nor on any of its joins
and subqueries, but for one kind of query: an aggregate of several columns tests each of them for a
value, and these tests are added in the way in which conditions are, so that the first of them takes
up what is pending (`Query.TakesPending`).  A pending `not` turns that test into its opposite
(`compile_pending_not`).
-/

namespace SqlBuilder

variable {t : Target}

/-- Nothing is pending on the query, unless the dialect takes no notice. -/
def Query.Settled (d : Dialect) (q : Query) : Prop :=
  q.TakesPending d → q.pending = {}

/-- What is said to the dialect is the same without the modifiers, or of a kind that does not depend
on them. -/
theorem Query.Settled.sections {q : Query} (h : q.Settled t.dialect) :
    { q.sections t with pending := {} } = q.sections t ∨
      ((q.sections t).method = .aggregate → (q.sections t).distinct = false →
        ∀ a, (q.sections t).aggregate = some a → a.columns.length ≤ 1) := by
  by_cases htakes : q.TakesPending t.dialect
  · left
    have hpending : (q.sections t).pending = {} := h htakes
    rw [← hpending]
  · right
    intro hmethod hdistinct a ha
    rw [Query.sections, Sections.of_map] at ha
    exact Nat.le_of_not_lt fun hlength => htakes ⟨hmethod, hdistinct, a, ha, hlength⟩

/-! ## Subqueries -/

/-- An enclosing statement asks nothing of a query that depends on the pending modifiers, unless the
query is an aggregate of several columns. -/
theorem Rendered.of_pending (s : Sections Rendered) (p : Pending)
    (hp : s.method = .aggregate → s.distinct = false → ∀ a, s.aggregate = some a →
      a.columns.length ≤ 1) :
    Rendered.of t { s with pending := p } = Rendered.of t s := by
  have hselect : ∀ env, renderSelect t env { s with pending := p } = renderSelect t env s :=
    fun env => renderBody_pending s p hp
  have hexists : ∀ env, renderSelect t env { s with pending := p }.trimmed =
      renderSelect t env s.trimmed :=
    fun env => renderBody_pending s.trimmed p hp
  simp only [Rendered.of, hselect, hexists]
  rfl

/-- Drops the pending modifiers of a layer and of its joins. -/
def QueryOver.layerWithoutPending {σ : Type} (q : QueryOver σ) : QueryOver σ :=
  { q.resetPending with clauses := Clauses.mapState (fun s => { s with pending := {} }) q.clauses }

/-- Drops the pending modifiers at every depth. -/
def Subquery.withoutPending : Subquery → Subquery :=
  Subquery.fold fun layer => ⟨layer.layerWithoutPending⟩

/-- Drops the pending modifiers at every depth. -/
def Query.withoutPending (q : Query) : Query :=
  (q.map Subquery.withoutPending).layerWithoutPending

theorem Subquery.withoutPending_mk (q : Query) :
    Subquery.withoutPending ⟨q⟩ = ⟨q.withoutPending⟩ :=
  Subquery.fold_mk _ q

/-- But for the modifiers, a layer says the same to a dialect. -/
theorem Sections.of_layerWithoutPending {σ : Type} (d : Dialect) (q : QueryOver σ) :
    Sections.of d q.layerWithoutPending = { Sections.of d q with pending := {} } :=
  (Sections.of_mapState _ d q.resetPending).trans rfl

/-- A query says the same to a dialect if its subqueries are rendered the same. -/
theorem Query.sections_withoutPending {q : Query}
    (h : ∀ s ∈ q.subqueries, s.withoutPending.rendered t = s.rendered t) :
    q.withoutPending.sections t = { q.sections t with pending := {} } := by
  obtain ⟨S, -, hS⟩ := Sections.exists_attach t.dialect q h
  have hsame : (Subquery.rendered t ∘ Subquery.withoutPending) ∘
        @Subtype.val _ (fun s => s.withoutPending.rendered t = s.rendered t) =
      Subquery.rendered t ∘ Subtype.val :=
    funext fun x => x.2
  have hmap : Sections.of t.dialect ((q.map Subquery.withoutPending).map (Subquery.rendered t)) =
      q.sections t := by
    rw [QueryOver.map_map, hS, hsame, ← hS, Query.sections]
  rw [Sections.of_map] at hmap
  rw [← hmap, Query.sections, Sections.of_map, Query.withoutPending,
    Sections.of_layerWithoutPending]
  rfl

/-- **Subqueries.** A query is rendered the same without the modifiers. -/
theorem Subquery.rendered_withoutPending {s : Subquery}
    (h : s.Everywhere (Query.Settled t.dialect)) :
    s.withoutPending.rendered t = s.rendered t := by
  induction h with
  | @mk q here _ ih =>
    rw [Subquery.withoutPending_mk, Subquery.rendered_mk, Subquery.rendered_mk,
      Query.sections_withoutPending ih]
    rcases here.sections with hsame | hfew
    · rw [hsame]
    · exact Rendered.of_pending _ _ hfew

/-! ## Statements -/

/-- Of the sections of a query, the pending modifiers may be left out. -/
theorem Query.Settled.renderMethod {q : Query} (h : q.Settled t.dialect) :
    SqlBuilder.renderMethod t {} { q.sections t with pending := {} } =
      SqlBuilder.renderMethod t {} (q.sections t) := by
  rcases h.sections with hsame | hfew
  · rw [hsame]
  · exact renderMethod_pending _ _ hfew

/-- **Pending modifiers.** A query compiles to the same result when the modifiers that no condition
took up are dropped, unless they are pending on an aggregate of several columns.  The same goes for
those of all its joins and subqueries at once. -/
theorem compile_withoutPending (t : Target) (q : Query) :
    (q.Settled t.dialect → compile t q.resetPending = compile t q) ∧
      (Subquery.Everywhere (Query.Settled t.dialect) ⟨q⟩ →
        compile t q.withoutPending = compile t q) := by
  refine ⟨fun h => ?own, fun h => ?everywhere⟩
  case own =>
    have hsections : Query.sections t q.resetPending = { q.sections t with pending := {} } := rfl
    have herror : q.resetPending.error = q.error := rfl
    simp only [compile, hsections, herror, h.renderMethod]
  case everywhere =>
    have herror : q.withoutPending.error = q.error := rfl
    cases h with
    | mk here below =>
      have hsections : q.withoutPending.sections t = { q.sections t with pending := {} } :=
        Query.sections_withoutPending fun s hs => Subquery.rendered_withoutPending (below s hs)
      simp only [compile, hsections, herror, here.renderMethod]

/-- An `or` that is pending on a select and a `not` that is pending on its derived table, an
aggregate of one column. -/
theorem compile_withoutPending_select :
    let t : Target := { dialect := .generic }
    let rows : Query :=
      { method := .aggregate
        clauses :=
          [⟨.source, none, .source (.table "t")⟩, ⟨.aggregate, none, .aggregate ⟨.count, ["a"]⟩⟩]
        aliasName := some "s"
        pending := { not := true } }
    let q : Query :=
      { clauses := [⟨.source, none, .source (.query ⟨rows⟩)⟩]
        pending := { or := true } }
    q.Settled t.dialect ∧ Subquery.Everywhere (Query.Settled t.dialect) ⟨q⟩ ∧
      compile t q.resetPending = compile t q ∧ compile t q.withoutPending = compile t q ∧
        (compile t q).toOption.map (·.rawSql) =
          some "SELECT * FROM (SELECT COUNT(\"a\") AS \"count\" FROM \"t\") AS \"s\"" := by
  intro t rows q
  have hselect : q.Settled t.dialect := fun htakes => absurd htakes.1 (by decide)
  have hrows : rows.Settled t.dialect := by
    rintro ⟨-, -, a, ha, hlength⟩
    obtain rfl : (⟨.count, ["a"]⟩ : AggregateClause) = a := Option.some.inj ha
    exact absurd hlength (by decide)
  have heverywhere : Subquery.Everywhere (Query.Settled t.dialect) ⟨q⟩ := by
    refine .mk hselect fun s hs => ?_
    obtain rfl : s = ⟨rows⟩ := List.mem_singleton.mp hs
    exact .mk hrows fun s hs => absurd hs List.not_mem_nil
  have hcompile := compile_withoutPending t q
  exact ⟨hselect, heverywhere, hcompile.1 hselect, hcompile.2 heverywhere, by decide +kernel⟩

/-- A `not` that is pending on an aggregate of several columns asks for rows without a value in the
first one. -/
theorem compile_pending_not :
    let t : Target := { dialect := .generic }
    let q : Query :=
      { method := .aggregate
        clauses :=
          [⟨.source, none, .source (.table "t")⟩,
            ⟨.aggregate, none, .aggregate ⟨.count, ["a", "b"]⟩⟩]
        pending := { not := true } }
    compile t q.resetPending ≠ compile t q ∧
      (compile t q.resetPending).toOption.map (·.rawSql) =
        some ("SELECT COUNT(*) AS \"count\" FROM (SELECT 1 FROM \"t\" " ++
          "WHERE \"a\" IS NOT NULL AND \"b\" IS NOT NULL) AS \"countQuery\"") ∧
      (compile t q).toOption.map (·.rawSql) =
        some ("SELECT COUNT(*) AS \"count\" FROM (SELECT 1 FROM \"t\" " ++
          "WHERE \"a\" IS NULL AND \"b\" IS NOT NULL) AS \"countQuery\"") := by
  intro t q
  have hreset : (compile t q.resetPending).toOption.map (·.rawSql) =
      some ("SELECT COUNT(*) AS \"count\" FROM (SELECT 1 FROM \"t\" " ++
        "WHERE \"a\" IS NOT NULL AND \"b\" IS NOT NULL) AS \"countQuery\"") := by
    decide +kernel
  have hpending : (compile t q).toOption.map (·.rawSql) =
      some ("SELECT COUNT(*) AS \"count\" FROM (SELECT 1 FROM \"t\" " ++
        "WHERE \"a\" IS NULL AND \"b\" IS NOT NULL) AS \"countQuery\"") := by
    decide +kernel
  refine ⟨fun hsame => ?_, hreset, hpending⟩
  rw [hsame, hpending] at hreset
  exact absurd hreset (by decide)

end SqlBuilder
