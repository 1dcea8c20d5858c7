import SqlBuilder.Proofs.Cte.Prologue
import SqlBuilder.Proofs.Query.Inside

/-!
# Common table expressions that are lost

A query that a dialect sees inside a statement, in whatever place (`Query.Inside`), may have common
table expressions of its own.  Those that a statement does not hoist are lost: they leave no trace
in it (`compile_hoisted`), and a name that refers to one refers to nothing (`compile_loses`).

What is left of the statement without these is defined without exception, wherever it stands
(`compile_defines`).
-/

namespace SqlBuilder

variable {σ τ : Type} {d : Dialect} {t : Target}

/-! ## What is left -/

/-- Without its common table expressions, a query has none at any depth. -/
theorem Query.Inside.ctes_withoutCtes {r q : Query} (h : Inside d r q.withoutCtes) :
    (Sections.of d r).ctes = [] := by
  generalize hq : q.withoutCtes = whole at h
  induction h generalizing q with
  | self =>
    rw [← hq, withoutCtes, Sections.of_clearCtes]
  | @sub whole s hs hr ih =>
    rw [← hq, withoutCtes, Sections.of_clearCtes, Sections.of_map] at hs
    have hs : s ∈ ((Sections.of d q).map Subquery.withoutCtes).plainSubqueries := hs
    rw [Sections.plainSubqueries_map] at hs
    obtain ⟨⟨q'⟩, -, rfl⟩ := List.mem_map.mp hs
    exact ih (q := q') (by rw [Subquery.withoutCtes_mk])

/-- What a query brings along when its common table expressions are hoisted is all that is left. -/
theorem Query.Inside.ctes_hoistable {r q : Query} (h : Inside d r q.hoistable)
    {source : Source Subquery} (hsource : source ∈ (Sections.of d r).ctes) :
    ∃ c ∈ Query.declaredCtes d q, c.source.alias? = source.alias? := by
  generalize hq : q.hoistable = whole at h
  induction h generalizing q with
  | self =>
    rw [← hq, hoistable, Sections.of_mapCtes] at hsource
    obtain ⟨declared, hdeclared, rfl⟩ := List.mem_map.mp hsource
    refine ⟨⟨q.scope, declared⟩, ?_, ?_⟩
    · rw [Query.declaredCtes, Subquery.declaredCtes_mk]
      exact List.mem_flatMap.mpr ⟨declared, hdeclared, List.mem_append_right _ (by simp)⟩
    · exact (Source.alias?_map Subquery.alias?_hoistable declared).symm
  | @sub whole s hs hr ih =>
    rw [← hq, hoistable, Sections.of_mapCtes] at hs
    rcases List.mem_append.mp hs with hs | hs
    · -- In the body of a common table expression.
      obtain ⟨body, hbody, hs⟩ := List.mem_flatMap.mp hs
      obtain ⟨declared, hdeclared, rfl⟩ := List.mem_map.mp hbody
      rw [Source.subqueries_map] at hs
      obtain ⟨⟨q'⟩, hq', rfl⟩ := List.mem_map.mp hs
      obtain ⟨c, hc, halias⟩ := ih (q := q') (by rw [Subquery.hoistable_mk])
      refine ⟨c, ?_, halias⟩
      rw [Query.declaredCtes, Subquery.declaredCtes_mk]
      refine List.mem_flatMap.mpr ⟨declared, hdeclared, List.mem_append_left _ ?_⟩
      exact List.mem_flatMap.mpr ⟨⟨q'⟩, hq', hc⟩
    · have hs : s ∈ ((Sections.of d q).map Subquery.withoutCtes).plainSubqueries := hs
      rw [Sections.plainSubqueries_map] at hs
      obtain ⟨⟨q'⟩, -, rfl⟩ := List.mem_map.mp hs
      rw [Subquery.withoutCtes_mk] at hr
      rw [hr.ctes_withoutCtes] at hsource
      exact absurd hsource List.not_mem_nil

/-- The WITH of the compiled statement defines the name. -/
def Compiled.Defines (t : Target) (q : Query) (c : Compiled) (name : String) : Prop :=
  ∃ (defs : List CteDefinition) (body : String), IsPrologue t q defs ∧
    c.rawSql = withClause t.dialect defs ++ body ∧ name ∈ defs.map (·.name)

/-- A compiled select or mutation defines every name that is declared at any depth. -/
theorem defines_of_declared {q : Query} {c : Compiled} (hdata : q.method.isDdl = false)
    (hc : compile t q = .ok c) {declared : DeclaredCte}
    (hdeclared : declared ∈ Query.declaredCtes t.dialect q) :
    ∃ name, declared.source.alias? = some name ∧ c.Defines t q name := by
  obtain ⟨defs, body, hdefs, -, hsql, -⟩ := compile_prologue hdata hc
  obtain ⟨name, hname⟩ := hdefs.named declared hdeclared
  have hdefined : name ∈ defs.map (·.name) := (hdefs.names name).mpr ⟨declared, hdeclared, hname⟩
  exact ⟨name, hname, defs, body.text, hdefs, hsql, hdefined⟩

/-- **Lost and found.** A statement is compiled as if it had those common table expressions only
that it hoists: its own and those of their bodies, if it is a select or a mutation.  Each of these,
in whatever query inside the statement, is defined in its WITH. -/
theorem compile_defines (q : Query) :
    compile t q.hoisted = compile t q ∧
      ∀ c, compile t q = .ok c → ∀ r, Query.Inside t.dialect r q.hoisted →
        ∀ source ∈ (Sections.of t.dialect r).ctes,
          ∃ name, source.alias? = some name ∧ c.Defines t q name := by
  refine ⟨compile_hoisted q, fun c hc r hr source hsource => ?_⟩
  rw [Query.hoisted] at hr
  by_cases hddl : q.method.isDdl
  · rw [if_pos hddl] at hr
    rw [hr.ctes_withoutCtes] at hsource
    exact absurd hsource List.not_mem_nil
  · rw [if_neg hddl] at hr
    obtain ⟨declared, hdeclared, halias⟩ := hr.ctes_hoistable hsource
    rw [← halias]
    exact defines_of_declared (Bool.eq_false_iff.mpr hddl) hc hdeclared

/-- A statement with a common table expression, beside a derived table with one of its own. -/
theorem compile_defines_own :
    let t : Target := { dialect := .generic }
    let base (name : String) : Query :=
      { clauses := [⟨.source, none, .source (.table "base")⟩], aliasName := some name }
    let rows : Query :=
      { clauses :=
          [⟨.source, none, .source (.table "a")⟩, ⟨.cte, none, .source (.query ⟨base "b"⟩)⟩]
        aliasName := some "s" }
    let q : Query :=
      { clauses :=
          [⟨.source, none, .source (.query ⟨rows⟩)⟩, ⟨.cte, none, .source (.query ⟨base "a"⟩)⟩] }
    compile t q.hoisted = compile t q ∧ ∃ c, compile t q = .ok c ∧
      c.rawSql =
        "WITH \"a\" AS (SELECT * FROM \"base\") SELECT * FROM (SELECT * FROM \"a\") AS \"s\"" ∧
      c.Defines t q "a" := by
  intro t base rows q
  have hsql : (compile t q).toOption.map (·.rawSql) = some
      "WITH \"a\" AS (SELECT * FROM \"base\") SELECT * FROM (SELECT * FROM \"a\") AS \"s\"" := by
    decide +kernel
  obtain ⟨hsame, hdefines⟩ := compile_defines (t := t) q
  refine ⟨hsame, ?_⟩
  cases hc : compile t q with
  | error e =>
    rw [hc] at hsql
    exact absurd hsql (by simp [Except.toOption])
  | ok c =>
    rw [hc] at hsql
    have hctes : (Sections.of t.dialect q.hoisted).ctes =
        [.query (Subquery.hoistable ⟨base "a"⟩)] := rfl
    obtain ⟨name, hname, hdefined⟩ :=
      hdefines c hc q.hoisted (.self _) _ (hctes ▸ List.mem_singleton_self _)
    obtain rfl : "a" = name := Option.some.inj hname
    exact ⟨c, rfl, Option.some.inj hsql, hdefined⟩

/-- A derived table that refers to its own common table expression: nothing defines it. -/
theorem compile_loses :
    let t : Target := { dialect := .generic }
    let base : Query :=
      { clauses := [⟨.source, none, .source (.table "base")⟩], aliasName := some "a" }
    let rows : Query :=
      { clauses := [⟨.source, none, .source (.table "a")⟩, ⟨.cte, none, .source (.query ⟨base⟩)⟩]
        aliasName := some "s" }
    let q : Query := { clauses := [⟨.source, none, .source (.query ⟨rows⟩)⟩] }
    ∃ c, compile t q = .ok c ∧
      ∃ r source, Query.Inside t.dialect r q ∧ source ∈ (Sections.of t.dialect r).ctes ∧
        source.alias? = some "a" ∧ c.rawSql = "SELECT * FROM (SELECT * FROM \"a\") AS \"s\"" ∧
          ¬Begins "WITH " c.rawSql ∧ ¬c.Defines t q "a" := by
  intro t base rows q
  have hsql : (compile t q).toOption.map (·.rawSql) =
      some "SELECT * FROM (SELECT * FROM \"a\") AS \"s\"" := by
    decide +kernel
  have hnone : Query.declaredCtes t.dialect q = [] := by
    rw [Query.declaredCtes, Subquery.declaredCtes_mk]
    rfl
  cases hc : compile t q with
  | error e =>
    rw [hc] at hsql
    exact absurd hsql (by simp [Except.toOption])
  | ok c =>
    rw [hc] at hsql
    have hsubqueries : (Sections.of t.dialect q).subqueries = [⟨rows⟩] := rfl
    have hctes : (Sections.of t.dialect rows).ctes = [.query ⟨base⟩] := rfl
    have htext : c.rawSql = "SELECT * FROM (SELECT * FROM \"a\") AS \"s\"" :=
      Option.some.inj hsql
    refine ⟨c, rfl, rows, .query ⟨base⟩, ?_, ?_, rfl, htext, ?_, ?_⟩
    · exact .sub (s := ⟨rows⟩) (hsubqueries ▸ List.mem_singleton_self _) (.self rows)
    · exact hctes ▸ List.mem_singleton_self _
    · rw [htext]
      exact not_begins_with
        ⟨"SELECT ", by decide, "* FROM (SELECT * FROM \"a\") AS \"s\"", by decide⟩
    · rintro ⟨defs, body, hdefs, -, hname⟩
      obtain ⟨declared, hdeclared, -⟩ := (hdefs.names "a").mp hname
      rw [hnone] at hdeclared
      exact List.not_mem_nil hdeclared

end SqlBuilder
