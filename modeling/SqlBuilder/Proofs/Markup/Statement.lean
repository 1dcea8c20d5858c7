import SqlBuilder.Proofs.Markup.Mutation
import SqlBuilder.Proofs.Markup.Table
import SqlBuilder.Render.Statement

/-!
# Statements as markup

A query is written as markup the way it is rendered, from the inside out: `Subquery.marked` is what
an enclosing statement can ask of a subquery, and `Query.markup` is the whole statement with its
values in place.

Each layer is written alike on both sides when its subqueries are (`Rendered.of_marks`), and so by
induction is every subquery (`Subquery.rendered_marks`) and every statement (`Query.renders`).
-/

namespace SqlBuilder

open Markup

variable (t : Target)

/-! ## Subqueries with their values in place -/

/-- The conditions of a group: those on rows, or those on groups when there are none. -/
def groupMarkup (env : Env) (s : Sections Marked) : Except Error (Option Markup) :=
  let markup (cs : List (Condition Marked)) : Except Error (Option Markup) := do
    let sql ← markupConditions t (env.enter s.scope) cs
    return if List.isEmpty sql then none else some sql
  if s.hasFilters then markup s.filters
  else if s.hasHavings then markup s.havings
  else return none

/-- What an enclosing statement can ask of a query. -/
def Marked.of (s : Sections Marked) : Marked where
  aliasName := s.aliasName
  hasSource := s.hasSource
  select env := selectMarkup t env s
  existsOperand env := selectMarkup t env s.trimmed
  group env := groupMarkup t env s
  filter env := markupConditions t (env.enter s.scope) s.filters
  ctes := s.markedCtes t

/-- A subquery with its values in place, from the inside out. -/
def Subquery.marked : Subquery → Marked :=
  Subquery.fold fun layer => Marked.of t (Sections.of t.dialect layer)

/-- What a query says to the dialect, its subqueries with their values in place. -/
def Query.markedSections (q : Query) : Sections Marked :=
  Sections.of t.dialect (q.map (Subquery.marked t))

/-! ## Statements with their values in place -/

/-- A select or a mutation without the WITH before it. -/
def dataMarkup (env : Env) (s : Sections Marked) : Except Error Markup :=
  match s.method with
  | .select | .aggregate => bodyMarkup t env s
  | .insert => insertMarkup t env s
  | .update => updateMarkup t env s
  | .delete => deleteMarkup t env s
  | method => .error (.notDataStatement method)

/-- A select or a mutation with the WITH before it. -/
def statementMarkup (env : Env) (s : Sections Marked) : Except Error Markup := do
  let hoisted := distinctCtes [] (s.markedCtes t)
  let env := { env.enter s.scope with ctes := env.ctes ++ cteNames hoisted }
  let prologue ← prologueMarkup t env hoisted
  let body ← dataMarkup t env s
  return joinMarkups [prologue, body]

/-- CREATE TABLE with the rows of a select, given its parts. -/
def createAsMarkup (d : Dialect) (temporary table : String) (select : Markup) :
    Except Error Markup :=
  match d with
  | .sqlServer => .ok ("SELECT * INTO " ++ table ++ " FROM (" ++ select ++ ") AS [src]")
  | .firebird => .error .createAsUnsupported
  | _ => .ok ("CREATE " ++ temporary ++ "TABLE " ++ table ++ " AS (" ++ select ++ ")")

/-- CREATE TABLE with the rows of a select. -/
def createTableAsMarkup (env : Env) (s : Sections Marked) : Except Error Markup :=
  match s.tableSource with
  | some (.query sub) => do
    let table ← tableName t env s
    let select ← sub.select env
    createAsMarkup t.dialect (temporaryWord t.dialect s) table select
  | _ => .error .createWithoutSource

/-- Any statement.  Definitions of tables have no values. -/
def methodMarkup (env : Env) (s : Sections Marked) : Except Error Markup :=
  match s.method with
  | .createTable => return (← renderCreateTable t env s : String)
  | .createTableAs => createTableAsMarkup t (env.enter s.scope) s
  | .dropTable => return (← renderDropTable t env s : String)
  | .truncateTable => return (← renderTruncateTable t env s : String)
  | _ => statementMarkup t env s

/-- A query with its values in place. -/
def Query.markup (q : Query) : Except Error Markup :=
  methodMarkup t {} (q.markedSections t)

/-! ## Rendering subqueries -/

section Layers

variable {t} {env : Env} {strict : Prop} {γ : Type} {u : γ → Prop} {f : γ → Rendered}
  {g : γ → Marked}

/-- A group of conditions is written alike on both sides. -/
theorem renderGroup_renders (hsub : ∀ x, u x → (f x).Marks strict (g x)) (henv : env.Unmarked)
    (s : Sections γ) (hs : (s.map u).Unmarked strict) :
    Emit.Renders (SpellsOption strict) (groupMarkup t env (s.map g))
      (renderGroup t env (s.map f)) := by
  have hconditions : ∀ cs : List (Condition γ), (∀ c ∈ cs.map (Condition.map u), c.Unmarked) →
      Emit.Renders (SpellsOption strict)
        (do
          let sql ← markupConditions t (env.enter s.scope) (cs.map (Condition.map g))
          return if List.isEmpty sql then none else some sql)
        (do
          let sql ← renderConditions t (env.enter s.scope) (cs.map (Condition.map f))
          return if sql.isEmpty then none else some sql) := by
    intro cs hcs
    have hrenders := renderConditions_renders (t := t) hsub (henv.enter hs.scope) cs hcs
    refine .map hrenders fun m sql bs hm => ?_
    rw [hm.isEmpty_eq]
    split
    case isTrue hsql =>
      obtain rfl : sql = "" := String.isEmpty_iff.mp hsql
      exact hm.bindings_eq_nil
    case isFalse => exact hm
  unfold groupMarkup renderGroup
  refine .ite (c := s.hasFilters = true) (fun _ => hconditions s.filters hs.filters) fun _ => ?_
  refine .ite (c := s.hasHavings = true) (fun _ => hconditions s.havings hs.havings) fun _ => ?_
  exact .pure rfl

/-- A layer is written alike on both sides when its subqueries are. -/
theorem Rendered.of_marks (ht : t.PlainPrefix) (hsub : ∀ x, u x → (f x).Marks strict (g x))
    (s : Sections γ) (hs : (s.map u).Unmarked strict) :
    (Rendered.of t (s.map f)).Marks strict (Marked.of t (s.map g)) where
  aliasName := rfl
  plain := hs.aliasName
  hasSource := rfl
  select _ henv := renderSelect_renders hsub ht henv s hs
  existsOperand _ henv := renderSelect_renders hsub ht henv s.trimmed hs.trimmed
  group _ henv := renderGroup_renders hsub henv s hs
  filter _ henv := renderConditions_renders hsub (henv.enter hs.scope) s.filters hs.filters
  ctes := Sections.ctes_marks hsub ht s hs.ctes

/-! ## Rendering statements -/

theorem Sections.Unmarked.plainTable {s : Sections γ} (hs : (s.map u).Unmarked strict) :
    s.PlainTable := by
  intro name hsource
  exact hs.source (.table name) (congrArg (Option.map (Source.map u)) hsource)

/-- A select or a mutation is written alike on both sides.  A strict relation asks for a table to
insert into if that is repeated. -/
theorem renderData_renders (ht : t.PlainPrefix) (hsub : ∀ x, u x → (f x).Marks strict (g x))
    (henv : env.Unmarked) (s : Sections γ) (hs : (s.map u).Unmarked strict)
    (htable : strict → s.method = .insert → s.RepeatsTarget t.dialect →
      ∃ name, s.source = some (.table name)) :
    Emit.Renders (Spells strict) (dataMarkup t env (s.map g)) (renderData t env (s.map f)) := by
  have hmarked : (s.map g).method = s.method := rfl
  have hrendered : (s.map f).method = s.method := rfl
  unfold dataMarkup renderData
  rw [hmarked, hrendered]
  cases hmethod : s.method with
  | select => exact renderBody_renders hsub ht henv s hs
  | aggregate => exact renderBody_renders hsub ht henv s hs
  | insert =>
    refine renderInsert_renders hsub ht henv s hs fun hstrict hrepeat => ?_
    obtain ⟨name, hsource⟩ := htable hstrict hmethod hrepeat
    exact renderTarget_bindings hsource .insert
  | update => exact renderUpdate_renders hsub ht henv s hs
  | delete => exact renderDelete_renders hsub ht henv s hs
  | _ => exact .fail rfl

/-- A statement is written alike on both sides, together with the WITH before it. -/
theorem renderStatement_renders (ht : t.PlainPrefix)
    (hsub : ∀ x, u x → (f x).Marks strict (g x)) (henv : env.Unmarked) (s : Sections γ)
    (hs : (s.map u).Unmarked strict)
    (htable : strict → s.method = .insert → s.RepeatsTarget t.dialect →
      ∃ name, s.source = some (.table name)) :
    Emit.Renders (Spells strict) (statementMarkup t env (s.map g))
      (renderStatement t env (s.map f)) := by
  have hctes : List.Forall₂ (Cte.Marks strict) ((s.map f).hoistedCtes t)
      (distinctCtes [] ((s.map g).markedCtes t)) :=
    distinctCtes_marks (Sections.ctes_marks hsub ht s hs.ctes) []
  have hinner : (env.enterStatement t (s.map f)).Unmarked := henv.enter hs.scope
  unfold statementMarkup renderStatement
  dsimp only
  rw [cteNames_marks hctes]
  refine .bind (renderPrologue_renders hinner hctes) fun prologue prologue' bs hprologue => ?_
  refine .map (renderData_renders ht hsub hinner s hs htable) fun body body' cs hbody => ?_
  have hparts : Sequence (Spells strict) _ _ _ := .cons hprologue (.cons hbody .nil)
  rw [List.append_nil] at hparts
  exact hparts.joinSections

/-- CREATE TABLE with the rows of a select is written alike on both sides. -/
theorem createAs_renders {temporary table : String} (htemporary : Plain temporary)
    (htable : Plain table) {m : Markup} {sql : String} {bs : List Value}
    (h : Spells strict m sql bs) (d : Dialect) :
    Emit.Renders (fun m s cs => Spells strict m s (bs ++ cs)) (createAsMarkup d temporary table m)
      (Emit.ofExcept (d.createAs temporary table sql)) := by
  have hcreate : Emit.Renders (fun m s cs => Spells strict m s (bs ++ cs))
      (.ok ("CREATE " ++ temporary ++ "TABLE " ++ table ++ " AS (" ++ m ++ ")"))
      (Emit.ofExcept (.ok ("CREATE " ++ temporary ++ "TABLE " ++ table ++ " AS (" ++ sql ++ ")"))) := by
    refine .pure ?_
    rw [List.append_nil]
    exact ((((((spells_text (by decide)).add htemporary).add (by decide)).add htable).divide
      (by decide)).append h).add (by decide)
  cases d with
  | sqlServer =>
    refine .pure ?_
    rw [List.append_nil]
    exact ((((spells_text (by decide)).add htable).divide (by decide)).append h).add (by decide)
  | firebird => exact .fail rfl
  | _ => exact hcreate

/-- CREATE TABLE with the rows of a select is written alike on both sides when the select is. -/
theorem renderCreateTableAs_renders (ht : t.PlainPrefix)
    (hsub : ∀ x, u x → (f x).Marks strict (g x)) (henv : env.Unmarked) (s : Sections γ)
    (hs : (s.map u).Unmarked strict) :
    Emit.Renders (Spells strict) (createTableAsMarkup t env (s.map g))
      (renderCreateTableAs t env (s.map f)) := by
  have hname := tableName_yields ht env hs.plainTable
  have htemporary : Plain (temporaryWord t.dialect s) := plain_temporaryWord t.dialect s
  have hsource : (s.map g).tableSource = s.tableSource.map (Source.map g) ∧
      (s.map f).tableSource = s.tableSource.map (Source.map f) := ⟨rfl, rfl⟩
  unfold createTableAsMarkup renderCreateTableAs
  rw [tableName_map, tableName_map, hsource.1, hsource.2]
  cases htableSource : s.tableSource with
  | none => exact .fail rfl
  | some source =>
    cases source with
    | query q =>
      have hq : u q := hs.tableSource _ (congrArg (Option.map (Source.map u)) htableSource)
      refine .bind (.ofExcept hname) fun table _ _ htable => ?_
      obtain ⟨rfl, htable, rfl⟩ := htable
      refine .bind ((hsub q hq).select env henv) fun m sql bs hm => ?_
      exact createAs_renders htemporary htable hm t.dialect
    | _ => exact .fail rfl

end Layers

/-! ## Queries -/

variable {t} {strict : Prop}

/-- Every subquery is written alike on both sides, by induction over its layers. -/
theorem Subquery.rendered_marks (ht : t.PlainPrefix) (s : Subquery)
    (hs : s.Unmarked strict t.dialect) :
    (Subquery.rendered t s).Marks strict (Subquery.marked t s) := by
  refine Subquery.fold_induction (R := Rendered.Marks strict) ?_ s hs
  intro γ u f g hsub q hq
  rw [Sections.of_map] at hq ⊢
  rw [Sections.of_map]
  exact Rendered.of_marks ht hsub (Sections.of t.dialect q) hq

theorem Env.unmarked_empty : ({} : Env).Unmarked :=
  fun _ hscope => absurd hscope List.not_mem_nil

/-- Every statement is written alike on both sides. -/
theorem Query.renders (ht : t.PlainPrefix) {env : Env} (henv : env.Unmarked) (q : Query)
    (hq : q.Unmarked strict t.dialect)
    (htable : strict → q.method = .insert → (Sections.of t.dialect q).RepeatsTarget t.dialect →
      ∃ name, (Sections.of t.dialect q).source = some (.table name))
    (htypes : q.method = .createTable → ∀ c ∈ (Sections.of t.dialect q).tableColumns, c.Plain) :
    Emit.Renders (Spells strict) (methodMarkup t env (q.markedSections t))
      (renderMethod t env (q.sections t)) := by
  have hsub : ∀ s : Subquery, s.Unmarked strict t.dialect →
      (Subquery.rendered t s).Marks strict (Subquery.marked t s) :=
    fun s hs => Subquery.rendered_marks ht s hs
  have hs : ((Sections.of t.dialect q).map (Subquery.Unmarked strict t.dialect)).Unmarked strict := by
    rw [← Sections.of_map]
    exact hq
  have hmarked : q.markedSections t = (Sections.of t.dialect q).map (Subquery.marked t) :=
    Sections.of_map _ _ _
  have hrendered : q.sections t = (Sections.of t.dialect q).map (Subquery.rendered t) :=
    Sections.of_map _ _ _
  rw [hmarked, hrendered]
  have hstatement := renderStatement_renders ht hsub henv (Sections.of t.dialect q) hs htable
  have hmarkedMethod : ((Sections.of t.dialect q).map (Subquery.marked t)).method = q.method := rfl
  have hrenderedMethod :
      ((Sections.of t.dialect q).map (Subquery.rendered t)).method = q.method := rfl
  unfold methodMarkup renderMethod
  rw [hmarkedMethod, hrenderedMethod]
  cases hmethod : q.method with
  | createTable =>
    rw [renderCreateTable_map, renderCreateTable_map]
    exact .ofPlain (renderCreateTable_yields ht env hs.plainTable (htypes hmethod))
  | createTableAs => exact renderCreateTableAs_renders ht hsub (henv.enter hs.scope) _ hs
  | dropTable =>
    rw [renderDropTable_map, renderDropTable_map]
    exact .ofPlain (renderDropTable_yields ht env hs.plainTable)
  | truncateTable =>
    rw [renderTruncateTable_map, renderTruncateTable_map]
    exact .ofPlain (renderTruncateTable_yields ht env hs.plainTable)
  | _ => exact hstatement

end SqlBuilder
