import SqlBuilder.Proofs.Query.Sections
import SqlBuilder.Proofs.Text.Plain
import SqlBuilder.Query.Fold
import SqlBuilder.Render.Statement

/-!
# Queries without question marks of their own

What must be said of a query so that every `?` in its statement is the place of a value: names,
aliases, seeds, escape characters and literals have no question mark, and no literal ends in a
backslash, which would escape a place after it.  Raw SQL is free to have question marks: they are its
placeholders.

Only what the dialect sees counts, so that the condition is one on sections: `Sections.Unmarked`
says it of one layer, over the propositions that say it of its subqueries, and `Subquery.Unmarked`
folds it over all layers.  Under `strict`, cross joins have no constraints either.
-/

namespace SqlBuilder

/-! ## Values -/

mutual

/-- The literals in the value have no question mark and do not end in a backslash. -/
def Value.Unmarked : Value → Prop
  | .literal sql => Plain sql ∧ sql.toList.getLast? ≠ some '\\'
  | .array items => Value.AllUnmarked items
  | _ => True

/-- The literals in the values have no question mark and do not end in a backslash. -/
def Value.AllUnmarked : List Value → Prop
  | [] => True
  | v :: vs => v.Unmarked ∧ Value.AllUnmarked vs

end

/-- The values of a scope are unmarked. -/
def Scope.Unmarked (scope : Scope) : Prop :=
  ∀ definitions ∈ scope, ∀ definition ∈ definitions, definition.2.Unmarked

/-- The variables that can be seen stand for unmarked values. -/
def Env.Unmarked (env : Env) : Prop :=
  ∀ scope ∈ env.scopes, scope.Unmarked

/-- The values of a raw fragment are unmarked. -/
def Fragment.Unmarked (f : Fragment) : Prop :=
  ∀ v ∈ f.bindings, v.Unmarked

/-! ## Syntax over propositions -/

/-- A condition is unmarked. -/
def ConditionKind.Unmarked : ConditionKind Prop → Prop
  | .compare column _ value | .datePart _ column _ value => Plain column ∧ value.Unmarked
  | .pattern column _ value _ escape => Plain column ∧ value.Unmarked ∧ ∀ c ∈ escape, c ≠ '?'
  | .columns first _ second => Plain first ∧ Plain second
  | .null column | .boolean column _ => Plain column
  | .between column lower higher => Plain column ∧ lower.Unmarked ∧ higher.Unmarked
  | .inList column values => Plain column ∧ ∀ v ∈ values, v.Unmarked
  | .inQuery column query | .columnQuery column _ query => Plain column ∧ query
  | .nonempty query | .group query => query
  | .raw fragment => fragment.Unmarked
  | .queryCompare query _ value => query ∧ value.Unmarked

/-- A condition is unmarked. -/
def Condition.Unmarked (c : Condition Prop) : Prop :=
  c.kind.Unmarked

/-- A source is unmarked. -/
def Source.Unmarked : Source Prop → Prop
  | .table name => Plain name
  | .query q => q
  | .raw aliasName fragment => (∀ a ∈ aliasName, Plain a) ∧ fragment.Unmarked
  | .rows aliasName columns values =>
    Plain aliasName ∧ (∀ c ∈ columns, Plain c) ∧ ∀ v ∈ values, v.Unmarked

/-- A column is unmarked. -/
def Column.Unmarked : Column Prop → Prop
  | .named name => Plain name
  | .query q => q
  | .aggregated _ name filter => Plain name ∧ ∀ q ∈ filter, q
  | .raw fragment => fragment.Unmarked

/-- An order is unmarked. -/
def OrderBy.Unmarked : OrderBy → Prop
  | .column name _ => Plain name
  | .random seed => ∀ s ∈ seed, Plain s
  | .raw fragment => fragment.Unmarked

/-- A set operation is unmarked. -/
def Combine.Unmarked : Combine Prop → Prop
  | .query _ _ q => q
  | .raw fragment => fragment.Unmarked

/-- An insert is unmarked. -/
def InsertClause.Unmarked : InsertClause Prop → Prop
  | .row columns values _ => (∀ c ∈ columns, Plain c) ∧ ∀ v ∈ values, v.Unmarked
  | .query columns q => (∀ c ∈ columns, Plain c) ∧ q

/-- The assignments of an update are unmarked. -/
def UpdateClause.Unmarked : UpdateClause → Prop
  | .set columns values => (∀ c ∈ columns, Plain c) ∧ ∀ v ∈ values, v.Unmarked
  | .increment column _ => Plain column

/-- A join is unmarked.  A strict one has no constraints that would not be written. -/
structure JoinSections.Unmarked (strict : Prop) (j : JoinSections Prop) : Prop where
  target : ∀ s ∈ j.target, s.Unmarked
  constraints : ∀ c ∈ j.constraints, c.Unmarked
  index : ∀ name ∈ j.index, Plain name
  written : strict → j.kind = .cross → j.constraints = []

/-- What a query says to a dialect is unmarked. -/
structure Sections.Unmarked (strict : Prop) (s : Sections Prop) : Prop where
  columns : ∀ c ∈ s.columns, c.Unmarked
  aggregate : ∀ a ∈ s.aggregate, ∀ c ∈ a.columns, Plain c
  source : ∀ x ∈ s.source, x.Unmarked
  joins : ∀ j ∈ s.joins, j.Unmarked strict
  filters : ∀ c ∈ s.filters, c.Unmarked
  groups : ∀ c ∈ s.groups, c.Unmarked
  havings : ∀ c ∈ s.havings, c.Unmarked
  orders : ∀ o ∈ s.orders, o.Unmarked
  combines : ∀ c ∈ s.combines, c.Unmarked
  ctes : ∀ x ∈ s.ctes, x.Unmarked
  inserts : ∀ i ∈ s.inserts, i.Unmarked
  update : ∀ u ∈ s.update, u.Unmarked
  tableSource : ∀ x ∈ s.tableSource, x.Unmarked
  aliasName : ∀ a ∈ s.aliasName, Plain a
  scope : s.scope.Unmarked

/-! ## Queries -/

/-- A subquery is unmarked for the dialect, at every depth. -/
def Subquery.Unmarked (strict : Prop) (d : Dialect) : Subquery → Prop :=
  Subquery.fold fun layer => (Sections.of d layer).Unmarked strict

/-- A query is unmarked for the dialect, at every depth. -/
def Query.Unmarked (strict : Prop) (d : Dialect) (q : Query) : Prop :=
  (Sections.of d (q.map (Subquery.Unmarked strict d))).Unmarked strict

/-! ## Variables -/

variable {env : Env} {scope : Scope}

theorem Env.Unmarked.enter (h : env.Unmarked) (hscope : scope.Unmarked) :
    (env.enter scope).Unmarked := by
  intro s hs
  rcases List.mem_cons.mp hs with rfl | hs
  · exact hscope
  · exact h s hs

/-- A variable stands for an unmarked value. -/
theorem Env.Unmarked.lookup (h : env.Unmarked) {name : String} {v : Value}
    (hv : env.lookup name = some v) : v.Unmarked := by
  have hdefinitions : ∀ (scope : Scope) (definitions : Definitions), scope ∈ env.scopes →
      definitions ∈ scope → definitions.lookup name = some v → v.Unmarked := by
    intro scope definitions hscope hmem hlookup
    obtain ⟨before, after, hsplit, -⟩ := List.lookup_eq_some_iff.mp hlookup
    exact h scope hscope definitions hmem (name, v) (by simp [hsplit])
  rw [Env.lookup, Option.orElse_eq_orElse, Option.orElse_eq_or, Option.or_eq_some_iff] at hv
  rcases hv with hv | ⟨-, hv⟩
  · obtain ⟨scope, hscope, hhead⟩ := List.exists_of_findSome?_eq_some hv
    obtain ⟨definitions, hdef, hlookup⟩ := Option.bind_eq_some_iff.mp hhead
    exact hdefinitions scope definitions hscope (List.mem_of_head? hdef) hlookup
  · obtain ⟨scope, hscope, hlookup⟩ := List.exists_of_findSome?_eq_some hv
    obtain ⟨definitions, hdef, hlookup⟩ := List.exists_of_findSome?_eq_some hlookup
    exact hdefinitions scope definitions hscope hdef hlookup

theorem Env.Unmarked.resolve (h : env.Unmarked) {name : String} {v : Value}
    (hv : env.resolve name = .ok v) : v.Unmarked := by
  rw [Env.resolve] at hv
  split at hv
  case h_1 v' hlookup =>
    obtain rfl := Except.ok.inj hv
    exact h.lookup hlookup
  case h_2 => simp at hv

end SqlBuilder
