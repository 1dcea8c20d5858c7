import SqlBuilder.Proofs.Query.Subqueries
import SqlBuilder.Proofs.Query.Values

/-!
# Rewriting queries

A `Rewriting` says what becomes of every value, of every table name and of every list of definitions
in a query.  One layer is rewritten clause by clause (`QueryOver.rewriteLayer`), and a query at
every depth (`Query.rewrite`).

Nothing but these three changes: what a rewritten query says to a dialect is what the query says,
rewritten (`Sections.of_rewrite`), and replacing subqueries before or after comes to the same
(`QueryOver.map_rewriteLayer`, `Sections.map_rewrite`).
-/

namespace SqlBuilder

/-- What becomes of the values, the table names and the definitions of a query. -/
structure Rewriting where
  value : Value → Value := id
  /-- Of the text that names a table, its alias included. -/
  table : String → String := id
  definitions : Definitions → Definitions := id

variable {σ τ : Type} (ρ : Rewriting)

/-! ## One layer -/

/-- Rewrites the values of raw SQL. -/
def Fragment.rewrite (f : Fragment) : Fragment :=
  ⟨f.expression, f.bindings.map ρ.value⟩

/-- Rewrites the values of a condition. -/
def ConditionKind.rewrite : ConditionKind σ → ConditionKind σ
  | compare c o v => .compare c o (ρ.value v)
  | pattern c m v s e => .pattern c m (ρ.value v) s e
  | datePart p c o v => .datePart p c o (ρ.value v)
  | columns a o b => .columns a o b
  | null c => .null c
  | boolean c b => .boolean c b
  | between c l h => .between c (ρ.value l) (ρ.value h)
  | inList c vs => .inList c (vs.map ρ.value)
  | inQuery c q => .inQuery c q
  | nonempty q => .nonempty q
  | group q => .group q
  | raw r => .raw (r.rewrite ρ)
  | queryCompare q o v => .queryCompare q o (ρ.value v)
  | columnQuery c o q => .columnQuery c o q

/-- Rewrites the values of a condition. -/
def Condition.rewrite (c : Condition σ) : Condition σ :=
  ⟨c.isOr, c.isNot, c.kind.rewrite ρ⟩

/-- Rewrites the table or the values of a source. -/
def Source.rewrite : Source σ → Source σ
  | table t => .table (ρ.table t)
  | query q => .query q
  | raw a r => .raw a (r.rewrite ρ)
  | rows a cs vs => .rows a cs (vs.map ρ.value)

/-- Rewrites the values of a column. -/
def Column.rewrite : Column σ → Column σ
  | named n => .named n
  | query q => .query q
  | aggregated g c q => .aggregated g c q
  | raw r => .raw (r.rewrite ρ)

/-- Rewrites the values of an order. -/
def OrderBy.rewrite : OrderBy → OrderBy
  | column c ascending => .column c ascending
  | random seed => .random seed
  | raw r => .raw (r.rewrite ρ)

/-- Rewrites the values of a set operation. -/
def Combine.rewrite : Combine σ → Combine σ
  | query o a q => .query o a q
  | raw r => .raw (r.rewrite ρ)

/-- Rewrites the values of an insert. -/
def InsertClause.rewrite : InsertClause σ → InsertClause σ
  | row cs vs r => .row cs (vs.map ρ.value) r
  | query cs q => .query cs q

/-- Rewrites the values of an update. -/
def UpdateClause.rewrite : UpdateClause → UpdateClause
  | set cs vs => .set cs (vs.map ρ.value)
  | increment c amount => .increment c amount

mutual

/-- Rewrites the content of a clause. -/
def ClauseKind.rewrite : ClauseKind σ → ClauseKind σ
  | .condition c => .condition (c.rewrite ρ)
  | .source s => .source (s.rewrite ρ)
  | .join j => .join j.rewrite
  | .column c => .column (c.rewrite ρ)
  | .order o => .order (o.rewrite ρ)
  | .limit n => .limit n
  | .offset n => .offset n
  | .aggregate a => .aggregate a
  | .combine c => .combine (c.rewrite ρ)
  | .insert i => .insert (i.rewrite ρ)
  | .update u => .update (u.rewrite ρ)
  | .lock m => .lock m
  | .tableColumn c => .tableColumn c
  | .tableKind k => .tableKind k
  | .tableExtension e => .tableExtension e

/-- Rewrites a clause. -/
def Clause.rewrite : Clause σ → Clause σ
  | ⟨component, engine, kind⟩ => ⟨component, engine, kind.rewrite⟩

/-- Rewrites a join. -/
def Join.rewrite : Join σ → Join σ
  | ⟨kind, clauses, index, state⟩ => ⟨kind, Clauses.rewrite clauses, index, state⟩

/-- Rewrites a list of clauses. -/
def Clauses.rewrite : List (Clause σ) → List (Clause σ)
  | [] => []
  | c :: cs => c.rewrite :: Clauses.rewrite cs

end

/-- Rewrites the definitions of a scope. -/
def Rewriting.scope (scope : Scope) : Scope :=
  scope.map ρ.definitions

/-- Rewrites a layer, but not its subqueries. -/
def QueryOver.rewriteLayer (q : QueryOver σ) : QueryOver σ :=
  { q with
    clauses := Clauses.rewrite ρ q.clauses
    definitions := ρ.definitions q.definitions
    parent := ρ.scope q.parent }

/-! ## All layers -/

/-- Rewrites a query at every depth. -/
def Subquery.rewrite : Subquery → Subquery :=
  Subquery.fold fun layer => ⟨layer.rewriteLayer ρ⟩

/-- Rewrites a query at every depth. -/
def Query.rewrite (q : Query) : Query :=
  QueryOver.rewriteLayer ρ (q.map (Subquery.rewrite ρ))

theorem Subquery.rewrite_mk (q : Query) : Subquery.rewrite ρ ⟨q⟩ = ⟨Query.rewrite ρ q⟩ :=
  Subquery.fold_mk _ q

/-! ## What a dialect is told -/

/-- Rewrites a join. -/
def JoinSections.rewrite (j : JoinSections σ) : JoinSections σ :=
  { j with
    target := j.target.map (Source.rewrite ρ)
    constraints := j.constraints.map (Condition.rewrite ρ) }

/-- Rewrites what a query says to a dialect. -/
def Sections.rewrite (s : Sections σ) : Sections σ :=
  { s with
    columns := s.columns.map (Column.rewrite ρ)
    source := s.source.map (Source.rewrite ρ)
    joins := s.joins.map (JoinSections.rewrite ρ)
    filters := s.filters.map (Condition.rewrite ρ)
    groups := s.groups.map (Column.rewrite ρ)
    havings := s.havings.map (Condition.rewrite ρ)
    orders := s.orders.map (OrderBy.rewrite ρ)
    combines := s.combines.map (Combine.rewrite ρ)
    ctes := s.ctes.map (Source.rewrite ρ)
    inserts := s.inserts.map (InsertClause.rewrite ρ)
    update := s.update.map (UpdateClause.rewrite ρ)
    tableSource := s.tableSource.map (Source.rewrite ρ)
    scope := ρ.scope s.scope }

namespace ClauseKind

variable (k : ClauseKind σ)

@[simp] theorem condition?_rewrite :
    (k.rewrite ρ).condition? = k.condition?.map (Condition.rewrite ρ) := by
  cases k <;> rfl

@[simp] theorem source?_rewrite : (k.rewrite ρ).source? = k.source?.map (Source.rewrite ρ) := by
  cases k <;> rfl

@[simp] theorem join?_rewrite : (k.rewrite ρ).join? = k.join?.map (Join.rewrite ρ) := by
  cases k <;> rfl

@[simp] theorem column?_rewrite : (k.rewrite ρ).column? = k.column?.map (Column.rewrite ρ) := by
  cases k <;> rfl

@[simp] theorem order?_rewrite : (k.rewrite ρ).order? = k.order?.map (OrderBy.rewrite ρ) := by
  cases k <;> rfl

@[simp] theorem combine?_rewrite :
    (k.rewrite ρ).combine? = k.combine?.map (Combine.rewrite ρ) := by
  cases k <;> rfl

@[simp] theorem insert?_rewrite :
    (k.rewrite ρ).insert? = k.insert?.map (InsertClause.rewrite ρ) := by
  cases k <;> rfl

@[simp] theorem update?_rewrite :
    (k.rewrite ρ).update? = k.update?.map (UpdateClause.rewrite ρ) := by
  cases k <;> rfl

@[simp] theorem count?_rewrite : (k.rewrite ρ).count? = k.count? := by
  cases k <;> rfl

@[simp] theorem aggregate?_rewrite : (k.rewrite ρ).aggregate? = k.aggregate? := by
  cases k <;> rfl

@[simp] theorem lock?_rewrite : (k.rewrite ρ).lock? = k.lock? := by
  cases k <;> rfl

@[simp] theorem tableColumn?_rewrite : (k.rewrite ρ).tableColumn? = k.tableColumn? := by
  cases k <;> rfl

@[simp] theorem isTemporary_rewrite : (k.rewrite ρ).isTemporary = k.isTemporary := by
  cases k with
  | tableKind kind => cases kind <;> rfl
  | _ => rfl

@[simp] theorem preservesRows_rewrite : (k.rewrite ρ).preservesRows = k.preservesRows := by
  cases k <;> rfl

end ClauseKind

namespace Clause

@[simp] theorem component_rewrite (c : Clause σ) : (c.rewrite ρ).component = c.component := by
  cases c; rfl

@[simp] theorem engine_rewrite (c : Clause σ) : (c.rewrite ρ).engine = c.engine := by
  cases c; rfl

@[simp] theorem kind_rewrite (c : Clause σ) : (c.rewrite ρ).kind = c.kind.rewrite ρ := by
  cases c; rfl

@[simp] theorem applies_rewrite (engine : Option Dialect) (c : Clause σ) :
    (c.rewrite ρ).applies engine = c.applies engine := by
  simp [Clause.applies]

end Clause

namespace Clauses

theorem rewrite_eq (cs : List (Clause σ)) :
    Clauses.rewrite ρ cs = cs.map (Clause.rewrite ρ) := by
  induction cs with
  | nil => rfl
  | cons c cs ih => simp [Clauses.rewrite, ih]

/-- A rewriting files no clause elsewhere. -/
theorem ofComponent_rewrite (component : Component) (engine : Option Dialect)
    (cs : List (Clause σ)) :
    ofComponent component engine (Clauses.rewrite ρ cs) =
      (ofComponent component engine cs).map (Clause.rewrite ρ) := by
  simp [ofComponent, rewrite_eq, List.filter_map, Function.comp_def]

theorem pick?_rewrite (component : Component) (engine : Option Dialect) (cs : List (Clause σ)) :
    pick? component engine (Clauses.rewrite ρ cs) =
      (pick? component engine cs).map (Clause.rewrite ρ) := by
  simp only [pick?, ofComponent_rewrite, List.find?_map, Function.comp_def, Clause.engine_rewrite]
  cases (ofComponent component engine cs).find? (fun c => c.engine == engine) <;> simp

@[simp] theorem has_rewrite (component : Component) (engine : Option Dialect)
    (cs : List (Clause σ)) :
    has component engine (Clauses.rewrite ρ cs) = has component engine cs := by
  simp [has, ofComponent_rewrite]

end Clauses

theorem JoinSections.of_rewrite (d : Dialect) (j : Join σ) :
    JoinSections.of d (j.rewrite ρ) = (JoinSections.of d j).rewrite ρ := by
  obtain ⟨kind, clauses, index, state⟩ := j
  simp only [JoinSections.of, JoinSections.rewrite, Join.rewrite, Clauses.ofComponent_rewrite,
    Clauses.pick?_rewrite, List.filterMap_map, List.map_filterMap, Option.map_bind,
    Option.bind_map, Function.comp_def, Clause.kind_rewrite, ClauseKind.source?_rewrite,
    ClauseKind.condition?_rewrite]

/-- What a rewritten layer says to a dialect. -/
theorem Sections.of_rewrite (d : Dialect) (q : QueryOver σ) :
    of d (q.rewriteLayer ρ) = (of d q).rewrite ρ := by
  simp [of, rewrite, QueryOver.rewriteLayer, QueryOver.limitFor, QueryOver.offsetFor,
    QueryOver.scope, Rewriting.scope, Clauses.ofComponent_rewrite, Clauses.pick?_rewrite,
    List.filterMap_map, List.map_filterMap, Option.map_bind, Option.bind_map, Option.any_map,
    Function.comp_def, JoinSections.of_rewrite]

/-! ## Subqueries -/

section Map

variable (f : σ → τ)

theorem ConditionKind.map_rewrite (k : ConditionKind σ) :
    (k.rewrite ρ).map f = (k.map f).rewrite ρ := by
  cases k <;> rfl

theorem Condition.map_rewrite (c : Condition σ) : (c.rewrite ρ).map f = (c.map f).rewrite ρ :=
  congrArg (Condition.mk c.isOr c.isNot) (c.kind.map_rewrite ρ f)

theorem Source.map_rewrite (x : Source σ) : (x.rewrite ρ).map f = (x.map f).rewrite ρ := by
  cases x <;> rfl

theorem Column.map_rewrite (c : Column σ) : (c.rewrite ρ).map f = (c.map f).rewrite ρ := by
  cases c <;> rfl

theorem Combine.map_rewrite (c : Combine σ) : (c.rewrite ρ).map f = (c.map f).rewrite ρ := by
  cases c <;> rfl

theorem InsertClause.map_rewrite (i : InsertClause σ) :
    (i.rewrite ρ).map f = (i.map f).rewrite ρ := by
  cases i <;> rfl

theorem JoinSections.map_rewrite (j : JoinSections σ) :
    (j.rewrite ρ).map f = (j.map f).rewrite ρ := by
  simp [JoinSections.rewrite, JoinSections.map, Function.comp_def, Source.map_rewrite,
    Condition.map_rewrite]

/-- Replacing subqueries before or after a rewriting comes to the same. -/
theorem Sections.map_rewrite (s : Sections σ) : (s.rewrite ρ).map f = (s.map f).rewrite ρ := by
  simp [Sections.rewrite, Sections.map, Function.comp_def, Source.map_rewrite,
    Condition.map_rewrite, Column.map_rewrite, Combine.map_rewrite, InsertClause.map_rewrite,
    JoinSections.map_rewrite]

end Map

/-! ## Transformed selects -/

namespace Sections

variable (s : Sections σ)

theorem presenceTests_rewrite (pending : Pending) (columns : List String) :
    (presenceTests pending columns : List (Condition σ)).map (Condition.rewrite ρ) =
      presenceTests pending columns := by
  induction columns generalizing pending with
  | nil => rfl
  | cons c cs ih => simp [presenceTests, ih, Condition.rewrite, ConditionKind.rewrite]

/-- Rewrites the select that an aggregate statement stands for. -/
def AggregateForm.rewrite : AggregateForm σ → AggregateForm σ
  | .flat select => .flat (select.rewrite ρ)
  | .wrapped function rows => .wrapped function (rows.rewrite ρ)
  | .hollow => .hollow

/-- The select that a rewritten aggregate statement stands for. -/
theorem aggregateForm_rewrite : (s.rewrite ρ).aggregateForm = s.aggregateForm.rewrite ρ := by
  have haggregate : (s.rewrite ρ).aggregate = s.aggregate := rfl
  have hdistinct : (s.rewrite ρ).distinct = s.distinct := rfl
  have haccepts : (s.rewrite ρ).accepts = s.accepts := rfl
  simp only [aggregateForm, haggregate, hdistinct, haccepts]
  cases s.aggregate with
  | none => rfl
  | some a =>
    by_cases hone : a.columns.length = 1 ∧ !s.distinct
    · simp only [if_pos hone]
      rfl
    · simp only [if_neg hone]
      by_cases haccepts : !s.accepts
      · simp only [if_pos haccepts, AggregateForm.rewrite]
      · simp only [if_neg haccepts]
        by_cases hdistinct : s.distinct
        · simp only [if_pos hdistinct, AggregateForm.rewrite]
          simp [rewrite, unpaged, unordered, Column.rewrite, Function.comp_def]
        · simp only [if_neg hdistinct, AggregateForm.rewrite]
          simp [rewrite, unpaged, unordered, presenceTests_rewrite]

end Sections

/-! ## What is rewritten -/

theorem Condition.subqueries_rewrite (c : Condition σ) :
    (c.rewrite ρ).subqueries = c.subqueries := by
  obtain ⟨isOr, isNot, kind⟩ := c
  cases kind <;> rfl

theorem Source.subqueries_rewrite (x : Source σ) : (x.rewrite ρ).subqueries = x.subqueries := by
  cases x <;> rfl

theorem Column.subqueries_rewrite (c : Column σ) : (c.rewrite ρ).subqueries = c.subqueries := by
  cases c <;> rfl

theorem Combine.subqueries_rewrite (c : Combine σ) :
    (c.rewrite ρ).subqueries = c.subqueries := by
  cases c <;> rfl

theorem InsertClause.subqueries_rewrite (i : InsertClause σ) :
    (i.rewrite ρ).subqueries = i.subqueries := by
  cases i <;> rfl

theorem Condition.values_rewrite (c : Condition σ) :
    (c.rewrite ρ).values = c.values.map ρ.value := by
  obtain ⟨isOr, isNot, kind⟩ := c
  cases kind <;> rfl

theorem Source.values_rewrite (x : Source σ) : (x.rewrite ρ).values = x.values.map ρ.value := by
  cases x <;> rfl

theorem Column.values_rewrite (c : Column σ) : (c.rewrite ρ).values = c.values.map ρ.value := by
  cases c <;> rfl

theorem OrderBy.values_rewrite (o : OrderBy) : (o.rewrite ρ).values = o.values.map ρ.value := by
  cases o <;> rfl

theorem Combine.values_rewrite (c : Combine σ) :
    (c.rewrite ρ).values = c.values.map ρ.value := by
  cases c <;> rfl

theorem InsertClause.values_rewrite (i : InsertClause σ) :
    (i.rewrite ρ).values = i.values.map ρ.value := by
  cases i <;> rfl

theorem UpdateClause.values_rewrite (u : UpdateClause) :
    (u.rewrite ρ).values = u.values.map ρ.value := by
  cases u <;> rfl

mutual

theorem ClauseKind.subqueries_rewrite : ∀ k : ClauseKind σ,
    (k.rewrite ρ).subqueries = k.subqueries
  | .condition c => Condition.subqueries_rewrite ρ c
  | .source x => Source.subqueries_rewrite ρ x
  | .join j => Join.subqueries_rewrite j
  | .column c => Column.subqueries_rewrite ρ c
  | .combine c => Combine.subqueries_rewrite ρ c
  | .insert i => InsertClause.subqueries_rewrite ρ i
  | .order _ | .limit _ | .offset _ | .aggregate _ | .update _ | .lock _ | .tableColumn _
  | .tableKind _ | .tableExtension _ => rfl

theorem Clause.subqueries_rewrite : ∀ c : Clause σ, (c.rewrite ρ).subqueries = c.subqueries
  | ⟨_, _, k⟩ => ClauseKind.subqueries_rewrite k

theorem Join.subqueries_rewrite : ∀ j : Join σ, (j.rewrite ρ).subqueries = j.subqueries
  | ⟨_, cs, _, _⟩ => Clauses.subqueries_rewrite cs

theorem Clauses.subqueries_rewrite : ∀ cs : List (Clause σ),
    Clauses.subqueries (Clauses.rewrite ρ cs) = Clauses.subqueries cs
  | [] => rfl
  | c :: cs => by
    rw [Clauses.rewrite, Clauses.subqueries, Clauses.subqueries, Clause.subqueries_rewrite c,
      Clauses.subqueries_rewrite cs]

end

mutual

theorem ClauseKind.values_rewrite : ∀ k : ClauseKind σ,
    (k.rewrite ρ).values = k.values.map ρ.value
  | .condition c => Condition.values_rewrite ρ c
  | .source x => Source.values_rewrite ρ x
  | .join j => Join.values_rewrite j
  | .column c => Column.values_rewrite ρ c
  | .order o => OrderBy.values_rewrite ρ o
  | .combine c => Combine.values_rewrite ρ c
  | .insert i => InsertClause.values_rewrite ρ i
  | .update u => UpdateClause.values_rewrite ρ u
  | .limit _ | .offset _ | .aggregate _ | .lock _ | .tableColumn _ | .tableKind _
  | .tableExtension _ => rfl

theorem Clause.values_rewrite : ∀ c : Clause σ, (c.rewrite ρ).values = c.values.map ρ.value
  | ⟨_, _, k⟩ => ClauseKind.values_rewrite k

theorem Join.values_rewrite : ∀ j : Join σ, (j.rewrite ρ).values = j.values.map ρ.value
  | ⟨_, cs, _, _⟩ => Clauses.values_rewrite cs

/-- A rewriting leaves none of the values out. -/
theorem Clauses.values_rewrite : ∀ cs : List (Clause σ),
    Clauses.values (Clauses.rewrite ρ cs) = (Clauses.values cs).map ρ.value
  | [] => rfl
  | c :: cs => by
    rw [Clauses.rewrite, Clauses.values, Clauses.values, Clause.values_rewrite c,
      Clauses.values_rewrite cs, List.map_append]

end

theorem Query.subqueries_rewrite (q : Query) :
    (Query.rewrite ρ q).subqueries = q.subqueries.map (Subquery.rewrite ρ) :=
  (Clauses.subqueries_rewrite ρ _).trans (QueryOver.subqueries_map _ q)

theorem Query.values_rewrite (q : Query) :
    Clauses.values (Query.rewrite ρ q).clauses = (Clauses.values q.clauses).map ρ.value :=
  (Clauses.values_rewrite ρ _).trans (congrArg _ (Clauses.values_map _ q.clauses))

/-! ## The rewriting that changes nothing -/

section Identity

theorem Fragment.rewrite_id (f : Fragment) : f.rewrite {} = f := by
  simp [Fragment.rewrite]

theorem Condition.rewrite_id (c : Condition σ) : c.rewrite {} = c := by
  obtain ⟨isOr, isNot, kind⟩ := c
  cases kind <;> simp [Condition.rewrite, ConditionKind.rewrite, Fragment.rewrite_id]

theorem Source.rewrite_id (x : Source σ) : x.rewrite {} = x := by
  cases x <;> simp [Source.rewrite, Fragment.rewrite_id]

theorem Column.rewrite_id (c : Column σ) : c.rewrite {} = c := by
  cases c <;> simp [Column.rewrite, Fragment.rewrite_id]

theorem OrderBy.rewrite_id (o : OrderBy) : o.rewrite {} = o := by
  cases o <;> simp [OrderBy.rewrite, Fragment.rewrite_id]

theorem Combine.rewrite_id (c : Combine σ) : c.rewrite {} = c := by
  cases c <;> simp [Combine.rewrite, Fragment.rewrite_id]

theorem InsertClause.rewrite_id (i : InsertClause σ) : i.rewrite {} = i := by
  cases i <;> simp [InsertClause.rewrite]

theorem UpdateClause.rewrite_id (u : UpdateClause) : u.rewrite {} = u := by
  cases u <;> simp [UpdateClause.rewrite]

mutual

theorem ClauseKind.rewrite_id : ∀ k : ClauseKind σ, k.rewrite {} = k
  | .condition c => by rw [ClauseKind.rewrite, Condition.rewrite_id]
  | .source x => by rw [ClauseKind.rewrite, Source.rewrite_id]
  | .join j => by rw [ClauseKind.rewrite, Join.rewrite_id j]
  | .column c => by rw [ClauseKind.rewrite, Column.rewrite_id]
  | .order o => by rw [ClauseKind.rewrite, OrderBy.rewrite_id]
  | .combine c => by rw [ClauseKind.rewrite, Combine.rewrite_id]
  | .insert i => by rw [ClauseKind.rewrite, InsertClause.rewrite_id]
  | .update u => by rw [ClauseKind.rewrite, UpdateClause.rewrite_id]
  | .limit _ | .offset _ | .aggregate _ | .lock _ | .tableColumn _ | .tableKind _
  | .tableExtension _ => by rw [ClauseKind.rewrite]

theorem Clause.rewrite_id : ∀ c : Clause σ, c.rewrite {} = c
  | ⟨_, _, k⟩ => by rw [Clause.rewrite, ClauseKind.rewrite_id k]

theorem Join.rewrite_id : ∀ j : Join σ, j.rewrite {} = j
  | ⟨_, cs, _, _⟩ => by rw [Join.rewrite, Clauses.rewrite_id cs]

theorem Clauses.rewrite_id : ∀ cs : List (Clause σ), Clauses.rewrite {} cs = cs
  | [] => by rw [Clauses.rewrite]
  | c :: cs => by rw [Clauses.rewrite, Clause.rewrite_id c, Clauses.rewrite_id cs]

end

theorem Rewriting.scope_id (scope : Scope) : Rewriting.scope {} scope = scope :=
  List.map_id scope

theorem JoinSections.rewrite_id (j : JoinSections σ) : j.rewrite {} = j := by
  simp [JoinSections.rewrite, funext Condition.rewrite_id, funext Source.rewrite_id]

theorem Sections.rewrite_id (s : Sections σ) : s.rewrite {} = s := by
  simp [Sections.rewrite, funext Column.rewrite_id, funext Source.rewrite_id,
    funext JoinSections.rewrite_id, funext Condition.rewrite_id, funext OrderBy.rewrite_id,
    funext Combine.rewrite_id, funext InsertClause.rewrite_id, funext UpdateClause.rewrite_id,
    Rewriting.scope_id]

theorem QueryOver.rewriteLayer_id (q : QueryOver σ) : q.rewriteLayer {} = q := by
  simp only [QueryOver.rewriteLayer, Clauses.rewrite_id, Rewriting.scope_id, id]

theorem Query.rewrite_id (q : Query) : Query.rewrite {} q = q := by
  have hsub : Subquery.rewrite {} = id := by
    funext s
    simp only [Subquery.rewrite, QueryOver.rewriteLayer_id]
    exact Subquery.fold_subquery_mk s
  rw [Query.rewrite, hsub, QueryOver.map_id, QueryOver.rewriteLayer_id]

end Identity

end SqlBuilder
