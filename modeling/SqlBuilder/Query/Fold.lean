import SqlBuilder.Query.Basic

/-!
# Maps and folds over queries

`QueryOver.map f` replaces the subqueries of one layer by their images.  `Subquery.fold alg` applies
an algebra to all layers of a query, innermost first: the algebra is handed a layer in which every
subquery has been replaced by its result (`Subquery.fold_mk`).

The maps keep everything but the subqueries; in particular they commute with choosing the clauses of
a component (`Clauses.ofComponent_map`, `Clauses.pick?_map`).
-/

namespace SqlBuilder

variable {σ τ : Type}

/-! ## Maps over one layer -/

/-- Replaces the subqueries of a condition. -/
def ConditionKind.map (f : σ → τ) : ConditionKind σ → ConditionKind τ
  | compare c o v => .compare c o v
  | pattern c m v s e => .pattern c m v s e
  | datePart p c o v => .datePart p c o v
  | columns a o b => .columns a o b
  | null c => .null c
  | boolean c b => .boolean c b
  | between c l h => .between c l h
  | inList c vs => .inList c vs
  | inQuery c q => .inQuery c (f q)
  | nonempty q => .nonempty (f q)
  | group q => .group (f q)
  | raw r => .raw r
  | queryCompare q o v => .queryCompare (f q) o v
  | columnQuery c o q => .columnQuery c o (f q)

/-- Replaces the subqueries of a condition. -/
def Condition.map (f : σ → τ) (c : Condition σ) : Condition τ :=
  ⟨c.isOr, c.isNot, c.kind.map f⟩

/-- Replaces the subquery of a source. -/
def Source.map (f : σ → τ) : Source σ → Source τ
  | table t => .table t
  | query q => .query (f q)
  | raw a r => .raw a r
  | rows a cs vs => .rows a cs vs

/-- Replaces the subqueries of a column. -/
def Column.map (f : σ → τ) : Column σ → Column τ
  | named n => .named n
  | query q => .query (f q)
  | aggregated g c q => .aggregated g c (q.map f)
  | raw r => .raw r

/-- Replaces the subquery of a set operation. -/
def Combine.map (f : σ → τ) : Combine σ → Combine τ
  | query o a q => .query o a (f q)
  | raw r => .raw r

/-- Replaces the subquery of an insert. -/
def InsertClause.map (f : σ → τ) : InsertClause σ → InsertClause τ
  | row cs vs r => .row cs vs r
  | query cs q => .query cs (f q)

mutual

/-- Replaces the subqueries of the content of a clause. -/
def ClauseKind.map (f : σ → τ) : ClauseKind σ → ClauseKind τ
  | .condition c => .condition (c.map f)
  | .source s => .source (s.map f)
  | .join j => .join (j.map f)
  | .column c => .column (c.map f)
  | .order o => .order o
  | .limit n => .limit n
  | .offset n => .offset n
  | .aggregate a => .aggregate a
  | .combine c => .combine (c.map f)
  | .insert i => .insert (i.map f)
  | .update u => .update u
  | .lock m => .lock m
  | .tableColumn c => .tableColumn c
  | .tableKind k => .tableKind k
  | .tableExtension e => .tableExtension e

/-- Replaces the subqueries of a clause. -/
def Clause.map (f : σ → τ) : Clause σ → Clause τ
  | ⟨component, engine, kind⟩ => ⟨component, engine, kind.map f⟩

/-- Replaces the subqueries of a join. -/
def Join.map (f : σ → τ) : Join σ → Join τ
  | ⟨kind, clauses, index, state⟩ => ⟨kind, Clauses.map f clauses, index, state⟩

/-- Replaces the subqueries of a list of clauses. -/
def Clauses.map (f : σ → τ) : List (Clause σ) → List (Clause τ)
  | [] => []
  | c :: cs => c.map f :: Clauses.map f cs

end

/-- Replaces the subqueries of a layer. -/
def QueryOver.map (f : σ → τ) (q : QueryOver σ) : QueryOver τ where
  clauses := Clauses.map f q.clauses
  method := q.method
  distinct := q.distinct
  aliasName := q.aliasName
  definitions := q.definitions
  parent := q.parent
  engineScope := q.engineScope
  pending := q.pending
  error := q.error

theorem Clauses.map_eq (f : σ → τ) (cs : List (Clause σ)) :
    Clauses.map f cs = List.map (Clause.map f) cs := by
  induction cs with
  | nil => rfl
  | cons c cs ih => simp [Clauses.map, ih]

@[simp] theorem Clause.component_map (f : σ → τ) (c : Clause σ) :
    (c.map f).component = c.component := by
  cases c; rfl

@[simp] theorem Clause.engine_map (f : σ → τ) (c : Clause σ) : (c.map f).engine = c.engine := by
  cases c; rfl

@[simp] theorem Clause.applies_map (f : σ → τ) (engine : Option Dialect) (c : Clause σ) :
    (c.map f).applies engine = c.applies engine := by
  simp [Clause.applies]

/-- Choosing the clauses of a component commutes with replacing subqueries. -/
theorem Clauses.ofComponent_map (f : σ → τ) (component : Component) (engine : Option Dialect)
    (cs : List (Clause σ)) :
    ofComponent component engine (Clauses.map f cs) =
      (ofComponent component engine cs).map (Clause.map f) := by
  simp [ofComponent, Clauses.map_eq, List.filter_map, Function.comp_def]

/-- Choosing the clause in force commutes with replacing subqueries. -/
theorem Clauses.pick?_map (f : σ → τ) (component : Component) (engine : Option Dialect)
    (cs : List (Clause σ)) :
    pick? component engine (Clauses.map f cs) = (pick? component engine cs).map (Clause.map f) := by
  simp only [pick?, Clauses.ofComponent_map, List.find?_map, Function.comp_def, Clause.engine_map]
  cases (ofComponent component engine cs).find? (fun c => c.engine == engine) <;> simp

/-! ## Folding over all layers -/

namespace Subquery

mutual

/-- Applies an algebra to all layers, innermost first. -/
def fold {α : Type} (alg : QueryOver α → α) : Subquery → α
  | ⟨q⟩ => alg (foldLayer alg q)

/-- One layer with its subqueries folded. -/
def foldLayer {α : Type} (alg : QueryOver α → α) : QueryOver Subquery → QueryOver α
  | ⟨clauses, method, distinct, aliasName, definitions, parent, engineScope, pending, error⟩ =>
    ⟨foldClauses alg clauses, method, distinct, aliasName, definitions, parent, engineScope,
      pending, error⟩

/-- A list of clauses with its subqueries folded. -/
def foldClauses {α : Type} (alg : QueryOver α → α) : List (Clause Subquery) → List (Clause α)
  | [] => []
  | c :: cs => foldClause alg c :: foldClauses alg cs

/-- A clause with its subqueries folded. -/
def foldClause {α : Type} (alg : QueryOver α → α) : Clause Subquery → Clause α
  | ⟨component, engine, kind⟩ => ⟨component, engine, foldKind alg kind⟩

/-- The content of a clause with its subqueries folded. -/
def foldKind {α : Type} (alg : QueryOver α → α) : ClauseKind Subquery → ClauseKind α
  | .condition c => .condition (foldCondition alg c)
  | .source s => .source (foldSource alg s)
  | .join j => .join (foldJoin alg j)
  | .column c => .column (foldColumn alg c)
  | .order o => .order o
  | .limit n => .limit n
  | .offset n => .offset n
  | .aggregate a => .aggregate a
  | .combine c => .combine (foldCombine alg c)
  | .insert i => .insert (foldInsert alg i)
  | .update u => .update u
  | .lock m => .lock m
  | .tableColumn c => .tableColumn c
  | .tableKind k => .tableKind k
  | .tableExtension e => .tableExtension e

/-- A join with its subqueries folded. -/
def foldJoin {α : Type} (alg : QueryOver α → α) : Join Subquery → Join α
  | ⟨kind, clauses, index, state⟩ => ⟨kind, foldClauses alg clauses, index, state⟩

/-- A condition with its subqueries folded. -/
def foldCondition {α : Type} (alg : QueryOver α → α) : Condition Subquery → Condition α
  | ⟨isOr, isNot, kind⟩ => ⟨isOr, isNot, foldConditionKind alg kind⟩

/-- What a condition demands, with its subqueries folded. -/
def foldConditionKind {α : Type} (alg : QueryOver α → α) :
    ConditionKind Subquery → ConditionKind α
  | .compare c o v => .compare c o v
  | .pattern c m v s e => .pattern c m v s e
  | .datePart p c o v => .datePart p c o v
  | .columns a o b => .columns a o b
  | .null c => .null c
  | .boolean c b => .boolean c b
  | .between c l h => .between c l h
  | .inList c vs => .inList c vs
  | .inQuery c q => .inQuery c (fold alg q)
  | .nonempty q => .nonempty (fold alg q)
  | .group q => .group (fold alg q)
  | .raw r => .raw r
  | .queryCompare q o v => .queryCompare (fold alg q) o v
  | .columnQuery c o q => .columnQuery c o (fold alg q)

/-- A source with its subquery folded. -/
def foldSource {α : Type} (alg : QueryOver α → α) : Source Subquery → Source α
  | .table t => .table t
  | .query q => .query (fold alg q)
  | .raw a r => .raw a r
  | .rows a cs vs => .rows a cs vs

/-- A column with its subqueries folded. -/
def foldColumn {α : Type} (alg : QueryOver α → α) : Column Subquery → Column α
  | .named n => .named n
  | .query q => .query (fold alg q)
  | .aggregated g c none => .aggregated g c none
  | .aggregated g c (some q) => .aggregated g c (some (fold alg q))
  | .raw r => .raw r

/-- A set operation with its subquery folded. -/
def foldCombine {α : Type} (alg : QueryOver α → α) : Combine Subquery → Combine α
  | .query o a q => .query o a (fold alg q)
  | .raw r => .raw r

/-- An insert with its subquery folded. -/
def foldInsert {α : Type} (alg : QueryOver α → α) : InsertClause Subquery → InsertClause α
  | .row cs vs r => .row cs vs r
  | .query cs q => .query cs (fold alg q)

end

/-! ### The folds of the parts are maps -/

variable {α : Type} (alg : QueryOver α → α)

theorem foldConditionKind_eq (k : ConditionKind Subquery) :
    foldConditionKind alg k = k.map (fold alg) := by
  cases k <;> simp [foldConditionKind, ConditionKind.map]

theorem foldCondition_eq (c : Condition Subquery) : foldCondition alg c = c.map (fold alg) := by
  cases c; simp [foldCondition, Condition.map, foldConditionKind_eq]

theorem foldSource_eq (s : Source Subquery) : foldSource alg s = s.map (fold alg) := by
  cases s <;> simp [foldSource, Source.map]

theorem foldColumn_eq (c : Column Subquery) : foldColumn alg c = c.map (fold alg) := by
  cases c with
  | aggregated g c q => cases q <;> simp [foldColumn, Column.map]
  | _ => simp [foldColumn, Column.map]

theorem foldCombine_eq (c : Combine Subquery) : foldCombine alg c = c.map (fold alg) := by
  cases c <;> simp [foldCombine, Combine.map]

theorem foldInsert_eq (i : InsertClause Subquery) : foldInsert alg i = i.map (fold alg) := by
  cases i <;> simp [foldInsert, InsertClause.map]

mutual

theorem foldKind_eq : ∀ k : ClauseKind Subquery, foldKind alg k = k.map (fold alg)
  | .condition c => by simp [foldKind, ClauseKind.map, foldCondition_eq]
  | .source s => by simp [foldKind, ClauseKind.map, foldSource_eq]
  | .join j => by simp [foldKind, ClauseKind.map, foldJoin_eq j]
  | .column c => by simp [foldKind, ClauseKind.map, foldColumn_eq]
  | .order _ => by simp [foldKind, ClauseKind.map]
  | .limit _ => by simp [foldKind, ClauseKind.map]
  | .offset _ => by simp [foldKind, ClauseKind.map]
  | .aggregate _ => by simp [foldKind, ClauseKind.map]
  | .combine c => by simp [foldKind, ClauseKind.map, foldCombine_eq]
  | .insert i => by simp [foldKind, ClauseKind.map, foldInsert_eq]
  | .update _ => by simp [foldKind, ClauseKind.map]
  | .lock _ => by simp [foldKind, ClauseKind.map]
  | .tableColumn _ => by simp [foldKind, ClauseKind.map]
  | .tableKind _ => by simp [foldKind, ClauseKind.map]
  | .tableExtension _ => by simp [foldKind, ClauseKind.map]

theorem foldClause_eq : ∀ c : Clause Subquery, foldClause alg c = c.map (fold alg)
  | ⟨_, _, k⟩ => by simp [foldClause, Clause.map, foldKind_eq k]

theorem foldJoin_eq : ∀ j : Join Subquery, foldJoin alg j = j.map (fold alg)
  | ⟨_, cs, _, _⟩ => by simp [foldJoin, Join.map, foldClauses_eq cs]

theorem foldClauses_eq : ∀ cs : List (Clause Subquery),
    foldClauses alg cs = Clauses.map (fold alg) cs
  | [] => by simp [foldClauses, Clauses.map]
  | c :: cs => by simp [foldClauses, Clauses.map, foldClause_eq c, foldClauses_eq cs]

end

/-- The algebra sees a layer whose subqueries have been folded. -/
theorem fold_mk (q : Query) : fold alg ⟨q⟩ = alg (q.map (fold alg)) := by
  cases q
  simp [fold, foldLayer, QueryOver.map, foldClauses_eq]

end Subquery

end SqlBuilder
