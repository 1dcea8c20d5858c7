import SqlBuilder.Proofs.Query.Fold

/-!
# The values of a layer

`values` lists what a part of a query binds, the values of its subqueries not included, so that it is
the same whatever the subqueries are (`Clauses.values_map`).
-/

namespace SqlBuilder

variable {σ τ : Type}

/-- The values of a condition. -/
def ConditionKind.values : ConditionKind σ → List Value
  | .compare _ _ v | .pattern _ _ v _ _ | .datePart _ _ _ v | .queryCompare _ _ v => [v]
  | .between _ lower higher => [lower, higher]
  | .inList _ vs => vs
  | .raw r => r.bindings
  | _ => []

/-- The values of a condition. -/
def Condition.values (c : Condition σ) : List Value :=
  c.kind.values

/-- The values of a source. -/
def Source.values : Source σ → List Value
  | .raw _ r => r.bindings
  | .rows _ _ vs => vs
  | _ => []

/-- The values of a column. -/
def Column.values : Column σ → List Value
  | .raw r => r.bindings
  | _ => []

/-- The values of an order. -/
def OrderBy.values : OrderBy → List Value
  | .raw r => r.bindings
  | _ => []

/-- The values of a set operation. -/
def Combine.values : Combine σ → List Value
  | .raw r => r.bindings
  | .query _ _ _ => []

/-- The values of an inserted row. -/
def InsertClause.values : InsertClause σ → List Value
  | .row _ vs _ => vs
  | .query _ _ => []

/-- The assigned values. -/
def UpdateClause.values : UpdateClause → List Value
  | .set _ vs => vs
  | .increment _ _ => []

mutual

/-- The values of the content of a clause. -/
def ClauseKind.values : ClauseKind σ → List Value
  | .condition c => c.values
  | .source s => s.values
  | .join j => j.values
  | .column c => c.values
  | .order o => o.values
  | .combine c => c.values
  | .insert i => i.values
  | .update u => u.values
  | _ => []

/-- The values of a clause. -/
def Clause.values : Clause σ → List Value
  | ⟨_, _, kind⟩ => kind.values

/-- The values of a join. -/
def Join.values : Join σ → List Value
  | ⟨_, clauses, _, _⟩ => Clauses.values clauses

/-- The values of a list of clauses. -/
def Clauses.values : List (Clause σ) → List Value
  | [] => []
  | c :: cs => c.values ++ Clauses.values cs

end

theorem Clauses.values_eq_flatMap (cs : List (Clause σ)) :
    Clauses.values cs = cs.flatMap Clause.values := by
  induction cs with
  | nil => rw [Clauses.values, List.flatMap_nil]
  | cons c cs ih => rw [Clauses.values, List.flatMap_cons, ih]

/-! ## Maps -/

section Map

variable (f : σ → τ)

theorem Condition.values_map (c : Condition σ) : (c.map f).values = c.values := by
  obtain ⟨isOr, isNot, kind⟩ := c
  cases kind <;> rfl

theorem Source.values_map (x : Source σ) : (x.map f).values = x.values := by
  cases x <;> rfl

theorem Column.values_map (c : Column σ) : (c.map f).values = c.values := by
  cases c <;> rfl

theorem Combine.values_map (c : Combine σ) : (c.map f).values = c.values := by
  cases c <;> rfl

theorem InsertClause.values_map (i : InsertClause σ) : (i.map f).values = i.values := by
  cases i <;> rfl

mutual

theorem ClauseKind.values_map : ∀ k : ClauseKind σ, (k.map f).values = k.values
  | .condition c => by
    rw [ClauseKind.map, ClauseKind.values, ClauseKind.values, Condition.values_map]
  | .source x => by rw [ClauseKind.map, ClauseKind.values, ClauseKind.values, Source.values_map]
  | .join j => by rw [ClauseKind.map, ClauseKind.values, ClauseKind.values, Join.values_map j]
  | .column c => by rw [ClauseKind.map, ClauseKind.values, ClauseKind.values, Column.values_map]
  | .combine c => by rw [ClauseKind.map, ClauseKind.values, ClauseKind.values, Combine.values_map]
  | .insert i => by
    rw [ClauseKind.map, ClauseKind.values, ClauseKind.values, InsertClause.values_map]
  | .order _ | .limit _ | .offset _ | .aggregate _ | .update _ | .lock _ | .tableColumn _
  | .tableKind _ | .tableExtension _ => rfl

theorem Clause.values_map : ∀ c : Clause σ, (c.map f).values = c.values
  | ⟨_, _, k⟩ => by rw [Clause.map, Clause.values, Clause.values, ClauseKind.values_map k]

theorem Join.values_map : ∀ j : Join σ, (j.map f).values = j.values
  | ⟨_, cs, _, _⟩ => by rw [Join.map, Join.values, Join.values, Clauses.values_map cs]

theorem Clauses.values_map : ∀ cs : List (Clause σ),
    Clauses.values (Clauses.map f cs) = Clauses.values cs
  | [] => rfl
  | c :: cs => by
    rw [Clauses.map, Clauses.values, Clauses.values, Clause.values_map c, Clauses.values_map cs]

end

end Map

end SqlBuilder
