import SqlBuilder.Proofs.Query.Sections

/-!
# The subqueries of a layer

`QueryOver.subqueries` lists what stands in the places of subqueries in one layer, in the order of
the clauses and for every dialect.

Maps change them member by member (`QueryOver.subqueries_map`), and a property that all of them have
can be carried along as part of their type: the layer is then a map of one over a subtype
(`QueryOver.exists_attach`, `Sections.exists_attach`).  So a lemma about a layer over an arbitrary
type, all of whose elements have a property, speaks about a layer whose subqueries have it.  This
gives the principle of induction over queries (`Subquery.induction`).
-/

namespace SqlBuilder

variable {σ τ : Type}

/-! ## Lists of subqueries -/

/-- The subqueries of a condition. -/
def ConditionKind.subqueries : ConditionKind σ → List σ
  | .inQuery _ s | .nonempty s | .group s | .queryCompare s _ _ | .columnQuery _ _ s => [s]
  | _ => []

/-- The subqueries of a condition. -/
def Condition.subqueries (c : Condition σ) : List σ :=
  c.kind.subqueries

/-- The subquery of a source. -/
def Source.subqueries : Source σ → List σ
  | .query s => [s]
  | _ => []

/-- The subqueries of a column. -/
def Column.subqueries : Column σ → List σ
  | .query s => [s]
  | .aggregated _ _ filter => filter.toList
  | _ => []

/-- The subquery of a set operation. -/
def Combine.subqueries : Combine σ → List σ
  | .query _ _ s => [s]
  | .raw _ => []

/-- The subquery of an insert. -/
def InsertClause.subqueries : InsertClause σ → List σ
  | .query _ s => [s]
  | .row _ _ _ => []

mutual

/-- The subqueries of the content of a clause. -/
def ClauseKind.subqueries : ClauseKind σ → List σ
  | .condition c => c.subqueries
  | .source s => s.subqueries
  | .join j => j.subqueries
  | .column c => c.subqueries
  | .combine c => c.subqueries
  | .insert i => i.subqueries
  | _ => []

/-- The subqueries of a clause. -/
def Clause.subqueries : Clause σ → List σ
  | ⟨_, _, kind⟩ => kind.subqueries

/-- The subqueries of a join. -/
def Join.subqueries : Join σ → List σ
  | ⟨_, clauses, _, _⟩ => Clauses.subqueries clauses

/-- The subqueries of a list of clauses. -/
def Clauses.subqueries : List (Clause σ) → List σ
  | [] => []
  | c :: cs => c.subqueries ++ Clauses.subqueries cs

end

theorem Clauses.subqueries_eq_flatMap (cs : List (Clause σ)) :
    Clauses.subqueries cs = cs.flatMap Clause.subqueries := by
  induction cs with
  | nil => rw [Clauses.subqueries, List.flatMap_nil]
  | cons c cs ih => rw [Clauses.subqueries, List.flatMap_cons, ih]

/-- The subqueries of a layer, those of its joins among them. -/
def QueryOver.subqueries (q : QueryOver σ) : List σ :=
  Clauses.subqueries q.clauses

/-! ## Maps -/

section Map

variable (f : σ → τ)

@[simp] theorem Condition.subqueries_map (c : Condition σ) :
    (c.map f).subqueries = c.subqueries.map f := by
  obtain ⟨_, _, kind⟩ := c
  cases kind <;> rfl

@[simp] theorem Source.subqueries_map (s : Source σ) :
    (s.map f).subqueries = s.subqueries.map f := by
  cases s <;> rfl

@[simp] theorem Column.subqueries_map (c : Column σ) :
    (c.map f).subqueries = c.subqueries.map f := by
  cases c with
  | aggregated function column filter => cases filter <;> rfl
  | _ => rfl

@[simp] theorem Combine.subqueries_map (c : Combine σ) :
    (c.map f).subqueries = c.subqueries.map f := by
  cases c <;> rfl

@[simp] theorem InsertClause.subqueries_map (i : InsertClause σ) :
    (i.map f).subqueries = i.subqueries.map f := by
  cases i <;> rfl

mutual

theorem ClauseKind.subqueries_map : ∀ k : ClauseKind σ,
    (k.map f).subqueries = k.subqueries.map f
  | .condition c => by
    simp only [ClauseKind.map, ClauseKind.subqueries, Condition.subqueries_map]
  | .source s => by simp only [ClauseKind.map, ClauseKind.subqueries, Source.subqueries_map]
  | .join j => by simp only [ClauseKind.map, ClauseKind.subqueries, Join.subqueries_map j]
  | .column c => by simp only [ClauseKind.map, ClauseKind.subqueries, Column.subqueries_map]
  | .combine c => by simp only [ClauseKind.map, ClauseKind.subqueries, Combine.subqueries_map]
  | .insert i => by simp only [ClauseKind.map, ClauseKind.subqueries, InsertClause.subqueries_map]
  | .order _ | .limit _ | .offset _ | .aggregate _ | .update _ | .lock _ | .tableColumn _
  | .tableKind _ | .tableExtension _ => by
    simp only [ClauseKind.map, ClauseKind.subqueries, List.map_nil]

theorem Clause.subqueries_map : ∀ c : Clause σ, (c.map f).subqueries = c.subqueries.map f
  | ⟨_, _, k⟩ => by simp only [Clause.map, Clause.subqueries, ClauseKind.subqueries_map k]

theorem Join.subqueries_map : ∀ j : Join σ, (j.map f).subqueries = j.subqueries.map f
  | ⟨_, cs, _, _⟩ => by simp only [Join.map, Join.subqueries, Clauses.subqueries_map cs]

theorem Clauses.subqueries_map : ∀ cs : List (Clause σ),
    Clauses.subqueries (Clauses.map f cs) = (Clauses.subqueries cs).map f
  | [] => by simp only [Clauses.map, Clauses.subqueries, List.map_nil]
  | c :: cs => by
    simp only [Clauses.map, Clauses.subqueries, List.map_append, Clause.subqueries_map c,
      Clauses.subqueries_map cs]

end

/-- The subqueries of a layer are replaced one by one. -/
theorem QueryOver.subqueries_map (q : QueryOver σ) :
    (q.map f).subqueries = q.subqueries.map f :=
  Clauses.subqueries_map f q.clauses

end Map

/-! ## Layers over a subtype -/

section Attach

variable {P : σ → Prop}

theorem Condition.exists_attach (c : Condition σ) (h : ∀ s ∈ c.subqueries, P s) :
    ∃ c' : Condition { s // P s }, c'.map Subtype.val = c := by
  obtain ⟨isOr, isNot, kind⟩ := c
  suffices hkind : ∃ kind' : ConditionKind { s // P s }, kind'.map Subtype.val = kind by
    obtain ⟨kind', rfl⟩ := hkind
    exact ⟨⟨isOr, isNot, kind'⟩, rfl⟩
  cases kind with
  | compare c o v => exact ⟨.compare c o v, rfl⟩
  | pattern c m v s e => exact ⟨.pattern c m v s e, rfl⟩
  | datePart p c o v => exact ⟨.datePart p c o v, rfl⟩
  | columns a o b => exact ⟨.columns a o b, rfl⟩
  | null c => exact ⟨.null c, rfl⟩
  | boolean c b => exact ⟨.boolean c b, rfl⟩
  | between c l u => exact ⟨.between c l u, rfl⟩
  | inList c vs => exact ⟨.inList c vs, rfl⟩
  | inQuery c s => exact ⟨.inQuery c ⟨s, h s List.mem_cons_self⟩, rfl⟩
  | nonempty s => exact ⟨.nonempty ⟨s, h s List.mem_cons_self⟩, rfl⟩
  | group s => exact ⟨.group ⟨s, h s List.mem_cons_self⟩, rfl⟩
  | raw r => exact ⟨.raw r, rfl⟩
  | queryCompare s o v => exact ⟨.queryCompare ⟨s, h s List.mem_cons_self⟩ o v, rfl⟩
  | columnQuery c o s => exact ⟨.columnQuery c o ⟨s, h s List.mem_cons_self⟩, rfl⟩

theorem Source.exists_attach (x : Source σ) (h : ∀ s ∈ x.subqueries, P s) :
    ∃ x' : Source { s // P s }, x'.map Subtype.val = x := by
  cases x with
  | table name => exact ⟨.table name, rfl⟩
  | query s => exact ⟨.query ⟨s, h s List.mem_cons_self⟩, rfl⟩
  | raw a r => exact ⟨.raw a r, rfl⟩
  | rows a cs vs => exact ⟨.rows a cs vs, rfl⟩

theorem Column.exists_attach (c : Column σ) (h : ∀ s ∈ c.subqueries, P s) :
    ∃ c' : Column { s // P s }, c'.map Subtype.val = c := by
  cases c with
  | named name => exact ⟨.named name, rfl⟩
  | query s => exact ⟨.query ⟨s, h s List.mem_cons_self⟩, rfl⟩
  | aggregated function column filter =>
    cases filter with
    | none => exact ⟨.aggregated function column none, rfl⟩
    | some s => exact ⟨.aggregated function column (some ⟨s, h s List.mem_cons_self⟩), rfl⟩
  | raw r => exact ⟨.raw r, rfl⟩

theorem Combine.exists_attach (c : Combine σ) (h : ∀ s ∈ c.subqueries, P s) :
    ∃ c' : Combine { s // P s }, c'.map Subtype.val = c := by
  cases c with
  | query operation all s => exact ⟨.query operation all ⟨s, h s List.mem_cons_self⟩, rfl⟩
  | raw r => exact ⟨.raw r, rfl⟩

theorem InsertClause.exists_attach (i : InsertClause σ) (h : ∀ s ∈ i.subqueries, P s) :
    ∃ i' : InsertClause { s // P s }, i'.map Subtype.val = i := by
  cases i with
  | row cs vs r => exact ⟨.row cs vs r, rfl⟩
  | query cs s => exact ⟨.query cs ⟨s, h s List.mem_cons_self⟩, rfl⟩

mutual

theorem ClauseKind.exists_attach : ∀ k : ClauseKind σ, (∀ s ∈ k.subqueries, P s) →
    ∃ k' : ClauseKind { s // P s }, k'.map Subtype.val = k
  | .condition c, h => by
    obtain ⟨c', rfl⟩ := c.exists_attach (P := P) (by rwa [ClauseKind.subqueries] at h)
    exact ⟨.condition c', by rw [ClauseKind.map]⟩
  | .source x, h => by
    obtain ⟨x', rfl⟩ := x.exists_attach (P := P) (by rwa [ClauseKind.subqueries] at h)
    exact ⟨.source x', by rw [ClauseKind.map]⟩
  | .join j, h => by
    obtain ⟨j', rfl⟩ := Join.exists_attach j (by rwa [ClauseKind.subqueries] at h)
    exact ⟨.join j', by rw [ClauseKind.map]⟩
  | .column c, h => by
    obtain ⟨c', rfl⟩ := c.exists_attach (P := P) (by rwa [ClauseKind.subqueries] at h)
    exact ⟨.column c', by rw [ClauseKind.map]⟩
  | .combine c, h => by
    obtain ⟨c', rfl⟩ := c.exists_attach (P := P) (by rwa [ClauseKind.subqueries] at h)
    exact ⟨.combine c', by rw [ClauseKind.map]⟩
  | .insert i, h => by
    obtain ⟨i', rfl⟩ := i.exists_attach (P := P) (by rwa [ClauseKind.subqueries] at h)
    exact ⟨.insert i', by rw [ClauseKind.map]⟩
  | .order o, _ => ⟨.order o, by rw [ClauseKind.map]⟩
  | .limit n, _ => ⟨.limit n, by rw [ClauseKind.map]⟩
  | .offset n, _ => ⟨.offset n, by rw [ClauseKind.map]⟩
  | .aggregate a, _ => ⟨.aggregate a, by rw [ClauseKind.map]⟩
  | .update u, _ => ⟨.update u, by rw [ClauseKind.map]⟩
  | .lock m, _ => ⟨.lock m, by rw [ClauseKind.map]⟩
  | .tableColumn c, _ => ⟨.tableColumn c, by rw [ClauseKind.map]⟩
  | .tableKind k, _ => ⟨.tableKind k, by rw [ClauseKind.map]⟩
  | .tableExtension e, _ => ⟨.tableExtension e, by rw [ClauseKind.map]⟩

theorem Clause.exists_attach : ∀ c : Clause σ, (∀ s ∈ c.subqueries, P s) →
    ∃ c' : Clause { s // P s }, c'.map Subtype.val = c
  | ⟨component, engine, k⟩, h => by
    obtain ⟨k', rfl⟩ := ClauseKind.exists_attach k (by rwa [Clause.subqueries] at h)
    exact ⟨⟨component, engine, k'⟩, by rw [Clause.map]⟩

theorem Join.exists_attach : ∀ j : Join σ, (∀ s ∈ j.subqueries, P s) →
    ∃ j' : Join { s // P s }, j'.map Subtype.val = j
  | ⟨kind, clauses, index, state⟩, h => by
    obtain ⟨clauses', rfl⟩ := Clauses.exists_attach clauses (by rwa [Join.subqueries] at h)
    exact ⟨⟨kind, clauses', index, state⟩, by rw [Join.map]⟩

theorem Clauses.exists_attach : ∀ cs : List (Clause σ), (∀ s ∈ Clauses.subqueries cs, P s) →
    ∃ cs' : List (Clause { s // P s }), Clauses.map Subtype.val cs' = cs
  | [], _ => ⟨[], by rw [Clauses.map]⟩
  | c :: cs, h => by
    rw [Clauses.subqueries] at h
    obtain ⟨c', rfl⟩ := Clause.exists_attach c fun s hs => h s (List.mem_append_left _ hs)
    obtain ⟨cs', rfl⟩ := Clauses.exists_attach cs fun s hs => h s (List.mem_append_right _ hs)
    exact ⟨c' :: cs', by rw [Clauses.map]⟩

end

/-- A property of all subqueries of a layer can be made part of their type. -/
theorem QueryOver.exists_attach (q : QueryOver σ) (h : ∀ s ∈ q.subqueries, P s) :
    ∃ q' : QueryOver { s // P s }, q'.map Subtype.val = q := by
  obtain ⟨clauses, method, distinct, aliasName, definitions, parent, engineScope, pending, error⟩ :=
    q
  obtain ⟨clauses', rfl⟩ := Clauses.exists_attach clauses h
  exact ⟨⟨clauses', method, distinct, aliasName, definitions, parent, engineScope, pending, error⟩,
    rfl⟩

end Attach

/-- A property of all subqueries of a layer can be made part of their type in what the layer says to
a dialect. -/
theorem Sections.exists_attach {P : σ → Prop} (d : Dialect) (q : QueryOver σ)
    (h : ∀ s ∈ q.subqueries, P s) :
    ∃ S : Sections { s // P s }, S.scope = q.scope ∧
      ∀ {τ : Type} (f : σ → τ), of d (q.map f) = S.map (f ∘ Subtype.val) := by
  obtain ⟨q', rfl⟩ := q.exists_attach h
  refine ⟨of d q', rfl, fun f => ?_⟩
  rw [QueryOver.map_map, of_map]

/-! ## Induction -/

mutual

theorem ClauseKind.map_id : ∀ k : ClauseKind σ, k.map id = k
  | .condition ⟨_, _, kind⟩ => by
    cases kind <;> simp only [ClauseKind.map, Condition.map, ConditionKind.map, id]
  | .source x => by cases x <;> simp only [ClauseKind.map, Source.map, id]
  | .join j => by rw [ClauseKind.map, Join.map_id j]
  | .column c => by cases c <;> simp only [ClauseKind.map, Column.map, Option.map_id, id]
  | .combine c => by cases c <;> simp only [ClauseKind.map, Combine.map, id]
  | .insert i => by cases i <;> simp only [ClauseKind.map, InsertClause.map, id]
  | .order _ | .limit _ | .offset _ | .aggregate _ | .update _ | .lock _ | .tableColumn _
  | .tableKind _ | .tableExtension _ => by rw [ClauseKind.map]

theorem Clause.map_id : ∀ c : Clause σ, c.map id = c
  | ⟨_, _, k⟩ => by rw [Clause.map, ClauseKind.map_id k]

theorem Join.map_id : ∀ j : Join σ, j.map id = j
  | ⟨_, cs, _, _⟩ => by rw [Join.map, Clauses.map_id cs]

theorem Clauses.map_id : ∀ cs : List (Clause σ), Clauses.map id cs = cs
  | [] => by rw [Clauses.map]
  | c :: cs => by rw [Clauses.map, Clause.map_id c, Clauses.map_id cs]

end

@[simp] theorem QueryOver.map_id (q : QueryOver σ) : q.map id = q := by
  simp only [QueryOver.map, Clauses.map_id]

namespace Subquery

/-- Putting the layers together again gives the query. -/
theorem fold_subquery_mk (s : Subquery) : fold Subquery.mk s = s :=
  (eq_fold (F := id) (fun q => by rw [QueryOver.map_id, id]) s).symm

/-- A property that a query has as soon as its subqueries have it holds of every query. -/
theorem induction {P : Subquery → Prop}
    (layer : ∀ q : Query, (∀ s ∈ q.subqueries, P s) → P ⟨q⟩) (s : Subquery) : P s := by
  -- A fold puts the query together again, and the proof with it.
  let alg (q : QueryOver { s // P s }) : { s // P s } :=
    ⟨⟨q.map Subtype.val⟩, layer _ fun s hs => by
      rw [QueryOver.subqueries_map] at hs
      obtain ⟨s', -, rfl⟩ := List.mem_map.mp hs
      exact s'.2⟩
  have hsame : (fold alg s).1 = s := by
    have hfold : (Subtype.val ∘ fold alg) s = fold Subquery.mk s :=
      eq_fold (fun q => by rw [Function.comp_apply, fold_mk, ← QueryOver.map_map]) s
    exact hfold.trans (fold_subquery_mk s)
  rw [← hsame]
  exact (fold alg s).2

end Subquery

end SqlBuilder
