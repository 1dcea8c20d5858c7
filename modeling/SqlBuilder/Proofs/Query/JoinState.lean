import SqlBuilder.Proofs.Query.Sections
import SqlBuilder.Proofs.Query.Subqueries

/-!
# The states of joins

A join that has been added to a query keeps the state of its construction (`JoinState`), and so do
the joins among its own clauses.  `Clauses.joinStates` lists these states, and `Clauses.mapState`
changes each of them and nothing else.

No dialect is told of the states (`Sections.of_mapState`).
-/

namespace SqlBuilder

variable {σ τ : Type}

mutual

/-- The states of the joins in the content of a clause. -/
def ClauseKind.joinStates : ClauseKind σ → List JoinState
  | .join j => j.joinStates
  | _ => []

/-- The states of the joins in a clause. -/
def Clause.joinStates : Clause σ → List JoinState
  | ⟨_, _, kind⟩ => kind.joinStates

/-- The state of the join, and those of the joins in it. -/
def Join.joinStates : Join σ → List JoinState
  | ⟨_, clauses, _, state⟩ => state :: Clauses.joinStates clauses

/-- The states of the joins in a list of clauses. -/
def Clauses.joinStates : List (Clause σ) → List JoinState
  | [] => []
  | c :: cs => c.joinStates ++ Clauses.joinStates cs

end

mutual

/-- Changes the states of the joins in the content of a clause. -/
def ClauseKind.mapState (g : JoinState → JoinState) : ClauseKind σ → ClauseKind σ
  | .join j => .join (j.mapState g)
  | k => k

/-- Changes the states of the joins in a clause. -/
def Clause.mapState (g : JoinState → JoinState) : Clause σ → Clause σ
  | ⟨component, engine, kind⟩ => ⟨component, engine, kind.mapState g⟩

/-- Changes the state of the join, and those of the joins in it. -/
def Join.mapState (g : JoinState → JoinState) : Join σ → Join σ
  | ⟨kind, clauses, index, state⟩ => ⟨kind, Clauses.mapState g clauses, index, g state⟩

/-- Changes the states of the joins in a list of clauses. -/
def Clauses.mapState (g : JoinState → JoinState) : List (Clause σ) → List (Clause σ)
  | [] => []
  | c :: cs => c.mapState g :: Clauses.mapState g cs

end

/-! ## What becomes of the states -/

section States

variable (g : JoinState → JoinState)

mutual

theorem ClauseKind.joinStates_mapState : ∀ k : ClauseKind σ,
    (k.mapState g).joinStates = k.joinStates.map g
  | .join j => by
    simp only [ClauseKind.mapState, ClauseKind.joinStates, Join.joinStates_mapState j]
  | .condition _ | .source _ | .column _ | .order _ | .limit _ | .offset _ | .aggregate _
  | .combine _ | .insert _ | .update _ | .lock _ | .tableColumn _ | .tableKind _
  | .tableExtension _ => by simp [ClauseKind.mapState, ClauseKind.joinStates]

theorem Clause.joinStates_mapState : ∀ c : Clause σ,
    (c.mapState g).joinStates = c.joinStates.map g
  | ⟨_, _, k⟩ => by
    simp only [Clause.mapState, Clause.joinStates, ClauseKind.joinStates_mapState k]

theorem Join.joinStates_mapState : ∀ j : Join σ,
    (j.mapState g).joinStates = j.joinStates.map g
  | ⟨_, cs, _, _⟩ => by
    simp only [Join.mapState, Join.joinStates, Clauses.joinStates_mapState cs, List.map_cons]

/-- Each of the states is changed. -/
theorem Clauses.joinStates_mapState : ∀ cs : List (Clause σ),
    Clauses.joinStates (Clauses.mapState g cs) = (Clauses.joinStates cs).map g
  | [] => by simp only [Clauses.mapState, Clauses.joinStates, List.map_nil]
  | c :: cs => by
    simp only [Clauses.mapState, Clauses.joinStates, Clause.joinStates_mapState c,
      Clauses.joinStates_mapState cs, List.map_append]

end

mutual

theorem ClauseKind.mapState_eq_self : ∀ k : ClauseKind σ, (∀ s ∈ k.joinStates, g s = s) →
    k.mapState g = k
  | .join j, h => by
    rw [ClauseKind.joinStates] at h
    rw [ClauseKind.mapState, Join.mapState_eq_self j h]
  | .condition _, _ | .source _, _ | .column _, _ | .order _, _ | .limit _, _ | .offset _, _
  | .aggregate _, _ | .combine _, _ | .insert _, _ | .update _, _ | .lock _, _
  | .tableColumn _, _ | .tableKind _, _ | .tableExtension _, _ => by simp [ClauseKind.mapState]

theorem Clause.mapState_eq_self : ∀ c : Clause σ, (∀ s ∈ c.joinStates, g s = s) →
    c.mapState g = c
  | ⟨_, _, k⟩, h => by
    rw [Clause.joinStates] at h
    rw [Clause.mapState, ClauseKind.mapState_eq_self k h]

theorem Join.mapState_eq_self : ∀ j : Join σ, (∀ s ∈ j.joinStates, g s = s) → j.mapState g = j
  | ⟨_, cs, _, state⟩, h => by
    rw [Join.joinStates, List.forall_mem_cons] at h
    rw [Join.mapState, Clauses.mapState_eq_self cs h.2, h.1]

/-- Nothing else is changed. -/
theorem Clauses.mapState_eq_self : ∀ cs : List (Clause σ),
    (∀ s ∈ Clauses.joinStates cs, g s = s) → Clauses.mapState g cs = cs
  | [], _ => by rw [Clauses.mapState]
  | c :: cs, h => by
    rw [Clauses.joinStates, List.forall_mem_append] at h
    rw [Clauses.mapState, Clause.mapState_eq_self c h.1, Clauses.mapState_eq_self cs h.2]

end

/-! ## What is left as it is -/

mutual

theorem ClauseKind.subqueries_mapState : ∀ k : ClauseKind σ,
    (k.mapState g).subqueries = k.subqueries
  | .join j => by
    simp only [ClauseKind.mapState, ClauseKind.subqueries, Join.subqueries_mapState j]
  | .condition _ | .source _ | .column _ | .order _ | .limit _ | .offset _ | .aggregate _
  | .combine _ | .insert _ | .update _ | .lock _ | .tableColumn _ | .tableKind _
  | .tableExtension _ => by simp only [ClauseKind.mapState]

theorem Clause.subqueries_mapState : ∀ c : Clause σ, (c.mapState g).subqueries = c.subqueries
  | ⟨_, _, k⟩ => by
    simp only [Clause.mapState, Clause.subqueries, ClauseKind.subqueries_mapState k]

theorem Join.subqueries_mapState : ∀ j : Join σ, (j.mapState g).subqueries = j.subqueries
  | ⟨_, cs, _, _⟩ => by
    simp only [Join.mapState, Join.subqueries, Clauses.subqueries_mapState cs]

theorem Clauses.subqueries_mapState : ∀ cs : List (Clause σ),
    Clauses.subqueries (Clauses.mapState g cs) = Clauses.subqueries cs
  | [] => by simp only [Clauses.mapState]
  | c :: cs => by
    simp only [Clauses.mapState, Clauses.subqueries, Clause.subqueries_mapState c,
      Clauses.subqueries_mapState cs]

end

/-! ## What a dialect is told -/

namespace Clause

@[simp] theorem component_mapState (c : Clause σ) : (c.mapState g).component = c.component := by
  cases c; rfl

@[simp] theorem engine_mapState (c : Clause σ) : (c.mapState g).engine = c.engine := by
  cases c; rfl

@[simp] theorem kind_mapState (c : Clause σ) : (c.mapState g).kind = c.kind.mapState g := by
  cases c; rfl

end Clause

theorem ClauseKind.IgnoresJoins.mapState {α : Type} {content : ClauseKind σ → α}
    (h : IgnoresJoins content) (k : ClauseKind σ) : content (k.mapState g) = content k := by
  cases k with
  | join j => exact h _ _
  | _ => rfl

theorem ClauseKind.join?_mapState (k : ClauseKind σ) :
    (k.mapState g).join? = k.join?.map (Join.mapState g) := by
  cases k <;> rfl

namespace Clauses

theorem mapState_eq (cs : List (Clause σ)) : mapState g cs = cs.map (Clause.mapState g) := by
  induction cs with
  | nil => rfl
  | cons c cs ih => rw [mapState, ih, List.map_cons]

theorem ofComponent_mapState (component : Component) (engine : Option Dialect)
    (cs : List (Clause σ)) :
    ofComponent component engine (mapState g cs) =
      (ofComponent component engine cs).map (Clause.mapState g) := by
  simp [ofComponent, mapState_eq, List.filter_map, Function.comp_def, Clause.applies]

/-- The states of the joins apart, the clauses say the same. -/
theorem agree_mapState (d : Dialect) (cs : List (Clause σ)) : Agree d (mapState g cs) cs where
  contents component _ _ content hcontent := by
    rw [ofComponent_mapState, List.map_map]
    simp only [Function.comp_def, Clause.kind_mapState, hcontent.mapState]
  chosen component _ content hcontent := by
    rw [pick?, ofComponent_mapState, pick?, List.find?_map, List.find?_map]
    simp only [Function.comp_def, Clause.engine_mapState]
    cases (ofComponent component (some d) cs).find? (fun c => c.engine == some d) <;>
      simp [Function.comp_def, hcontent.mapState]

end Clauses

/-- A join says the same to a dialect, whatever its state is. -/
theorem JoinSections.of_mapState (d : Dialect) (j : Join σ) :
    JoinSections.of d (j.mapState g) = JoinSections.of d j := by
  obtain ⟨kind, clauses, index, state⟩ := j
  rw [Join.mapState]
  exact JoinSections.of_congr (Clauses.agree_mapState g d clauses) kind index _ _

theorem Clauses.joinSections_mapState (d : Dialect) (cs : List (Clause σ)) :
    joinSections d (mapState g cs) = joinSections d cs := by
  rw [joinSections, ofComponent_mapState, List.filterMap_map, List.map_filterMap, joinSections,
    List.map_filterMap]
  congr 1
  funext c
  rw [Function.comp_apply, Clause.kind_mapState, ClauseKind.join?_mapState, Option.map_map]
  congr 1
  funext j
  exact JoinSections.of_mapState g d j

/-- A query says the same to a dialect, whatever the states of its joins are. -/
theorem Sections.of_mapState (d : Dialect) (q : QueryOver σ) :
    Sections.of d { q with clauses := Clauses.mapState g q.clauses } = Sections.of d q :=
  Sections.of_congr (Clauses.agree_mapState g d q.clauses)
    (Clauses.joinSections_mapState g d q.clauses)

end States

end SqlBuilder
