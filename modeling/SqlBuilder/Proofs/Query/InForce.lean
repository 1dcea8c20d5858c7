import SqlBuilder.Compiler
import SqlBuilder.Proofs.Query.Sections

/-!
# The clauses in force

A query may hold clauses of several dialects side by side.  `Query.inForce d` deletes, at every
depth, what the dialect `d` does not see: the clauses of other dialects, and of a component that is
filled once every clause but the one that `Clauses.pick?` would choose.

Nothing of what is deleted shows in a statement (`compile_inForce`): a query compiles to the same
result as the query with only the clauses in force.  So a clause of another dialect never leaks into
a statement, and a clause for the dialect itself replaces the one for every dialect.

## The argument

The rendering sees a layer of a query only through its sections (`Sections.of`), and these read the
clauses in two ways, component by component: all that apply, or the one that is chosen.  Both are
kept (`Clauses.ofComponent_inForce`, `Clauses.pick?_inForce`), so one layer has the same sections
before and after (`Sections.of_layerInForce`).  The step to every depth is the uniqueness of folds:
rendering after deleting goes layer by layer the way rendering does.
-/

namespace SqlBuilder

variable {σ : Type}

/-! ## Deleting clauses -/

/-- Deletes the elements that fulfil `p`, except for the first one. -/
def keepFirst {α : Type} (p : α → Bool) : List α → List α
  | [] => []
  | a :: as => if p a then a :: as.filter (!p ·) else a :: keepFirst p as

namespace Clauses

/-- Of a component, keeps the first clause of the dialect, or the first one for every dialect when
none is of the dialect. -/
def settle (d : Dialect) (component : Component) (cs : List (Clause σ)) : List (Clause σ) :=
  if cs.any (·.isFiled component (some d)) then
    keepFirst (·.isFiled component (some d)) (remove component none cs)
  else
    keepFirst (·.isFiled component none) cs

/-- The clauses in force: those that apply to the dialect, and of the components that are filled
once only the one that counts. -/
def inForce (d : Dialect) (cs : List (Clause σ)) : List (Clause σ) :=
  Component.single.foldl (fun cs component => settle d component cs)
    (cs.filter (·.applies (some d)))

end Clauses

mutual

/-- The content of a clause with only the clauses in force inside it. -/
def ClauseKind.inForce (d : Dialect) : ClauseKind σ → ClauseKind σ
  | .join j => .join (j.inForce d)
  | k => k

/-- A clause with only the clauses in force inside it. -/
def Clause.inForce (d : Dialect) : Clause σ → Clause σ
  | ⟨component, engine, kind⟩ => ⟨component, engine, kind.inForce d⟩

/-- A join with only the clauses in force. -/
def Join.inForce (d : Dialect) : Join σ → Join σ
  | ⟨kind, clauses, index, state⟩ =>
    ⟨kind, Clauses.inForce d (Clauses.inForceInside d clauses), index, state⟩

/-- Clauses with only the clauses in force inside each of them. -/
def Clauses.inForceInside (d : Dialect) : List (Clause σ) → List (Clause σ)
  | [] => []
  | c :: cs => c.inForce d :: Clauses.inForceInside d cs

end

/-- One layer of a query with only the clauses in force. -/
def QueryOver.layerInForce (d : Dialect) (q : QueryOver σ) : QueryOver σ :=
  { q with clauses := Clauses.inForce d (Clauses.inForceInside d q.clauses) }

/-- A subquery with only the clauses in force, at every depth. -/
def Subquery.inForce (d : Dialect) : Subquery → Subquery :=
  Subquery.fold fun layer => ⟨layer.layerInForce d⟩

/-- A query with only the clauses in force, at every depth. -/
def Query.inForce (d : Dialect) (q : Query) : Query :=
  (q.map (Subquery.inForce d)).layerInForce d

theorem Subquery.inForce_mk (d : Dialect) (q : Query) :
    Subquery.inForce d ⟨q⟩ = ⟨q.inForce d⟩ := by
  rw [Subquery.inForce, Subquery.fold_mk]
  rfl

/-! ## What is kept of a list -/

section Lists

variable {α : Type} {p : α → Bool}

/-- What does not fulfil `p` stays. -/
theorem filter_keepFirst_of_disjoint {q : α → Bool} (h : ∀ a, q a = true → p a = false)
    (as : List α) : (keepFirst p as).filter q = as.filter q := by
  induction as with
  | nil => rfl
  | cons a as ih =>
    by_cases ha : p a = true
    · have hfilter : (as.filter (!p ·)).filter q = as.filter q := by
        rw [List.filter_filter]
        refine List.filter_congr fun b _ => ?_
        by_cases hb : q b = true
        · simp [hb, h b hb]
        · simp [hb]
      rw [keepFirst, if_pos ha, List.filter_cons, hfilter, List.filter_cons]
    · rw [keepFirst, if_neg ha, List.filter_cons, ih, List.filter_cons]

/-- Of what fulfils `p` the first element stays. -/
theorem filter_keepFirst (as : List α) : (keepFirst p as).filter p = (as.find? p).toList := by
  induction as with
  | nil => rfl
  | cons a as ih =>
    by_cases ha : p a = true
    · simp [keepFirst, ha, List.filter_filter]
    · simp [keepFirst, ha, ih]

theorem find?_keepFirst (as : List α) : (keepFirst p as).find? p = as.find? p := by
  rw [← List.head?_filter, filter_keepFirst]
  cases as.find? p <;> rfl

end Lists

theorem Clause.isFiled_iff {component : Component} {engine : Option Dialect} {c : Clause σ} :
    c.isFiled component engine = true ↔ c.component = component ∧ c.engine = engine := by
  simp [Clause.isFiled]

namespace Clauses

variable {d : Dialect} {component : Component} {cs : List (Clause σ)}

/-! ### Choosing a clause -/

/-- The clause that is chosen, found in the whole list. -/
theorem pick?_eq (d : Dialect) (component : Component) (cs : List (Clause σ)) :
    pick? component (some d) cs =
      (cs.find? (·.isFiled component (some d)) <|> cs.find? (·.isFiled component none)) := by
  have hfind : ∀ engine, engine = none ∨ engine = some d →
      (ofComponent component (some d) cs).find? (·.engine == engine) =
        cs.find? (·.isFiled component engine) := by
    intro engine hengine
    rw [ofComponent, List.find?_filter]
    congr 1
    funext c
    rw [Bool.eq_iff_iff, Clause.isFiled_iff]
    simp only [Clause.applies, Bool.and_eq_true, Bool.or_eq_true, beq_iff_eq, decide_eq_true_eq]
    constructor
    · rintro ⟨⟨hcomponent, -⟩, hc⟩
      exact ⟨hcomponent, hc⟩
    · rintro ⟨hcomponent, rfl⟩
      exact ⟨⟨hcomponent, hengine.imp .inr id⟩, rfl⟩
  rw [pick?, hfind _ (.inr rfl), hfind _ (.inl rfl)]

/-! ### Settling one component -/

/-- Settling a component leaves the clauses of the others. -/
theorem ofComponent_settle_of_ne {other : Component} (h : other ≠ component)
    (engine : Option Dialect) :
    ofComponent other engine (settle d component cs) = ofComponent other engine cs := by
  have hdisjoint : ∀ (e : Option Dialect) (c : Clause σ),
      (c.component == other && c.applies engine) = true → c.isFiled component e = false := by
    intro e c hc
    rw [Bool.and_eq_true, beq_iff_eq] at hc
    simp [Clause.isFiled, hc.1, h]
  rw [settle]
  split
  · rw [ofComponent, filter_keepFirst_of_disjoint (hdisjoint _), remove, List.filter_filter]
    refine List.filter_congr fun c _ => ?_
    cases hc : c.component == other && c.applies engine
    · rfl
    · rw [hdisjoint none c hc]
      rfl
  · rw [ofComponent, filter_keepFirst_of_disjoint (hdisjoint _), ofComponent]

/-- Settling a component keeps the clause that is chosen. -/
theorem pick?_settle : pick? component (some d) (settle d component cs) =
    pick? component (some d) cs := by
  have hdisjoint : ∀ c : Clause σ,
      c.isFiled component (some d) = true → c.isFiled component none = false := by
    intro c hc
    rw [Clause.isFiled_iff] at hc
    simp [Clause.isFiled, hc.2]
  rw [pick?_eq, pick?_eq, settle]
  split
  case isTrue hany =>
    have hremove : (remove component none cs).find? (·.isFiled component (some d)) =
        cs.find? (·.isFiled component (some d)) := by
      rw [remove, List.find?_filter]
      congr 1
      funext c
      cases hc : c.isFiled component (some d)
      · simp
      · simp [hdisjoint c hc]
    obtain ⟨c, hfound⟩ : ∃ c, cs.find? (·.isFiled component (some d)) = some c := by
      rw [← Option.isSome_iff_exists, List.find?_isSome]
      simpa using hany
    rw [find?_keepFirst, hremove, hfound]
    rfl
  case isFalse hany =>
    have hnone : (keepFirst (·.isFiled component none) cs).find? (·.isFiled component (some d)) =
        cs.find? (·.isFiled component (some d)) := by
      rw [← List.head?_filter, filter_keepFirst_of_disjoint hdisjoint, List.head?_filter]
    rw [hnone, find?_keepFirst]

/-! ### All components -/

/-- What is chosen depends on the clauses of the component only. -/
theorem pick?_congr {engine : Option Dialect} {cs' : List (Clause σ)}
    (h : ofComponent component engine cs = ofComponent component engine cs') :
    pick? component engine cs = pick? component engine cs' := by
  rw [pick?, pick?, h]

/-- Deleting what is not in force leaves the clauses of a component that may be filled several
times. -/
theorem ofComponent_inForce (hsingle : component ∉ Component.single) :
    ofComponent component (some d) (inForce d cs) = ofComponent component (some d) cs := by
  have hfold : ∀ (components : List Component) (cs : List (Clause σ)), component ∉ components →
      ofComponent component (some d) (components.foldl (fun cs c => settle d c cs) cs) =
        ofComponent component (some d) cs := by
    intro components
    induction components with
    | nil => exact fun cs _ => rfl
    | cons c components ih =>
      intro cs hc
      rw [List.mem_cons, not_or] at hc
      rw [List.foldl_cons, ih _ hc.2, ofComponent_settle_of_ne hc.1]
  rw [inForce, hfold _ _ hsingle, ofComponent, List.filter_filter, ofComponent]
  refine List.filter_congr fun c _ => ?_
  cases c.applies (some d) <;> simp

/-- Deleting what is not in force keeps the clauses that are chosen. -/
theorem pick?_inForce (component : Component) :
    pick? component (some d) (inForce d cs) = pick? component (some d) cs := by
  have hfold : ∀ (components : List Component) (cs : List (Clause σ)),
      pick? component (some d) (components.foldl (fun cs c => settle d c cs) cs) =
        pick? component (some d) cs := by
    intro components
    induction components with
    | nil => exact fun cs => rfl
    | cons c components ih =>
      intro cs
      rw [List.foldl_cons, ih]
      by_cases hc : component = c
      · rw [hc, pick?_settle]
      · exact pick?_congr (ofComponent_settle_of_ne hc _)
  have happlies : ofComponent component (some d) (cs.filter (·.applies (some d))) =
      ofComponent component (some d) cs := by
    rw [ofComponent, List.filter_filter, ofComponent]
    refine List.filter_congr fun c _ => ?_
    cases c.applies (some d) <;> simp
  rw [inForce, hfold, pick?_congr happlies]

end Clauses

/-! ## Inside of clauses -/

variable {d : Dialect}

/-- Nothing but a join has clauses inside it. -/
theorem ClauseKind.IgnoresJoins.inForce {α : Type} {content : ClauseKind σ → α}
    (h : IgnoresJoins content) (k : ClauseKind σ) : content (k.inForce d) = content k := by
  cases k with
  | join j => simpa only [ClauseKind.inForce] using h (j.inForce d) j
  | _ => simp only [ClauseKind.inForce]

theorem ClauseKind.join?_inForce (k : ClauseKind σ) :
    (k.inForce d).join? = k.join?.map (Join.inForce d) := by
  cases k <;> simp only [ClauseKind.inForce, ClauseKind.join?, Option.map]

@[simp] theorem Clause.component_inForce (c : Clause σ) :
    (c.inForce d).component = c.component := by
  cases c
  rw [Clause.inForce]

@[simp] theorem Clause.engine_inForce (c : Clause σ) : (c.inForce d).engine = c.engine := by
  cases c
  rw [Clause.inForce]

@[simp] theorem Clause.kind_inForce (c : Clause σ) : (c.inForce d).kind = c.kind.inForce d := by
  cases c
  rw [Clause.inForce]

namespace Clauses

variable (d : Dialect)

theorem inForceInside_eq (cs : List (Clause σ)) :
    inForceInside d cs = cs.map (Clause.inForce d) := by
  induction cs with
  | nil => rw [inForceInside, List.map_nil]
  | cons c cs ih => rw [inForceInside, ih, List.map_cons]

theorem ofComponent_inForceInside (component : Component) (engine : Option Dialect)
    (cs : List (Clause σ)) :
    ofComponent component engine (inForceInside d cs) =
      (ofComponent component engine cs).map (Clause.inForce d) := by
  simp [ofComponent, inForceInside_eq, List.filter_map, Function.comp_def, Clause.applies]

theorem pick?_inForceInside (component : Component) (engine : Option Dialect)
    (cs : List (Clause σ)) :
    pick? component engine (inForceInside d cs) =
      (pick? component engine cs).map (Clause.inForce d) := by
  simp only [pick?, ofComponent_inForceInside, List.find?_map, Function.comp_def,
    Clause.engine_inForce]
  cases (ofComponent component engine cs).find? (fun c => c.engine == engine) <;> simp

end Clauses

/-! ## Statements -/

/-- The clauses in force say to the dialect what all clauses say. -/
theorem Clauses.agree_inForce (d : Dialect) (cs : List (Clause σ)) :
    Agree d (inForce d (inForceInside d cs)) cs where
  contents component hsingle _ content hcontent := by
    rw [ofComponent_inForce hsingle, ofComponent_inForceInside, List.map_map]
    simp only [Function.comp_def, Clause.kind_inForce, hcontent.inForce]
  chosen component _ content hcontent := by
    rw [pick?_inForce, pick?_inForceInside, Option.map_map]
    simp only [Function.comp_def, Clause.kind_inForce, hcontent.inForce]

/-- A join with only the clauses in force says the same to the dialect. -/
theorem JoinSections.of_inForce (d : Dialect) (j : Join σ) :
    JoinSections.of d (j.inForce d) = JoinSections.of d j := by
  obtain ⟨kind, clauses, index, state⟩ := j
  rw [Join.inForce]
  exact JoinSections.of_congr (Clauses.agree_inForce d clauses) kind index state state

theorem Clauses.joinSections_inForce (d : Dialect) (cs : List (Clause σ)) :
    joinSections d (inForce d (inForceInside d cs)) = joinSections d cs := by
  rw [joinSections, ofComponent_inForce (by decide), ofComponent_inForceInside,
    List.filterMap_map, List.map_filterMap, joinSections, List.map_filterMap]
  congr 1
  funext c
  rw [Function.comp_apply, Clause.kind_inForce, ClauseKind.join?_inForce, Option.map_map]
  congr 1
  funext j
  exact JoinSections.of_inForce d j

/-- A layer with only the clauses in force says the same to the dialect. -/
theorem Sections.of_layerInForce (d : Dialect) (q : QueryOver σ) :
    Sections.of d (q.layerInForce d) = Sections.of d q :=
  Sections.of_congr (Clauses.agree_inForce d q.clauses) (Clauses.joinSections_inForce d q.clauses)

/-- A query with only the clauses in force, rendered inside, is the query rendered inside. -/
theorem Sections.of_map_inForce {α : Type} (d : Dialect) (f : Subquery → α) (q : Query) :
    Sections.of d ((q.inForce d).map f) = Sections.of d (q.map (f ∘ Subquery.inForce d)) := by
  rw [Sections.of_map, Query.inForce, Sections.of_layerInForce, ← Sections.of_map,
    QueryOver.map_map]

/-- A subquery renders to the same as what of it is in force. -/
theorem Subquery.rendered_inForce (t : Target) (s : Subquery) :
    Subquery.rendered t (s.inForce t.dialect) = Subquery.rendered t s := by
  refine Subquery.eq_fold (F := Subquery.rendered t ∘ Subquery.inForce t.dialect) (fun q => ?_) s
  rw [Function.comp_apply, Subquery.inForce_mk, Subquery.rendered_mk, Query.sections,
    Sections.of_map_inForce]

/-- A query says the same as what of it is in force. -/
theorem Query.sections_inForce (t : Target) (q : Query) :
    (q.inForce t.dialect).sections t = q.sections t := by
  have hrendered : Subquery.rendered t ∘ Subquery.inForce t.dialect = Subquery.rendered t :=
    funext (Subquery.rendered_inForce t)
  rw [Query.sections, Sections.of_map_inForce, hrendered, Query.sections]

/-- **Engine isolation.** A query compiles to the same result, be it a statement or an error, as the
query that holds, at every depth, only the clauses in force for the dialect. -/
theorem compile_inForce (t : Target) (q : Query) :
    compile t (q.inForce t.dialect) = compile t q := by
  have herror : (q.inForce t.dialect).error = q.error := by
    simp only [Query.inForce, QueryOver.layerInForce, QueryOver.map]
  rw [compile, compile, herror, Query.sections_inForce]

end SqlBuilder
