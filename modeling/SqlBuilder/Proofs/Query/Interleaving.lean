import Mathlib.Data.List.Forall2
import SqlBuilder.Compiler
import SqlBuilder.Proofs.Query.Sections

/-!
# Interleavings of clauses

Clauses are added to a query one after another, but only the order inside of a component means
anything: the columns of a select list are written in their order, while it is all the same whether
the limit was set before or after the columns.  Two lists of clauses that differ only in how the
components are interleaved are related by `Clauses.Interleaved`, and queries that differ only in
this, at any depth, by `Query.Interleaved`.

Such queries compile to the same result (`compile_interleaved`).  A layer is seen only through its
sections, and every section reads the clauses of one component, so that the lists of a layer agree
(`Clauses.Interleaved.agree`).  The result for all depths follows by induction on the relation.
-/

namespace SqlBuilder

variable {σ : Type}

/-! ## Lists of clauses -/

/-- A clause and itself, or two joins that differ only in how the components of their own clauses
are interleaved. -/
inductive Clause.Interleaved : Clause σ → Clause σ → Prop
  | refl (c : Clause σ) : Clause.Interleaved c c
  | join {component : Component} {engine : Option Dialect} {kind : JoinKind}
      {index : Option String} {state : JoinState} {xs ys : List (Clause σ)}
      (h : ∀ c : Component, List.Forall₂ Clause.Interleaved
        (xs.filter (·.component == c)) (ys.filter (·.component == c))) :
      Clause.Interleaved ⟨component, engine, .join ⟨kind, xs, index, state⟩⟩
        ⟨component, engine, .join ⟨kind, ys, index, state⟩⟩

/-- Two lists with the same clauses of every component, in the same order: they differ only in how
the components are interleaved. -/
def Clauses.Interleaved (xs ys : List (Clause σ)) : Prop :=
  ∀ c : Component, List.Forall₂ Clause.Interleaved
    (xs.filter (·.component == c)) (ys.filter (·.component == c))

namespace Clause.Interleaved

variable {c c' : Clause σ}

theorem applies_eq (h : Clause.Interleaved c c') (engine : Option Dialect) :
    c.applies engine = c'.applies engine := by
  cases h <;> rfl

/-- The clauses have the same engine, and the same content as long as joins are not looked into. -/
theorem content_eq (h : Clause.Interleaved c c') {α : Type} {content : ClauseKind σ → α}
    (hcontent : ClauseKind.IgnoresJoins content) :
    (c.engine, content c.kind) = (c'.engine, content c'.kind) := by
  cases h with
  | refl => rfl
  | join h => exact congrArg _ (hcontent _ _)

end Clause.Interleaved

namespace Clauses

variable {xs ys : List (Clause σ)}

/-- The clauses of a component that apply correspond to each other. -/
theorem Interleaved.ofComponent (h : Interleaved xs ys) (component : Component)
    (engine : Option Dialect) :
    List.Forall₂ Clause.Interleaved (ofComponent component engine xs)
      (ofComponent component engine ys) := by
  have hfilter : ∀ {xs ys : List (Clause σ)}, List.Forall₂ Clause.Interleaved xs ys →
      List.Forall₂ Clause.Interleaved (xs.filter (·.applies engine))
        (ys.filter (·.applies engine)) := by
    intro xs ys hxs
    induction hxs with
    | nil => exact .nil
    | @cons c c' xs ys hc _ ih =>
      rw [List.filter_cons, List.filter_cons, ← hc.applies_eq engine]
      split
      · exact .cons hc ih
      · exact ih
  have hsplit : ∀ cs : List (Clause σ), Clauses.ofComponent component engine cs =
      (cs.filter (·.component == component)).filter (·.applies engine) := by
    intro cs
    rw [Clauses.ofComponent, List.filter_filter]
    exact List.filter_congr fun c _ => Bool.and_comm _ _
  rw [hsplit, hsplit]
  exact hfilter (h component)

/-- Corresponding clauses that answer a question alike give the same list of answers. -/
theorem map_eq_of_forall₂ {α : Type} {answer : Clause σ → α}
    (h : List.Forall₂ Clause.Interleaved xs ys)
    (hanswer : ∀ c c', Clause.Interleaved c c' → answer c = answer c') :
    xs.map answer = ys.map answer := by
  induction h with
  | nil => rfl
  | cons hc _ ih => rw [List.map_cons, List.map_cons, hanswer _ _ hc, ih]

/-- The content of the clause that is chosen can be told from the engines and contents alone. -/
theorem map_pick? {α : Type} (content : ClauseKind σ → α) (component : Component)
    (engine : Option Dialect) (cs : List (Clause σ)) :
    (pick? component engine cs).map (fun c => content c.kind) =
      let answers := (Clauses.ofComponent component engine cs).map fun c =>
        (c.engine, content c.kind)
      (answers.find? (·.1 == engine) <|> answers.find? (·.1 == none)).map Prod.snd := by
  simp only [pick?, List.find?_map, Function.comp_def]
  cases (Clauses.ofComponent component engine cs).find? (·.engine == engine) with
  | some c => rfl
  | none => simp [Function.comp_def]

/-- Lists that differ only in how the components are interleaved say the same. -/
theorem Interleaved.agree (h : Interleaved xs ys) (d : Dialect) : Agree d xs ys where
  contents component _ _ content hcontent :=
    map_eq_of_forall₂ (h.ofComponent component (some d)) fun _ _ hc =>
      congrArg Prod.snd (hc.content_eq hcontent)
  chosen component _ content hcontent := by
    have hanswers : (Clauses.ofComponent component (some d) xs).map (fun c =>
          (c.engine, content c.kind)) =
        (Clauses.ofComponent component (some d) ys).map (fun c => (c.engine, content c.kind)) :=
      map_eq_of_forall₂ (h.ofComponent component (some d)) fun _ _ hc => hc.content_eq hcontent
    rw [map_pick?, map_pick?, hanswers]

end Clauses

/-- Corresponding joins say the same to a dialect. -/
theorem Clause.Interleaved.join_eq {c c' : Clause σ} (h : Clause.Interleaved c c') (d : Dialect) :
    c.kind.join?.map (JoinSections.of d) = c'.kind.join?.map (JoinSections.of d) := by
  cases h with
  | refl => rfl
  | join h =>
    exact congrArg some (JoinSections.of_congr (Clauses.Interleaved.agree h d) _ _ _ _)

/-- The joins say the same, however they are interleaved with other clauses. -/
theorem Clauses.Interleaved.joinSections_eq {xs ys : List (Clause σ)} (h : Interleaved xs ys)
    (d : Dialect) : joinSections d xs = joinSections d ys := by
  have hjoins := map_eq_of_forall₂ (h.ofComponent .join (some d)) fun _ _ hc => hc.join_eq d
  have hanswers := congrArg (List.filterMap id) hjoins
  simpa only [joinSections, List.map_filterMap, List.filterMap_map, Function.id_comp] using hanswers

/-- A layer says the same to a dialect, however its components are interleaved. -/
theorem Sections.of_interleaved {q : QueryOver σ} {cs : List (Clause σ)}
    (h : Clauses.Interleaved q.clauses cs) (d : Dialect) :
    Sections.of d { q with clauses := cs } = Sections.of d q :=
  (Sections.of_congr (q := { q with clauses := cs }) (h.agree d) (h.joinSections_eq d)).symm

/-! ## Queries -/

/-- Queries that differ only in how the components of their clauses are interleaved, at any depth:
the smallest congruence that relates the interleavings of one layer. -/
inductive Subquery.Interleaved : Subquery → Subquery → Prop
  | refl (s : Subquery) : Subquery.Interleaved s s
  | trans {s₁ s₂ s₃ : Subquery} :
      Subquery.Interleaved s₁ s₂ → Subquery.Interleaved s₂ s₃ → Subquery.Interleaved s₁ s₃
  /-- The clauses of the query itself. -/
  | layer (q : Query) (cs : List (Clause Subquery)) (h : Clauses.Interleaved q.clauses cs) :
      Subquery.Interleaved ⟨q⟩ ⟨{ q with clauses := cs }⟩
  /-- The clauses of its subqueries, which stand in the places `x : γ` of a layer. -/
  | inside {γ : Type} (q : QueryOver γ) (f g : γ → Subquery)
      (h : ∀ x, Subquery.Interleaved (f x) (g x)) : Subquery.Interleaved ⟨q.map f⟩ ⟨q.map g⟩

/-- Queries that differ only in how the components of their clauses are interleaved, at any
depth. -/
def Query.Interleaved (p q : Query) : Prop :=
  Subquery.Interleaved ⟨p⟩ ⟨q⟩

theorem Subquery.rendered_eq (t : Target) (s : Subquery) :
    Subquery.rendered t s = Rendered.of t (Query.sections t s.query) := by
  obtain ⟨q⟩ := s
  exact Subquery.rendered_mk t q

namespace Subquery.Interleaved

variable {s s' : Subquery}

theorem error_eq (h : Subquery.Interleaved s s') : s.query.error = s'.query.error := by
  induction h with
  | refl s => rfl
  | trans _ _ ih ih' => exact ih.trans ih'
  | layer q cs h => rfl
  | inside q f g _ _ => rfl

/-- The queries say the same to the dialect. -/
theorem sections_eq (h : Subquery.Interleaved s s') (t : Target) :
    Query.sections t s.query = Query.sections t s'.query := by
  induction h with
  | refl s => rfl
  | trans _ _ ih ih' => exact ih.trans ih'
  | layer q cs h =>
    rw [Query.sections, Query.sections, Sections.of_map, Sections.of_map, Sections.of_interleaved h]
  | inside q f g _ ih =>
    have hrendered : Subquery.rendered t ∘ f = Subquery.rendered t ∘ g := by
      funext x
      rw [Function.comp_apply, Function.comp_apply, Subquery.rendered_eq, ih x,
        ← Subquery.rendered_eq]
    rw [Query.sections, Query.sections, QueryOver.map_map, QueryOver.map_map, hrendered]

end Subquery.Interleaved

/-- Neighbours of different components may change places. -/
theorem Clauses.interleaved_swap {a b : Clause σ} (h : a.component ≠ b.component)
    (xs ys : List (Clause σ)) : Interleaved (xs ++ a :: b :: ys) (xs ++ b :: a :: ys) := by
  intro c
  have hfilter : (xs ++ a :: b :: ys).filter (·.component == c) =
      (xs ++ b :: a :: ys).filter (·.component == c) := by
    by_cases ha : a.component = c
    · have hb : b.component ≠ c := fun hb => h (ha.trans hb.symm)
      simp [ha, hb]
    · simp [List.filter_cons, ha]
  rw [hfilter]
  exact List.forall₂_same.mpr fun c _ => .refl c

/-- **Order independence.** Queries that differ only in how the components of their clauses are
interleaved, at any depth, compile to the same result; in particular two neighbouring clauses of
different components may change places. -/
theorem compile_interleaved (t : Target) :
    (∀ p q : Query, Query.Interleaved p q → compile t p = compile t q) ∧
      ∀ (q : Query) (xs ys : List (Clause Subquery)) (a b : Clause Subquery),
        q.clauses = xs ++ a :: b :: ys → a.component ≠ b.component →
          compile t { q with clauses := xs ++ b :: a :: ys } = compile t q := by
  have hcompile : ∀ p q : Query, Query.Interleaved p q → compile t p = compile t q := by
    intro p q h
    have herror : p.error = q.error := h.error_eq
    have hsections : p.sections t = q.sections t := h.sections_eq t
    rw [compile, compile, herror, hsections]
  refine ⟨hcompile, fun q xs ys a b hclauses hne => (hcompile _ _ ?_).symm⟩
  refine Subquery.Interleaved.layer q _ ?_
  rw [hclauses]
  exact Clauses.interleaved_swap hne xs ys

/-- The limit of a subquery before and after its source, and the same for the select around it. -/
theorem compile_interleaved_limit :
    let t : Target := { dialect := .postgres }
    let source : Clause Subquery := ⟨.source, none, .source (.table "users")⟩
    let limit : Clause Subquery := ⟨.limit, none, .limit 1⟩
    let among (q : Query) : Query :=
      { clauses := [⟨.filter, none, .condition { kind := .inQuery "id" ⟨q⟩ }⟩] }
    let p : Query := among { clauses := [source, limit] }
    let q : Query := among { clauses := [limit, source] }
    (Query.Interleaved p q ∧ compile t p = compile t q) ∧
      (source.component ≠ limit.component ∧
        compile t { clauses := [limit, source] } = compile t { clauses := [source, limit] }) := by
  intro t source limit among p q
  have hne : source.component ≠ limit.component := by decide
  have hinside : Query.Interleaved p q :=
    .inside { clauses := [⟨.filter, none, .condition { kind := .inQuery "id" () }⟩] }
      (fun _ => ⟨{ clauses := [source, limit] }⟩) (fun _ => ⟨{ clauses := [limit, source] }⟩)
      fun _ => .layer { clauses := [source, limit] } _ (Clauses.interleaved_swap hne [] [])
  exact ⟨⟨hinside, (compile_interleaved t).1 p q hinside⟩, hne,
    (compile_interleaved t).2 { clauses := [source, limit] } [] [] source limit rfl hne⟩

end SqlBuilder
