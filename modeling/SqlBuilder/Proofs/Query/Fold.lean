import SqlBuilder.Query.Fold

/-!
# Laws of folds

`Subquery.fold alg` is the only function that goes layer by layer the way `alg` says
(`Subquery.eq_fold`).  Two consequences are what statements about rendering are proved with.  A
composition of two folds is a fold when it goes layer by layer itself, so a rewriting of queries that
an algebra does not notice on one layer is not noticed at any depth.  And a relation between the
results of two folds holds at every depth once it holds on one layer whose subqueries are related
(`Subquery.fold_related`); it may have a hypothesis, which is a fold too, with propositions for
results, and so may say something about every layer (`Subquery.fold_induction`).
-/

namespace SqlBuilder

variable {ρ σ τ : Type}

/-! ## Maps compose -/

theorem ConditionKind.map_map (f : ρ → σ) (g : σ → τ) (k : ConditionKind ρ) :
    (k.map f).map g = k.map (g ∘ f) := by
  cases k <;> rfl

theorem Condition.map_map (f : ρ → σ) (g : σ → τ) (c : Condition ρ) :
    (c.map f).map g = c.map (g ∘ f) := by
  simp [Condition.map, ConditionKind.map_map]

theorem Source.map_map (f : ρ → σ) (g : σ → τ) (s : Source ρ) :
    (s.map f).map g = s.map (g ∘ f) := by
  cases s <;> rfl

theorem Column.map_map (f : ρ → σ) (g : σ → τ) (c : Column ρ) :
    (c.map f).map g = c.map (g ∘ f) := by
  cases c <;> simp [Column.map]

theorem Combine.map_map (f : ρ → σ) (g : σ → τ) (c : Combine ρ) :
    (c.map f).map g = c.map (g ∘ f) := by
  cases c <;> rfl

theorem InsertClause.map_map (f : ρ → σ) (g : σ → τ) (i : InsertClause ρ) :
    (i.map f).map g = i.map (g ∘ f) := by
  cases i <;> rfl

mutual

theorem ClauseKind.map_map (f : ρ → σ) (g : σ → τ) :
    ∀ k : ClauseKind ρ, (k.map f).map g = k.map (g ∘ f)
  | .condition c => by simp only [ClauseKind.map, Condition.map_map]
  | .source s => by simp only [ClauseKind.map, Source.map_map]
  | .join j => by simp only [ClauseKind.map, Join.map_map f g j]
  | .column c => by simp only [ClauseKind.map, Column.map_map]
  | .order _ | .limit _ | .offset _ | .aggregate _ => by simp only [ClauseKind.map]
  | .combine c => by simp only [ClauseKind.map, Combine.map_map]
  | .insert i => by simp only [ClauseKind.map, InsertClause.map_map]
  | .update _ | .lock _ | .tableColumn _ | .tableKind _ | .tableExtension _ => by
    simp only [ClauseKind.map]

theorem Clause.map_map (f : ρ → σ) (g : σ → τ) :
    ∀ c : Clause ρ, (c.map f).map g = c.map (g ∘ f)
  | ⟨_, _, k⟩ => by simp only [Clause.map, ClauseKind.map_map f g k]

theorem Join.map_map (f : ρ → σ) (g : σ → τ) : ∀ j : Join ρ, (j.map f).map g = j.map (g ∘ f)
  | ⟨_, cs, _, _⟩ => by simp only [Join.map, Clauses.map_map f g cs]

theorem Clauses.map_map (f : ρ → σ) (g : σ → τ) :
    ∀ cs : List (Clause ρ), Clauses.map g (Clauses.map f cs) = Clauses.map (g ∘ f) cs
  | [] => by simp only [Clauses.map]
  | c :: cs => by simp only [Clauses.map, Clause.map_map f g c, Clauses.map_map f g cs]

end

theorem QueryOver.map_map (f : ρ → σ) (g : σ → τ) (q : QueryOver ρ) :
    (q.map f).map g = q.map (g ∘ f) := by
  simp [QueryOver.map, Clauses.map_map]

namespace Subquery

/-! ## Uniqueness -/

section Uniqueness

variable {α : Type} {alg : QueryOver α → α} {F : Subquery → α}

/-- The function goes layer by layer, as the algebra says. -/
def Follows (alg : QueryOver α → α) (F : Subquery → α) : Prop :=
  ∀ q : Query, F ⟨q⟩ = alg (q.map F)

mutual

/-- A function that goes layer by layer, as the algebra says, is the fold. -/
theorem eq_fold (hF : Follows alg F) : ∀ s : Subquery, F s = fold alg s
  | ⟨q⟩ => by rw [hF q, fold, map_eq_foldLayer hF q]

theorem map_eq_foldLayer (hF : Follows alg F) : ∀ q : Query, q.map F = foldLayer alg q
  | ⟨clauses, _, _, _, _, _, _, _, _⟩ => by
    simp only [QueryOver.map, foldLayer, map_eq_foldClauses hF clauses]

theorem map_eq_foldClauses (hF : Follows alg F) : ∀ cs : List (Clause Subquery),
    Clauses.map F cs = foldClauses alg cs
  | [] => by simp only [Clauses.map, foldClauses]
  | c :: cs => by
    simp only [Clauses.map, foldClauses, map_eq_foldClause hF c, map_eq_foldClauses hF cs]

theorem map_eq_foldClause (hF : Follows alg F) : ∀ c : Clause Subquery, c.map F = foldClause alg c
  | ⟨_, _, k⟩ => by simp only [Clause.map, foldClause, map_eq_foldKind hF k]

theorem map_eq_foldKind (hF : Follows alg F) : ∀ k : ClauseKind Subquery, k.map F = foldKind alg k
  | .condition c => by simp only [ClauseKind.map, foldKind, map_eq_foldCondition hF c]
  | .source s => by simp only [ClauseKind.map, foldKind, map_eq_foldSource hF s]
  | .join j => by simp only [ClauseKind.map, foldKind, map_eq_foldJoin hF j]
  | .column c => by simp only [ClauseKind.map, foldKind, map_eq_foldColumn hF c]
  | .combine c => by simp only [ClauseKind.map, foldKind, map_eq_foldCombine hF c]
  | .insert i => by simp only [ClauseKind.map, foldKind, map_eq_foldInsert hF i]
  | .order _ | .limit _ | .offset _ | .aggregate _ => by simp only [ClauseKind.map, foldKind]
  | .update _ | .lock _ | .tableColumn _ | .tableKind _ | .tableExtension _ => by
    simp only [ClauseKind.map, foldKind]

theorem map_eq_foldJoin (hF : Follows alg F) : ∀ j : Join Subquery, j.map F = foldJoin alg j
  | ⟨_, cs, _, _⟩ => by simp only [Join.map, foldJoin, map_eq_foldClauses hF cs]

theorem map_eq_foldCondition (hF : Follows alg F) : ∀ c : Condition Subquery,
    c.map F = foldCondition alg c
  | ⟨_, _, k⟩ => by simp only [Condition.map, foldCondition, map_eq_foldConditionKind hF k]

theorem map_eq_foldConditionKind (hF : Follows alg F) : ∀ k : ConditionKind Subquery,
    k.map F = foldConditionKind alg k
  | .inQuery _ s | .nonempty s | .group s | .queryCompare s _ _ | .columnQuery _ _ s => by
    simp only [ConditionKind.map, foldConditionKind, eq_fold hF s]
  | .compare _ _ _ | .pattern _ _ _ _ _ | .datePart _ _ _ _ | .columns _ _ _ | .null _
  | .boolean _ _ | .between _ _ _ | .inList _ _ | .raw _ => by
    simp only [ConditionKind.map, foldConditionKind]

theorem map_eq_foldSource (hF : Follows alg F) : ∀ s : Source Subquery, s.map F = foldSource alg s
  | .query s => by simp only [Source.map, foldSource, eq_fold hF s]
  | .table _ | .raw _ _ | .rows _ _ _ => by simp only [Source.map, foldSource]

theorem map_eq_foldColumn (hF : Follows alg F) : ∀ c : Column Subquery, c.map F = foldColumn alg c
  | .query s => by simp only [Column.map, foldColumn, eq_fold hF s]
  | .aggregated _ _ none => by simp only [Column.map, foldColumn, Option.map]
  | .aggregated _ _ (some s) => by simp only [Column.map, foldColumn, Option.map, eq_fold hF s]
  | .named _ | .raw _ => by simp only [Column.map, foldColumn]

theorem map_eq_foldCombine (hF : Follows alg F) : ∀ c : Combine Subquery,
    c.map F = foldCombine alg c
  | .query _ _ s => by simp only [Combine.map, foldCombine, eq_fold hF s]
  | .raw _ => by simp only [Combine.map, foldCombine]

theorem map_eq_foldInsert (hF : Follows alg F) : ∀ i : InsertClause Subquery,
    i.map F = foldInsert alg i
  | .query _ s => by simp only [InsertClause.map, foldInsert, eq_fold hF s]
  | .row _ _ _ => by simp only [InsertClause.map, foldInsert]

end

end Uniqueness

/-! ## Relations between folds -/

/-- Two folds are related at every depth if they are related on every layer whose subqueries are.
The subqueries of the layer are known only through `f` and `g`, what the two folds make of them. -/
theorem fold_related {α β : Type} {algF : QueryOver α → α} {algG : QueryOver β → β}
    {R : α → β → Prop}
    (layer : ∀ {γ : Type} (f : γ → α) (g : γ → β), (∀ x, R (f x) (g x)) →
      ∀ q : QueryOver γ, R (algF (q.map f)) (algG (q.map g)))
    (s : Subquery) : R (fold algF s) (fold algG s) := by
  -- One fold computes the two results together with the proof that relates them.
  let γ := { x : α × β // R x.1 x.2 }
  let f : γ → α := fun x => x.1.1
  let g : γ → β := fun x => x.1.2
  let alg : QueryOver γ → γ := fun q =>
    ⟨(algF (q.map f), algG (q.map g)), layer f g (fun x => x.2) q⟩
  have hf : f (fold alg s) = fold algF s :=
    eq_fold (F := f ∘ fold alg)
      (fun q => by rw [Function.comp_apply, fold_mk, ← QueryOver.map_map]) s
  have hg : g (fold alg s) = fold algG s :=
    eq_fold (F := g ∘ fold alg)
      (fun q => by rw [Function.comp_apply, fold_mk, ← QueryOver.map_map]) s
  rw [← hf, ← hg]
  exact (fold alg s).2

/-- Two folds are related at every depth, under a hypothesis that is a fold itself, if they are
related on every layer whose subqueries are.  What the hypothesis says of the subqueries of the
layer is known only through `u`. -/
theorem fold_induction {α β : Type} {algU : QueryOver Prop → Prop} {algF : QueryOver α → α}
    {algG : QueryOver β → β} {R : α → β → Prop}
    (layer : ∀ {γ : Type} (u : γ → Prop) (f : γ → α) (g : γ → β),
      (∀ x, u x → R (f x) (g x)) →
        ∀ q : QueryOver γ, algU (q.map u) → R (algF (q.map f)) (algG (q.map g)))
    (s : Subquery) : fold algU s → R (fold algF s) (fold algG s) := by
  -- The hypothesis and the first result are one fold.
  let algP : QueryOver (Prop × α) → Prop × α := fun q =>
    (algU (q.map Prod.fst), algF (q.map Prod.snd))
  have hu : (fold algP s).1 = fold algU s :=
    eq_fold (F := Prod.fst ∘ fold algP)
      (fun q => by rw [Function.comp_apply, fold_mk, ← QueryOver.map_map]) s
  have hf : (fold algP s).2 = fold algF s :=
    eq_fold (F := Prod.snd ∘ fold algP)
      (fun q => by rw [Function.comp_apply, fold_mk, ← QueryOver.map_map]) s
  rw [← hu, ← hf]
  refine fold_related (R := fun (p : Prop × α) b => p.1 → R p.2 b) (fun p g hsub q => ?_) s
  change algU ((q.map p).map Prod.fst) → R (algF ((q.map p).map Prod.snd)) _
  rw [QueryOver.map_map, QueryOver.map_map]
  exact layer (Prod.fst ∘ p) (Prod.snd ∘ p) g hsub q

end Subquery

end SqlBuilder
