import SqlBuilder.Proofs.Document.Depth
import SqlBuilder.Proofs.Document.Value
import SqlBuilder.Proofs.Query.JoinState
import SqlBuilder.Proofs.Query.Values

/-!
# Clauses read back from their documents

What a clause is made of reads back if its values and its subqueries do.  The lemmas are about
clauses over any type `ρ`, whose subqueries are written by way of `e` and read as what `f` makes of
them: a clause that is written with its subqueries as `e` gives them is read with its subqueries as
`f` gives them (`Condition.decode?_map` and its companions).  A document says nothing of the state
of a join, so that a join is read in the state in which joins begin (`Clauses.decode?_map`).
-/

namespace SqlBuilder

open Json

/-! ## Parts without subqueries -/

@[simp] theorem Fragment.decode?_object (fs : List (String × Json)) :
    decode? (.object fs) = Fragment.mk <$> part? "expression" fs <*> part? "bindings" fs :=
  rfl

theorem Fragment.decode?_encode {r : Fragment}
    (h : ∀ v ∈ r.bindings, decode? (encode v) = some v) : decode? (encode r) = some r := by
  change decode?
    (.object [("expression", encode r.expression), ("bindings", encode r.bindings)]) = _
  simp [decode?_encode_list h]

instance : LawfulDocument AggregateClause where
  decode?_encode a := by
    change recordFields? _ _ (.object _) >>= _ = _
    simp

theorem OrderBy.decode?_encode {o : OrderBy} (h : ∀ v ∈ o.values, decode? (encode v) = some v) :
    decode? (encode o) = some o := by
  cases o with
  | column name ascending =>
    change OrderBy.column <$> part? "column" _ <*> part? "ascending" _ = _
    simp
  | random seed =>
    change OrderBy.random <$> optionalPart? "seed" _ = _
    simp
  | raw r =>
    change (decode? (encode r)).map OrderBy.raw = _
    rw [Fragment.decode?_encode h, Option.map_some]

theorem UpdateClause.decode?_encode {u : UpdateClause}
    (h : ∀ v ∈ u.values, decode? (encode v) = some v) : decode? (encode u) = some u := by
  cases u with
  | set columns values =>
    have hvalues : decode? (encode values) = some values := decode?_encode_list h
    change UpdateClause.set <$> part? "columns" _ <*> part? "values" _ = _
    simp [hvalues]
  | increment column amount =>
    change UpdateClause.increment <$> part? "column" _ <*> part? "value" _ = _
    simp

/-! ## Parts with subqueries -/

section Parts

variable {ρ σ τ : Type} [Document σ] [Document τ] {e : ρ → σ} {f : ρ → τ}

theorem ConditionKind.decode?_map (k : ConditionKind ρ)
    (hvalues : ∀ v ∈ k.values, decode? (encode v) = some v)
    (hsubqueries : ∀ r ∈ k.subqueries, decode? (encode (e r)) = some (f r)) :
    decode? (encode (k.map e)) = some (k.map f) := by
  cases k with
  | inList column vs =>
    have hvs : decode? (encode vs) = some vs := decode?_encode_list hvalues
    change ofParts? "In" _ = _
    simp [ofParts?, map, hvs]
  | raw r =>
    have hbindings : decode? (encode r.bindings) = some r.bindings := decode?_encode_list hvalues
    change ofParts? "Raw" _ = _
    simp [ofParts?, map, hbindings]
  | _ =>
    simp only [values, subqueries, List.forall_mem_cons] at hvalues hsubqueries
    change ofParts? _ _ = _
    simp [ofParts?, map, hvalues, hsubqueries]

theorem Condition.decode?_map (c : Condition ρ)
    (hvalues : ∀ v ∈ c.values, decode? (encode v) = some v)
    (hsubqueries : ∀ r ∈ c.subqueries, decode? (encode (e r)) = some (f r)) :
    decode? (encode (c.map e)) = some (c.map f) := by
  have hkind : decode? (encode (c.kind.map e)) = some (c.kind.map f) :=
    c.kind.decode?_map hvalues hsubqueries
  change recordFields? _ _ (.object _) >>= _ = _
  simp [map, hkind]

theorem Source.decode?_map (s : Source ρ)
    (hvalues : ∀ v ∈ s.values, decode? (encode v) = some v)
    (hsubqueries : ∀ r ∈ s.subqueries, decode? (encode (e r)) = some (f r)) :
    decode? (encode (s.map e)) = some (s.map f) := by
  cases s with
  | table name => rfl
  | query r =>
    have hr : decode? (encode (e r)) = some (f r) := hsubqueries r (by simp [subqueries])
    change (decode? (encode (e r))).map Source.query = _
    rw [hr, Option.map_some, map]
  | raw aliasName r =>
    have hbindings : decode? (encode r.bindings) = some r.bindings := decode?_encode_list hvalues
    change Source.raw <$> optionalPart? "alias" _ <*> decode? (.object _) = _
    simp [map, hbindings]
  | rows aliasName columns vs =>
    have hvs : decode? (encode vs) = some vs := decode?_encode_list hvalues
    change Source.rows <$> part? "alias" _ <*> part? "columns" _ <*> part? "values" _ = _
    simp [map, hvs]

theorem Column.decode?_map (c : Column ρ) (hnull : decode? (α := τ) .null = none)
    (hvalues : ∀ v ∈ c.values, decode? (encode v) = some v)
    (hsubqueries : ∀ r ∈ c.subqueries, decode? (encode (e r)) = some (f r)) :
    decode? (encode (c.map e)) = some (c.map f) := by
  cases c with
  | named name => rfl
  | query r =>
    have hr : decode? (encode (e r)) = some (f r) := hsubqueries r (by simp [subqueries])
    change (decode? (encode (e r))).map Column.query = _
    rw [hr, Option.map_some, map]
  | aggregated function column filter =>
    have hfilter : ∀ r ∈ filter, decode? (encode (e r)) = some (f r) := fun r hr =>
      hsubqueries r (by simpa [subqueries] using hr)
    change Column.aggregated <$> part? "function" _ <*> part? "column" _ <*>
      optionalPart? "filter" _ = _
    simp [map, optionalPart?_cons_map hnull hfilter]
  | raw r =>
    change (decode? (encode r)).map Column.raw = _
    rw [Fragment.decode?_encode hvalues, Option.map_some, map]

theorem Combine.decode?_map (c : Combine ρ)
    (hvalues : ∀ v ∈ c.values, decode? (encode v) = some v)
    (hsubqueries : ∀ r ∈ c.subqueries, decode? (encode (e r)) = some (f r)) :
    decode? (encode (c.map e)) = some (c.map f) := by
  cases c with
  | query operation all r =>
    have hr : decode? (encode (e r)) = some (f r) := hsubqueries r (by simp [subqueries])
    change Combine.query <$> part? "operation" _ <*> part? "all" _ <*> part? "query" _ = _
    simp [map, hr]
  | raw r =>
    change (decode? (encode r)).map Combine.raw = _
    rw [Fragment.decode?_encode hvalues, Option.map_some, map]

theorem InsertClause.decode?_map (i : InsertClause ρ)
    (hvalues : ∀ v ∈ i.values, decode? (encode v) = some v)
    (hsubqueries : ∀ r ∈ i.subqueries, decode? (encode (e r)) = some (f r)) :
    decode? (encode (i.map e)) = some (i.map f) := by
  cases i with
  | row columns vs returnId =>
    have hvs : decode? (encode vs) = some vs := decode?_encode_list hvalues
    change InsertClause.row <$> part? "columns" _ <*> part? "values" _ <*> part? "return_id" _ = _
    simp [map, hvs]
  | query columns r =>
    have hr : decode? (encode (e r)) = some (f r) := hsubqueries r (by simp [subqueries])
    change InsertClause.query <$> part? "columns" _ <*> part? "query" _ = _
    simp [map, hr]

/-! ## Clauses -/

/-- The content of a clause that is no join is read by its name. -/
theorem ClauseKind.ofDocument?_tagged {name : String} (h : name ≠ "Join")
    (clause? : Json → Option (Clause τ)) (content : Json) :
    ClauseKind.ofDocument? clause? (tagged name content) = ofMember? name content := by
  rw [ClauseKind.ofDocument?, variant?_tagged]
  split
  case h_1 heq => simp_all
  case h_2 heq => simp_all
  case h_3 heq => simp at heq

mutual

/-- The content of a clause is read if the bound on its joins is large enough. -/
theorem ClauseKind.ofDocument?_map (hnull : decode? (α := τ) .null = none) :
    ∀ (k : ClauseKind ρ) (bound : Nat), (k.map e).document.depth ≤ bound →
      (∀ v ∈ k.values, decode? (encode v) = some v) →
      (∀ r ∈ k.subqueries, decode? (encode (e r)) = some (f r)) →
      ClauseKind.ofDocument? (Clause.ofDocument? bound) (k.map e).document =
        some ((k.map f).mapState fun _ => {})
  | .join j, bound, hdepth, hvalues, hsubqueries => by
    rw [ClauseKind.map, ClauseKind.document, depth_tagged] at hdepth
    rw [ClauseKind.values] at hvalues
    rw [ClauseKind.subqueries] at hsubqueries
    have hj := Join.ofDocument?_map hnull j bound (by omega) hvalues hsubqueries
    rw [ClauseKind.map, ClauseKind.document, ClauseKind.map, ClauseKind.mapState]
    change (Join.ofDocument? _ (j.map e).document).map ClauseKind.join = _
    rw [hj, Option.map_some]
  | .condition c, bound, _, hvalues, hsubqueries => by
    rw [ClauseKind.values] at hvalues
    rw [ClauseKind.subqueries] at hsubqueries
    rw [ClauseKind.map, ClauseKind.document, ClauseKind.ofDocument?_tagged (by decide)]
    simp [ClauseKind.ofMember?, ClauseKind.map, ClauseKind.mapState, c.decode?_map hvalues hsubqueries]
  | .source s, bound, _, hvalues, hsubqueries => by
    rw [ClauseKind.values] at hvalues
    rw [ClauseKind.subqueries] at hsubqueries
    rw [ClauseKind.map, ClauseKind.document, ClauseKind.ofDocument?_tagged (by decide)]
    simp [ClauseKind.ofMember?, ClauseKind.map, ClauseKind.mapState, s.decode?_map hvalues hsubqueries]
  | .column c, bound, _, hvalues, hsubqueries => by
    rw [ClauseKind.values] at hvalues
    rw [ClauseKind.subqueries] at hsubqueries
    rw [ClauseKind.map, ClauseKind.document, ClauseKind.ofDocument?_tagged (by decide)]
    simp [ClauseKind.ofMember?, ClauseKind.map, ClauseKind.mapState, c.decode?_map hnull hvalues hsubqueries]
  | .combine c, bound, _, hvalues, hsubqueries => by
    rw [ClauseKind.values] at hvalues
    rw [ClauseKind.subqueries] at hsubqueries
    rw [ClauseKind.map, ClauseKind.document, ClauseKind.ofDocument?_tagged (by decide)]
    simp [ClauseKind.ofMember?, ClauseKind.map, ClauseKind.mapState, c.decode?_map hvalues hsubqueries]
  | .insert i, bound, _, hvalues, hsubqueries => by
    rw [ClauseKind.values] at hvalues
    rw [ClauseKind.subqueries] at hsubqueries
    rw [ClauseKind.map, ClauseKind.document, ClauseKind.ofDocument?_tagged (by decide)]
    simp [ClauseKind.ofMember?, ClauseKind.map, ClauseKind.mapState, i.decode?_map hvalues hsubqueries]
  | .order o, bound, _, hvalues, _ => by
    rw [ClauseKind.values] at hvalues
    rw [ClauseKind.map, ClauseKind.document, ClauseKind.ofDocument?_tagged (by decide)]
    simp [ClauseKind.ofMember?, ClauseKind.map, ClauseKind.mapState, OrderBy.decode?_encode hvalues]
  | .update u, bound, _, hvalues, _ => by
    rw [ClauseKind.values] at hvalues
    rw [ClauseKind.map, ClauseKind.document, ClauseKind.ofDocument?_tagged (by decide)]
    simp [ClauseKind.ofMember?, ClauseKind.map, ClauseKind.mapState, UpdateClause.decode?_encode hvalues]
  | .limit _, _, _, _, _ | .offset _, _, _, _, _ | .aggregate _, _, _, _, _ | .lock _, _, _, _, _
  | .tableColumn _, _, _, _, _ | .tableKind _, _, _, _, _ | .tableExtension _, _, _, _, _ => by
    rw [ClauseKind.map, ClauseKind.document, ClauseKind.ofDocument?_tagged (by decide)]
    simp [ClauseKind.ofMember?, ClauseKind.map, ClauseKind.mapState]

/-- A clause is read if the bound on its joins is large enough. -/
theorem Clause.ofDocument?_map (hnull : decode? (α := τ) .null = none) :
    ∀ (c : Clause ρ) (bound : Nat), (c.map e).document.depth < bound →
      (∀ v ∈ c.values, decode? (encode v) = some v) →
      (∀ r ∈ c.subqueries, decode? (encode (e r)) = some (f r)) →
      Clause.ofDocument? bound (c.map e).document = some ((c.map f).mapState fun _ => {})
  | ⟨component, engine, kind⟩, 0, hdepth, _, _ => by simp at hdepth
  | ⟨component, engine, kind⟩, bound + 1, hdepth, hvalues, hsubqueries => by
    rw [Clause.map, Clause.document] at hdepth
    simp only [depth, fieldsDepth] at hdepth
    rw [Clause.values] at hvalues
    rw [Clause.subqueries] at hsubqueries
    have hkind := ClauseKind.ofDocument?_map hnull kind bound (by omega) hvalues hsubqueries
    have hengine : ∀ fs, optionalPart? "engine" (("engine", encode engine) :: fs) = some engine :=
      optionalPart?_cons_self decode?_null_dialect "engine"
    rw [Clause.map, Clause.document, Clause.ofDocument?]
    simp [hengine, hkind, Clause.map, Clause.mapState, List.lookup_cons]

/-- A join is read if the bound on the joins in it is large enough. -/
theorem Join.ofDocument?_map (hnull : decode? (α := τ) .null = none) :
    ∀ (j : Join ρ) (bound : Nat), (j.map e).document.depth ≤ bound →
      (∀ v ∈ j.values, decode? (encode v) = some v) →
      (∀ r ∈ j.subqueries, decode? (encode (e r)) = some (f r)) →
      Join.ofDocument? (Clause.ofDocument? bound) (j.map e).document =
        some ((j.map f).mapState fun _ => {})
  | ⟨kind, clauses, index, _⟩, bound, hdepth, hvalues, hsubqueries => by
    rw [Join.map, Join.document] at hdepth
    simp only [depth, fieldsDepth] at hdepth
    rw [Join.values] at hvalues
    rw [Join.subqueries] at hsubqueries
    have hclauses := Clauses.mapM_ofDocument?_map hnull clauses bound (by omega) hvalues hsubqueries
    rw [Join.map, Join.document, Join.ofDocument?]
    simp [hclauses, Join.map, Join.mapState, List.lookup_cons]

/-- Clauses are read if the bound on their joins is large enough. -/
theorem Clauses.mapM_ofDocument?_map (hnull : decode? (α := τ) .null = none) :
    ∀ (cs : List (Clause ρ)) (bound : Nat), listDepth (documentsOf (Clauses.map e cs)) < bound →
      (∀ v ∈ Clauses.values cs, decode? (encode v) = some v) →
      (∀ r ∈ Clauses.subqueries cs, decode? (encode (e r)) = some (f r)) →
      (documentsOf (Clauses.map e cs)).mapM (Clause.ofDocument? bound) =
        some (Clauses.mapState (fun _ => {}) (Clauses.map f cs))
  | [], _, _, _, _ => by
    rw [Clauses.map, documentsOf, Clauses.map, Clauses.mapState]
    rfl
  | c :: cs, bound, hdepth, hvalues, hsubqueries => by
    rw [Clauses.map, documentsOf, listDepth] at hdepth
    rw [Clauses.values, List.forall_mem_append] at hvalues
    rw [Clauses.subqueries, List.forall_mem_append] at hsubqueries
    have hc := Clause.ofDocument?_map hnull c bound (by omega) hvalues.1 hsubqueries.1
    have hcs := Clauses.mapM_ofDocument?_map hnull cs bound (by omega) hvalues.2 hsubqueries.2
    rw [Clauses.map, documentsOf, List.mapM_cons, hc, hcs, Clauses.map, Clauses.mapState]
    rfl

end

/-- Clauses are read, each by itself, and their joins without their states. -/
theorem Clauses.decode?_map (hnull : decode? (α := τ) .null = none) (cs : List (Clause ρ))
    (hvalues : ∀ v ∈ Clauses.values cs, decode? (encode v) = some v)
    (hsubqueries : ∀ r ∈ Clauses.subqueries cs, decode? (encode (e r)) = some (f r)) :
    decode? (encode (Clauses.map e cs)) =
      some (Clauses.mapState (fun _ => {}) (Clauses.map f cs)) := by
  rw [Clauses.map_eq, Clauses.map_eq, Clauses.mapState_eq, List.map_map]
  refine decode?_list fun c hc => ?_
  apply Clause.ofDocument?_map hnull c _ (Nat.lt_succ_self _)
  · intro v hv
    apply hvalues v
    rw [Clauses.values_eq_flatMap]
    exact List.mem_flatMap.mpr ⟨c, hc, hv⟩
  · intro r hr
    apply hsubqueries r
    rw [Clauses.subqueries_eq_flatMap]
    exact List.mem_flatMap.mpr ⟨c, hc, hr⟩

end Parts

end SqlBuilder
