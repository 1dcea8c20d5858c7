import SqlBuilder.Compiler
import SqlBuilder.Proofs.Document.Clause
import SqlBuilder.Proofs.Document.Legible

/-!
# Queries read back from their documents

The document of a query says what the query says.  Reading it succeeds, and gives the query back
without the state of its construction, in the query itself, in its joins and in all queries in it
(`Query.finished`).  A query without such state reads back as itself, so that it compiles to the
same statement for every dialect (`decode?_encode_query`).

The values of the query have to be ones that a document keeps (`Value.isKept`).  What is read from
the tree of the document is also read from its text, if the reader of the text does not refuse it
for its depth, and if the floating point numbers in it are read back from their texts
(`Query.IsLegible`).
-/

namespace SqlBuilder

open Json

/-! ## The state of construction -/

variable {σ : Type}

/-- The layer without the state of its construction and of that of its joins. -/
def QueryOver.withoutState (q : QueryOver σ) : QueryOver σ where
  clauses := Clauses.mapState (fun _ => {}) q.clauses
  method := q.method
  distinct := q.distinct
  aliasName := q.aliasName
  definitions := q.definitions

/-- Nothing is left of the construction of the layer and of its joins, nor of the joins among the
clauses of these. -/
structure QueryOver.HasNoState (q : QueryOver σ) : Prop where
  joins : ∀ s ∈ Clauses.joinStates q.clauses, s = {}
  parent : q.parent = []
  engineScope : q.engineScope = none
  pending : q.pending = {}
  error : q.error = none

theorem QueryOver.HasNoState.withoutState_eq {q : QueryOver σ} (h : q.HasNoState) :
    q.withoutState = q := by
  obtain ⟨clauses, method, distinct, aliasName, definitions, parent, engineScope, pending, error⟩ :=
    q
  obtain ⟨hjoins, hparent, hengine, hpending, herror⟩ := h
  simp only at hjoins hparent hengine hpending herror
  subst hparent hengine hpending herror
  have hclauses := Clauses.mapState_eq_self (fun _ => {}) clauses fun s hs => (hjoins s hs).symm
  rw [withoutState, hclauses]

theorem QueryOver.hasNoState_withoutState (q : QueryOver σ) : q.withoutState.HasNoState where
  joins s hs := by
    rw [withoutState, Clauses.joinStates_mapState] at hs
    obtain ⟨_, _, rfl⟩ := List.mem_map.mp hs
    rfl
  parent := rfl
  engineScope := rfl
  pending := rfl
  error := rfl

theorem QueryOver.subqueries_withoutState (q : QueryOver σ) :
    q.withoutState.subqueries = q.subqueries :=
  Clauses.subqueries_mapState _ q.clauses

/-- The query without the state of its construction, and so all queries in it. -/
def Subquery.finished : Subquery → Subquery :=
  fold fun layer => ⟨layer.withoutState⟩

/-- The query without the state of its construction, and so all queries in it. -/
def Query.finished (q : Query) : Query :=
  QueryOver.withoutState (q.map Subquery.finished)

theorem Subquery.finished_mk (q : Query) : finished ⟨q⟩ = ⟨q.finished⟩ :=
  fold_mk _ q

/-! ## Properties of all layers -/

/-- The query and all queries in it, at any depth, have the property. -/
inductive Subquery.Throughout (P : Query → Prop) : Subquery → Prop
  | mk {q : Query} (own : P q) (nested : ∀ s ∈ q.subqueries, Throughout P s) : Throughout P ⟨q⟩

/-- The query and all queries in it, at any depth, have the property. -/
def Query.Throughout (P : Query → Prop) (q : Query) : Prop :=
  Subquery.Throughout P ⟨q⟩

/-- Nothing is left of the construction of the query and of the queries in it. -/
def Query.IsFinished (q : Query) : Prop :=
  q.Throughout QueryOver.HasNoState

/-- What is finished at every depth has no state at any. -/
theorem Subquery.throughout_finished (s : Subquery) :
    s.finished.Throughout QueryOver.HasNoState := by
  induction s using Subquery.induction with
  | layer q ih =>
    rw [finished_mk]
    refine .mk (QueryOver.hasNoState_withoutState _) fun r hr => ?_
    rw [Query.finished, QueryOver.subqueries_withoutState, QueryOver.subqueries_map] at hr
    obtain ⟨s, hs, rfl⟩ := List.mem_map.mp hr
    exact ih s hs

/-- A query without any state is finished. -/
theorem Subquery.Throughout.finished_eq {s : Subquery} (h : s.Throughout QueryOver.HasNoState) :
    s.finished = s := by
  induction h with
  | @mk q own _ ih =>
    obtain ⟨q', rfl⟩ := q.exists_attach ih
    have hsame : finished ∘ Subtype.val = (Subtype.val : { s // finished s = s } → Subquery) :=
      funext Subtype.property
    have hmap : (q'.map Subtype.val).map finished = q'.map Subtype.val := by
      rw [QueryOver.map_map, hsame]
    rw [finished_mk, Query.finished, hmap, own.withoutState_eq]

/-! ## Layers -/

/-- The values of a layer: those of its clauses, and those that it defines. -/
def QueryOver.values (q : QueryOver σ) : List Value :=
  Clauses.values q.clauses ++ q.definitions.map Prod.snd

theorem QueryOver.values_map {τ : Type} (f : σ → τ) (q : QueryOver σ) :
    (q.map f).values = q.values := by
  simp only [values, map, Clauses.values_map]

/-- The variables of a query are read in their order. -/
theorem Definitions.decode?_encode {ds : Definitions}
    (h : ∀ v ∈ ds.map Prod.snd, SqlBuilder.decode? (encode v) = some v) :
    SqlBuilder.decode? (encode ds) = some ds := by
  change (ds.map fun p => (p.1, encode p.2)).mapM (fun p : String × Json =>
    (SqlBuilder.decode? p.2 : Option Value).map ((p.1, ·))) = some ds
  induction ds with
  | nil => rfl
  | cons d ds ih =>
    rw [List.map_cons, List.forall_mem_cons] at h
    rw [List.map_cons, List.mapM_cons, ih h.2, h.1]
    rfl

variable {ρ τ : Type} [Document σ] [Document τ] {e : ρ → σ} {f : ρ → τ}

/-- A layer is read without the state of its construction. -/
theorem QueryOver.ofDocument?_map (hnull : decode? (α := τ) .null = none) {q : QueryOver ρ}
    (hvalues : ∀ v ∈ q.values, decode? (encode v) = some v)
    (hsubqueries : ∀ r ∈ q.subqueries, decode? (encode (e r)) = some (f r)) :
    QueryOver.ofDocument? (q.map e).document = some (q.map f).withoutState := by
  rw [values, List.forall_mem_append] at hvalues
  have hclauses := Clauses.decode?_map hnull q.clauses hvalues.1 hsubqueries
  have hdefinitions := Definitions.decode?_encode hvalues.2
  rw [document, ofDocument?]
  simp [map, hclauses, hdefinitions, withoutState]

/-- The document of a layer has a text that is read back if those of its values and its subqueries
have. -/
theorem QueryOver.legible_document {q : QueryOver σ} (hvalues : ∀ v ∈ q.values, v.Legible)
    (hsubqueries : ∀ s ∈ q.subqueries, (encode s).Legible) : q.document.Legible := by
  rw [values, List.forall_mem_append] at hvalues
  have hclauses : ∀ j ∈ q.clauses.map Clause.document, j.Legible := by
    rw [← documentsOf_eq_map]
    exact Clauses.legible_documentsOf q.clauses (fun v hv => (hvalues.1 v hv).encode) hsubqueries
  have hcomponents : (encode q.clauses).Legible := legible_array.mpr hclauses
  have hvariables : (encode q.definitions).Legible := by
    change (Json.object (q.definitions.map _)).Legible
    rw [legible_object, List.forall_mem_map]
    exact fun d hd => (hvalues.2 d.2 (List.mem_map_of_mem hd)).encode
  rw [document]
  simp [hcomponents, hvariables]

/-! ## Queries -/

namespace Subquery

theorem document_mk (q : Query) : document ⟨q⟩ = (q.map document).document :=
  fold_mk _ q

theorem ofDocumentWithin?_null (bound : Nat) : ofDocumentWithin? bound .null = none := by
  cases bound <;> rfl

/-- A query is read if the bound on its nesting is large enough. -/
theorem ofDocumentWithin?_document {s : Subquery}
    (h : s.Throughout fun q => ∀ v ∈ q.values, v.isKept = true) {bound : Nat}
    (hbound : s.document.depth < bound) : ofDocumentWithin? bound s.document = some s.finished := by
  induction h generalizing bound with
  | @mk q own _ ih =>
    obtain ⟨bound, rfl⟩ : ∃ b, bound = b + 1 := ⟨bound - 1, by omega⟩
    rw [document_mk] at hbound ⊢
    have hsubqueries : ∀ r ∈ q.subqueries,
        ofDocumentWithin? bound r.document = some r.finished := by
      intro r hr
      have hmem : r.document ∈ (q.map document).subqueries := by
        rw [QueryOver.subqueries_map]
        exact List.mem_map_of_mem hr
      have hdepth : r.document.depth < (q.map document).document.depth :=
        QueryOver.depth_lt_of_mem hmem
      exact ih r hr (by omega)
    let _ : Document Subquery := ⟨document, ofDocumentWithin? bound⟩
    have hlayer := QueryOver.ofDocument?_map (e := document) (f := finished)
      (ofDocumentWithin?_null bound) (fun v hv => Value.decode?_encode (own v hv)) hsubqueries
    rw [ofDocumentWithin?, hlayer, finished_mk]
    rfl

/-- The document of a query has a text that is read back if its values have. -/
theorem legible_document {s : Subquery} (h : s.Throughout fun q => ∀ v ∈ q.values, v.Legible) :
    s.document.Legible := by
  induction h with
  | @mk q own _ ih =>
    rw [document_mk]
    refine QueryOver.legible_document (by rwa [QueryOver.values_map]) fun j hj => ?_
    rw [QueryOver.subqueries_map] at hj
    obtain ⟨r, hr, rfl⟩ := List.mem_map.mp hj
    exact ih r hr

end Subquery

/-- A document keeps the values of the query and of the queries in it. -/
def Query.IsKept (q : Query) : Prop :=
  q.Throughout fun layer => ∀ v ∈ layer.values, v.isKept = true

/-- The numbers in the document of the query are read back from their texts. -/
def Query.IsLegible (q : Query) : Prop :=
  q.Throughout fun layer => ∀ v ∈ layer.values, v.Legible

theorem Query.legible_encode {q : Query} (h : q.IsLegible) : (encode q).Legible := by
  obtain ⟨own, nested⟩ := h
  exact QueryOver.legible_document own fun s hs => Subquery.legible_document (nested s hs)

/-- The document of a query whose values it keeps is read as the query without the state of its
construction, from the tree of the document as well as from its text.  Where there is no such state,
reading gives the query itself, and so the same statement for every dialect. -/
theorem decode?_encode_query (q : Query) (hkept : q.IsKept) :
    decode? (encode q) = some q.finished ∧ q.finished.IsFinished ∧
      (q.IsLegible → (encode q).depth ≤ nestingLimit →
        (read? (encode q).render).bind decode? = some q.finished) ∧
      (q.IsFinished →
        q.finished = q ∧ decode? (encode q) = some q ∧
          ∀ t : Target, (decode? (encode q)).map (compile t) = some (compile t q)) := by
  have hread : decode? (encode q) = some q.finished := by
    obtain ⟨own, nested⟩ := hkept
    have hlayer := QueryOver.ofDocument?_map (q := q) (e := id) (f := Subquery.finished)
      (Subquery.ofDocumentWithin?_null _) (fun v hv => Value.decode?_encode (own v hv))
      fun r hr => Subquery.ofDocumentWithin?_document (nested r hr) (Nat.lt_succ_self _)
    rwa [QueryOver.map_id] at hlayer
  have hfinished : q.finished.IsFinished := by
    have hquery := Subquery.throughout_finished ⟨q⟩
    rwa [Subquery.finished_mk] at hquery
  refine ⟨hread, hfinished, fun hlegible hdepth => ?text, fun hstate => ?same⟩
  case text =>
    rw [read?_render (Query.legible_encode hlegible), if_pos hdepth, Option.bind_some, hread]
  case same =>
    have hsame : q.finished = q := by
      have hquery := hstate.finished_eq
      rw [Subquery.finished_mk] at hquery
      exact congrArg Subquery.query hquery
    rw [hsame] at hread
    refine ⟨hsame, hread, fun t => ?_⟩
    rw [hread, Option.map_some]

/-- A derived table and a join with a condition on a subquery.  Begun in the scope of another query
and with a connective pending, on the query and on the join, they read back without either; without
either, they read back as they are. -/
theorem decode?_encode_query_nested :
    let rows (parent : Scope) : Query :=
      { clauses :=
          [⟨.source, none, .source (.table "t")⟩,
            ⟨.filter, none, .condition { kind := .compare "a" .eq (.reference "x") }⟩]
        aliasName := some "s"
        parent }
    let joined (parent : Scope) (pending : Pending) : Join Subquery :=
      { kind := .left
        clauses :=
          [⟨.source, none, .source (.table "u")⟩,
            ⟨.filter, none, .condition { kind := .nonempty ⟨rows parent⟩ }⟩]
        index := some "i"
        state := { scope := parent, pending } }
    let q (parent : Scope) (pending : Pending) : Query :=
      { clauses :=
          [⟨.source, none, .source (.query ⟨rows parent⟩)⟩,
            ⟨.join, none, .join (joined parent pending)⟩,
            ⟨.filter, some .mySql, .condition
              { isNot := true
                kind := .inList "b"
                  [.array [.decimal ⟨true, 150, 2, by decide, by decide⟩, .null]] }⟩]
        definitions := [("x", .float ⟨0x3FF8000000000000⟩), ("y", .text "Null\n")]
        parent
        pending }
    let t : Target := { dialect := .mySql }
    let begun := q [[("y", .null)]] { or := true }
    begun.IsKept ∧ begun.IsLegible ∧ (encode begun).depth ≤ nestingLimit ∧
      decode? (encode begun) = some (q [] {}) ∧
      (read? (encode begun).render).bind decode? = some (q [] {}) ∧
      (q [] {}).IsKept ∧ (q [] {}).IsFinished ∧ decode? (encode (q [] {})) = some (q [] {}) ∧
      (decode? (encode (q [] {}))).map (compile t) = some (compile t (q [] {})) := by
  intro rows joined q t begun
  have hnested : ∀ parent pending, ∀ s ∈ (q parent pending).subqueries, s = ⟨rows parent⟩ := by
    intro parent pending s hs
    have hs : s ∈ [(⟨rows parent⟩ : Subquery), ⟨rows parent⟩] := hs
    simpa using hs
  have hkept : ∀ parent pending, (q parent pending).IsKept := by
    intro parent pending
    refine .mk (List.all_eq_true.mp rfl) fun s hs => ?_
    rw [hnested parent pending s hs]
    exact .mk (List.all_eq_true.mp rfl) fun s hs => absurd hs List.not_mem_nil
  have hfloat : (⟨0x3FF8000000000000⟩ : Binary64).ReadsBack := by
    have htext : (⟨0x3FF8000000000000⟩ : Binary64).scientific.toList = ['1', '.', '5'] := by
      decide +kernel
    have hvalue : Binary64.ofDecimal false 15 (-1) = ⟨0x3FF8000000000000⟩ := by decide +kernel
    refine ⟨by decide, ?_⟩
    have hparts : ofParts? false ['1'] (some ['5']) none =
        if (Binary64.ofDecimal false 15 (-1)).isFinite then
          some (.float (Binary64.ofDecimal false 15 (-1))) else none := rfl
    have hread : readNumber ['1', '.', '5'] =
        (ofParts? false ['1'] (some ['5']) none).bind fun j => some (j, []) := rfl
    rw [htext, hread, hparts, hvalue]
    rfl
  have hlegible : begun.IsLegible := by
    refine .mk (fun v hv => ?_) fun s hs => ?_
    · have hv : v ∈ [.array [.decimal ⟨true, 150, 2, by decide, by decide⟩, .null],
          .float ⟨0x3FF8000000000000⟩, .text "Null\n"] := hv
      simp only [List.mem_cons, List.not_mem_nil, or_false] at hv
      obtain rfl | rfl | rfl := hv
      · simp [Value.Legible, Value.AllLegible]
      · rw [Value.Legible]
        exact hfloat
      · simp [Value.Legible]
    · rw [hnested _ _ s hs]
      refine .mk (fun v hv => ?_) fun s hs => absurd hs List.not_mem_nil
      obtain rfl : v = .reference "x" := List.mem_singleton.mp hv
      simp [Value.Legible]
  have hdepth : (encode begun).depth ≤ nestingLimit := by decide +kernel
  have hstate : (q [] {}).IsFinished := by
    refine .mk ⟨List.forall_mem_singleton.mpr rfl, rfl, rfl, rfl, rfl⟩ fun s hs => ?_
    rw [hnested [] {} s hs]
    exact .mk ⟨fun s hs => absurd hs List.not_mem_nil, rfl, rfl, rfl, rfl⟩
      fun s hs => absurd hs List.not_mem_nil
  obtain ⟨hread, -, htext, -⟩ := decode?_encode_query begun (hkept _ _)
  obtain ⟨-, hsame, hcompile⟩ := (decode?_encode_query _ (hkept [] {})).2.2.2 hstate
  exact ⟨hkept _ _, hlegible, hdepth, hread, htext hlegible hdepth, hkept _ _, hstate, hsame,
    hcompile t⟩

end SqlBuilder
