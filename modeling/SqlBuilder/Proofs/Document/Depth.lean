import SqlBuilder.Proofs.Query.Subqueries
import SqlBuilder.Query.Document

/-!
# The depth of the documents of subqueries

The document of a subquery is a part of the document of its query, and lies deeper in it
(`QueryOver.depth_lt_of_mem`).  So the depth of a document bounds how far the queries in it are
nested.
-/

namespace SqlBuilder

open Json

namespace Json

@[simp] theorem depth_tagged (name : String) (content : Json) :
    (tagged name content).depth = content.depth + 1 := by
  simp [tagged, depth, fieldsDepth]

@[simp] theorem depth_taggedRecord (name : String) (fs : List (String × Json)) :
    (taggedRecord name fs).depth = fieldsDepth fs + 2 := by
  rw [taggedRecord, depth_tagged, depth]

end Json

variable {σ : Type} [Document σ]

/-! ## Parts of clauses -/

theorem ConditionKind.depth_le_of_mem {k : ConditionKind σ} {s : σ} (h : s ∈ k.subqueries) :
    (encode s).depth ≤ (encode k).depth := by
  cases k <;> simp only [subqueries, List.mem_singleton, List.not_mem_nil] at h
  all_goals
    subst h
    change _ ≤ (taggedRecord _ _).depth
    simp only [depth_taggedRecord, fieldsDepth]
    omega

theorem Condition.depth_le_of_mem {c : Condition σ} {s : σ} (h : s ∈ c.subqueries) :
    (encode s).depth ≤ (encode c).depth := by
  have hkind : (encode s).depth ≤ (encode c.kind).depth := ConditionKind.depth_le_of_mem h
  change _ ≤ (Json.object _).depth
  simp only [depth, fieldsDepth]
  omega

theorem Source.depth_le_of_mem {x : Source σ} {s : σ} (h : s ∈ x.subqueries) :
    (encode s).depth ≤ (encode x).depth := by
  cases x <;> simp only [subqueries, List.mem_singleton, List.not_mem_nil] at h
  subst h
  change _ ≤ (tagged _ _).depth
  rw [depth_tagged]
  omega

theorem Column.depth_le_of_mem {c : Column σ} {s : σ} (h : s ∈ c.subqueries) :
    (encode s).depth ≤ (encode c).depth := by
  cases c with
  | named name => simp [subqueries] at h
  | query r =>
    obtain rfl : s = r := by simpa [subqueries] using h
    change _ ≤ (tagged _ _).depth
    rw [depth_tagged]
    omega
  | aggregated function column filter =>
    obtain rfl : filter = some s := by simpa [subqueries, Option.mem_toList] using h
    change _ ≤ (taggedRecord _ [_, _, ("filter", encode s)]).depth
    simp only [depth_taggedRecord, fieldsDepth]
    omega
  | raw r => simp [subqueries] at h

theorem Combine.depth_le_of_mem {c : Combine σ} {s : σ} (h : s ∈ c.subqueries) :
    (encode s).depth ≤ (encode c).depth := by
  cases c <;> simp only [subqueries, List.mem_singleton, List.not_mem_nil] at h
  subst h
  change _ ≤ (taggedRecord _ _).depth
  simp only [depth_taggedRecord, fieldsDepth]
  omega

theorem InsertClause.depth_le_of_mem {i : InsertClause σ} {s : σ} (h : s ∈ i.subqueries) :
    (encode s).depth ≤ (encode i).depth := by
  cases i <;> simp only [subqueries, List.mem_singleton, List.not_mem_nil] at h
  subst h
  change _ ≤ (taggedRecord _ _).depth
  simp only [depth_taggedRecord, fieldsDepth]
  omega

/-! ## Clauses and layers -/

mutual

theorem ClauseKind.depth_le_of_mem {s : σ} : ∀ {k : ClauseKind σ}, s ∈ k.subqueries →
    (encode s).depth ≤ k.document.depth
  | .condition c, h => by
    rw [ClauseKind.subqueries] at h
    have hc := Condition.depth_le_of_mem h
    rw [ClauseKind.document, depth_tagged]
    omega
  | .source x, h => by
    rw [ClauseKind.subqueries] at h
    have hx := Source.depth_le_of_mem h
    rw [ClauseKind.document, depth_tagged]
    omega
  | .join j, h => by
    rw [ClauseKind.subqueries] at h
    have hj := Join.depth_le_of_mem h
    rw [ClauseKind.document, depth_tagged]
    omega
  | .column c, h => by
    rw [ClauseKind.subqueries] at h
    have hc := Column.depth_le_of_mem h
    rw [ClauseKind.document, depth_tagged]
    omega
  | .combine c, h => by
    rw [ClauseKind.subqueries] at h
    have hc := Combine.depth_le_of_mem h
    rw [ClauseKind.document, depth_tagged]
    omega
  | .insert i, h => by
    rw [ClauseKind.subqueries] at h
    have hi := InsertClause.depth_le_of_mem h
    rw [ClauseKind.document, depth_tagged]
    omega
  | .order _, h | .limit _, h | .offset _, h | .aggregate _, h | .update _, h | .lock _, h
  | .tableColumn _, h | .tableKind _, h | .tableExtension _, h => by
    simp [ClauseKind.subqueries] at h

theorem Clause.depth_le_of_mem {s : σ} : ∀ {c : Clause σ}, s ∈ c.subqueries →
    (encode s).depth ≤ c.document.depth
  | ⟨component, engine, kind⟩, h => by
    rw [Clause.subqueries] at h
    have hkind := ClauseKind.depth_le_of_mem h
    rw [Clause.document]
    simp only [depth, fieldsDepth]
    omega

theorem Join.depth_le_of_mem {s : σ} : ∀ {j : Join σ}, s ∈ j.subqueries →
    (encode s).depth ≤ j.document.depth
  | ⟨kind, clauses, index, _⟩, h => by
    rw [Join.subqueries] at h
    have hclauses := Clauses.depth_le_of_mem h
    rw [Join.document]
    simp only [depth, fieldsDepth]
    omega

theorem Clauses.depth_le_of_mem {s : σ} : ∀ {cs : List (Clause σ)}, s ∈ Clauses.subqueries cs →
    (encode s).depth ≤ listDepth (documentsOf cs)
  | [], h => by simp [Clauses.subqueries] at h
  | c :: cs, h => by
    rw [Clauses.subqueries, List.mem_append] at h
    rw [documentsOf, listDepth]
    rcases h with h | h
    · have hc := Clause.depth_le_of_mem h
      omega
    · have hcs := Clauses.depth_le_of_mem h
      omega

end

theorem documentsOf_eq_map (cs : List (Clause σ)) : documentsOf cs = cs.map Clause.document := by
  induction cs with
  | nil => rw [documentsOf, List.map_nil]
  | cons c cs ih => rw [documentsOf, List.map_cons, ih]

/-- The document of a subquery lies deeper than the document of its layer. -/
theorem QueryOver.depth_lt_of_mem {q : QueryOver σ} {s : σ} (h : s ∈ q.subqueries) :
    (encode s).depth < q.document.depth := by
  have hclauses := Clauses.depth_le_of_mem h
  rw [documentsOf_eq_map] at hclauses
  have harray : (encode q.clauses).depth = listDepth (q.clauses.map Clause.document) + 1 := rfl
  rw [QueryOver.document]
  simp only [depth, fieldsDepth]
  omega

end SqlBuilder
