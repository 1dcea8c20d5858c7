import SqlBuilder.Proofs.Document.Lawful
import SqlBuilder.Proofs.Json.Text
import SqlBuilder.Proofs.Query.Subqueries
import SqlBuilder.Proofs.Query.Values
import SqlBuilder.Query.Document

/-!
# Documents that have texts

The document of a query has a text that is read back as the document if its values do
(`Value.Legible`): whatever else a query is made of is written with names, texts and integers that
fit.  A `LegibleDocument` type is one for which nothing has to be asked of the values.
-/

namespace SqlBuilder

open Json

/-- Types whose documents have only numbers that are read back from their texts. -/
class LegibleDocument (α : Type) [Document α] : Prop where
  legible_encode : ∀ a : α, (encode a).Legible

export LegibleDocument (legible_encode)

attribute [simp] LegibleDocument.legible_encode

/-! ## Trees -/

namespace Json

@[simp] theorem legible_null : null.Legible := by
  simp [Legible]

@[simp] theorem legible_bool (b : Bool) : (bool b).Legible := by
  simp [Legible]

@[simp] theorem legible_text (s : String) : (text s).Legible := by
  simp [Legible]

@[simp] theorem legible_array {js : List Json} : (array js).Legible ↔ ∀ j ∈ js, j.Legible := by
  rw [Legible]
  induction js with
  | nil => simp [AllLegible]
  | cons j js ih => rw [AllLegible, ih, List.forall_mem_cons]

@[simp] theorem legible_object {fs : List (String × Json)} :
    (object fs).Legible ↔ ∀ f ∈ fs, f.2.Legible := by
  rw [Legible]
  induction fs with
  | nil => simp [FieldsLegible]
  | cons f fs ih => rw [FieldsLegible, ih, List.forall_mem_cons]

@[simp] theorem legible_tagged {name : String} {content : Json} :
    (tagged name content).Legible ↔ content.Legible := by
  simp [tagged]

@[simp] theorem legible_taggedRecord {name : String} {fs : List (String × Json)} :
    (taggedRecord name fs).Legible ↔ ∀ f ∈ fs, f.2.Legible := by
  simp [taggedRecord]

/-- A natural number of 64 bits fits. -/
theorem intFits_natCast {n : Nat} (h : n < UInt64.size) : IntFits n :=
  ⟨Int.le_trans (by decide) (Int.natCast_nonneg n), Int.ofNat_lt.mpr h⟩

end Json

/-! ## Simple types -/

/-- The name of a member is a text. -/
instance {α : Type} [Vocabulary α] : LegibleDocument α :=
  ⟨fun a => legible_text (Vocabulary.name a)⟩

instance : LegibleDocument Bool := ⟨legible_bool⟩

instance : LegibleDocument String := ⟨legible_text⟩

instance : LegibleDocument Char := ⟨fun c => legible_text (String.singleton c)⟩

instance : LegibleDocument Int64 where
  legible_encode n := by
    have hmax : n.toInt ≤ Int64.maxValue.toInt := n.toInt_le
    change (Json.int n.toInt).Legible
    rw [Legible]
    exact ⟨n.minValue_le_toInt, Int.lt_of_le_of_lt hmax (by decide)⟩

instance : LegibleDocument UInt64 where
  legible_encode n := by
    change (Json.int n.toNat).Legible
    rw [Legible]
    exact intFits_natCast n.toNat_lt_size

instance : LegibleDocument UInt32 where
  legible_encode n := by
    change (Json.int n.toNat).Legible
    rw [Legible]
    exact intFits_natCast (Nat.lt_trans n.toNat_lt_size (by decide))

instance : LegibleDocument UInt8 where
  legible_encode n := by
    change (Json.int n.toNat).Legible
    rw [Legible]
    exact intFits_natCast (Nat.lt_trans n.toNat_lt_size (by decide))

instance : LegibleDocument Decimal := ⟨fun d => legible_text d.text⟩

instance : LegibleDocument Uuid := ⟨fun u => legible_text u.text⟩

instance : LegibleDocument Date := ⟨fun d => legible_text d.text⟩

instance : LegibleDocument TimeOfDay := ⟨fun t => legible_text t.text⟩

/-! ## Lists and options -/

section Containers

variable {α : Type} [Document α]

theorem legible_encode_list {xs : List α} :
    (encode xs).Legible ↔ ∀ x ∈ xs, (encode x).Legible := by
  change (Json.array (xs.map encode)).Legible ↔ _
  simp

theorem legible_encode_option {o : Option α} :
    (encode o).Legible ↔ ∀ a ∈ o, (encode a).Legible := by
  cases o with
  | none => exact iff_of_true legible_null (by simp)
  | some a =>
    change (encode a).Legible ↔ _
    simp

instance [LegibleDocument α] : LegibleDocument (List α) :=
  ⟨fun _ => legible_encode_list.mpr fun _ _ => legible_encode _⟩

instance [LegibleDocument α] : LegibleDocument (Option α) :=
  ⟨fun _ => legible_encode_option.mpr fun _ _ => legible_encode _⟩

end Containers

/-! ## Tables and aggregates -/

instance : LegibleDocument DataType where
  legible_encode t := by
    cases t with
    | decimal p s =>
      change (taggedRecord _ _).Legible
      simp
    | char n | varchar n | custom n =>
      change (tagged _ _).Legible
      simp
    | _ => exact legible_text _

instance : LegibleDocument TableColumn where
  legible_encode c := by
    change (Json.object _).Legible
    simp

instance : LegibleDocument TableExtension where
  legible_encode
    | .onCommitPreserveRows preserve => legible_tagged.mpr (legible_bool preserve)

instance : LegibleDocument AggregateClause where
  legible_encode a := by
    change (Json.object _).Legible
    simp

/-! ## Values -/

namespace Value

mutual

/-- The numbers in the document of the value are read back from their texts.  Integers always are;
JSON trees and floating point numbers are what it depends on. -/
def Legible : Value → Prop
  | float x => x.ReadsBack
  | json j => j.Legible
  | array items => AllLegible items
  | _ => True

/-- The numbers in the documents of a list of values are read back. -/
def AllLegible : List Value → Prop
  | [] => True
  | v :: vs => v.Legible ∧ AllLegible vs

end

mutual

theorem legible_document : ∀ v : Value, v.Legible → v.document.Legible
  | null, _ => by simp [document]
  | float x, h => by
    rw [Legible] at h
    have hx : encode x = .float x := if_pos h.1
    rw [document, legible_tagged, hx, Json.Legible]
    exact h
  | json j, h => by
    rw [Legible] at h
    rw [document, legible_tagged]
    exact h
  | array items, h => by
    rw [Legible] at h
    rw [document, legible_tagged, Json.Legible]
    exact legible_documents items h
  | bool _, _ | int _, _ | decimal _, _ | text _, _ | uuid _, _ | date _, _ | time _, _
  | timestamp _, _ | timestampUtc _, _ | bytes _, _ | reference _, _ | literal _, _ => by
    simp [document]

theorem legible_documents : ∀ vs : List Value, AllLegible vs →
    Json.AllLegible (documents vs)
  | [], _ => by simp [documents, Json.AllLegible]
  | v :: vs, h => by
    rw [AllLegible] at h
    rw [documents, Json.AllLegible]
    exact ⟨legible_document v h.1, legible_documents vs h.2⟩

end

theorem Legible.encode {v : Value} (h : v.Legible) : (encode v).Legible :=
  legible_document v h

end Value

/-! ## Clauses -/

section Parts

variable {σ : Type} [Document σ]

theorem Fragment.legible_encode {r : Fragment} (h : ∀ v ∈ r.bindings, (encode v).Legible) :
    (encode r).Legible := by
  have hbindings : (encode r.bindings).Legible := legible_encode_list.mpr h
  change (Json.object _).Legible
  simp [hbindings]

theorem OrderBy.legible_encode {o : OrderBy} (h : ∀ v ∈ o.values, (encode v).Legible) :
    (encode o).Legible := by
  cases o with
  | column name ascending =>
    change (taggedRecord _ _).Legible
    simp
  | random seed =>
    change (taggedRecord _ _).Legible
    simp
  | raw r => exact legible_tagged.mpr (Fragment.legible_encode h)

theorem UpdateClause.legible_encode {u : UpdateClause}
    (h : ∀ v ∈ u.values, (encode v).Legible) : (encode u).Legible := by
  cases u with
  | set columns vs =>
    have hvs : (encode vs).Legible := legible_encode_list.mpr h
    change (taggedRecord _ _).Legible
    simp [hvs]
  | increment column amount =>
    change (taggedRecord _ _).Legible
    simp

theorem ConditionKind.legible_encode {k : ConditionKind σ}
    (hvalues : ∀ v ∈ k.values, (encode v).Legible)
    (hsubqueries : ∀ s ∈ k.subqueries, (encode s).Legible) : (encode k).Legible := by
  cases k with
  | raw r => exact legible_tagged.mpr (Fragment.legible_encode hvalues)
  | _ =>
    change (taggedRecord _ _).Legible
    simp_all [values, subqueries, legible_encode_list]

theorem Condition.legible_encode {c : Condition σ}
    (hvalues : ∀ v ∈ c.values, (encode v).Legible)
    (hsubqueries : ∀ s ∈ c.subqueries, (encode s).Legible) : (encode c).Legible := by
  have hkind : (encode c.kind).Legible := ConditionKind.legible_encode hvalues hsubqueries
  change (Json.object _).Legible
  simp [hkind]

theorem Source.legible_encode {x : Source σ} (hvalues : ∀ v ∈ x.values, (encode v).Legible)
    (hsubqueries : ∀ s ∈ x.subqueries, (encode s).Legible) : (encode x).Legible := by
  cases x with
  | table name =>
    change (tagged _ _).Legible
    simp
  | query s =>
    change (tagged _ _).Legible
    simp_all [subqueries]
  | raw aliasName r | rows aliasName columns vs =>
    change (taggedRecord _ _).Legible
    simp_all [values, legible_encode_list]

theorem Column.legible_encode {c : Column σ} (hvalues : ∀ v ∈ c.values, (encode v).Legible)
    (hsubqueries : ∀ s ∈ c.subqueries, (encode s).Legible) : (encode c).Legible := by
  cases c with
  | named name =>
    change (tagged _ _).Legible
    simp
  | query s =>
    change (tagged _ _).Legible
    simp_all [subqueries]
  | aggregated function column filter =>
    change (taggedRecord _ _).Legible
    simp_all [subqueries, legible_encode_option]
  | raw r => exact legible_tagged.mpr (Fragment.legible_encode hvalues)

theorem Combine.legible_encode {c : Combine σ} (hvalues : ∀ v ∈ c.values, (encode v).Legible)
    (hsubqueries : ∀ s ∈ c.subqueries, (encode s).Legible) : (encode c).Legible := by
  cases c with
  | query operation all s =>
    change (taggedRecord _ _).Legible
    simp_all [subqueries]
  | raw r => exact legible_tagged.mpr (Fragment.legible_encode hvalues)

theorem InsertClause.legible_encode {i : InsertClause σ}
    (hvalues : ∀ v ∈ i.values, (encode v).Legible)
    (hsubqueries : ∀ s ∈ i.subqueries, (encode s).Legible) : (encode i).Legible := by
  cases i with
  | row columns vs returnId =>
    change (taggedRecord _ _).Legible
    simp_all [values, legible_encode_list]
  | query columns s =>
    change (taggedRecord _ _).Legible
    simp_all [subqueries]

mutual

theorem ClauseKind.legible_document : ∀ k : ClauseKind σ,
    (∀ v ∈ k.values, (encode v).Legible) → (∀ s ∈ k.subqueries, (encode s).Legible) →
      k.document.Legible
  | .condition c, hvalues, hsubqueries => by
    rw [ClauseKind.values] at hvalues
    rw [ClauseKind.subqueries] at hsubqueries
    rw [ClauseKind.document, legible_tagged]
    exact c.legible_encode hvalues hsubqueries
  | .source x, hvalues, hsubqueries => by
    rw [ClauseKind.values] at hvalues
    rw [ClauseKind.subqueries] at hsubqueries
    rw [ClauseKind.document, legible_tagged]
    exact x.legible_encode hvalues hsubqueries
  | .join j, hvalues, hsubqueries => by
    rw [ClauseKind.values] at hvalues
    rw [ClauseKind.subqueries] at hsubqueries
    rw [ClauseKind.document, legible_tagged]
    exact Join.legible_document j hvalues hsubqueries
  | .column c, hvalues, hsubqueries => by
    rw [ClauseKind.values] at hvalues
    rw [ClauseKind.subqueries] at hsubqueries
    rw [ClauseKind.document, legible_tagged]
    exact c.legible_encode hvalues hsubqueries
  | .combine c, hvalues, hsubqueries => by
    rw [ClauseKind.values] at hvalues
    rw [ClauseKind.subqueries] at hsubqueries
    rw [ClauseKind.document, legible_tagged]
    exact c.legible_encode hvalues hsubqueries
  | .insert i, hvalues, hsubqueries => by
    rw [ClauseKind.values] at hvalues
    rw [ClauseKind.subqueries] at hsubqueries
    rw [ClauseKind.document, legible_tagged]
    exact i.legible_encode hvalues hsubqueries
  | .order o, hvalues, _ => by
    rw [ClauseKind.values] at hvalues
    rw [ClauseKind.document, legible_tagged]
    exact o.legible_encode hvalues
  | .update u, hvalues, _ => by
    rw [ClauseKind.values] at hvalues
    rw [ClauseKind.document, legible_tagged]
    exact u.legible_encode hvalues
  | .limit _, _, _ | .offset _, _, _ | .aggregate _, _, _ | .lock _, _, _ | .tableColumn _, _, _
  | .tableKind _, _, _ | .tableExtension _, _, _ => by
    rw [ClauseKind.document, legible_tagged]
    exact legible_encode _

theorem Clause.legible_document : ∀ c : Clause σ,
    (∀ v ∈ c.values, (encode v).Legible) → (∀ s ∈ c.subqueries, (encode s).Legible) →
      c.document.Legible
  | ⟨component, engine, kind⟩, hvalues, hsubqueries => by
    rw [Clause.values] at hvalues
    rw [Clause.subqueries] at hsubqueries
    have hkind := ClauseKind.legible_document kind hvalues hsubqueries
    rw [Clause.document]
    simp [hkind]

theorem Join.legible_document : ∀ j : Join σ,
    (∀ v ∈ j.values, (encode v).Legible) → (∀ s ∈ j.subqueries, (encode s).Legible) →
      j.document.Legible
  | ⟨kind, clauses, index, _⟩, hvalues, hsubqueries => by
    rw [Join.values] at hvalues
    rw [Join.subqueries] at hsubqueries
    have hclauses := Clauses.legible_documentsOf clauses hvalues hsubqueries
    rw [Join.document]
    simpa using hclauses

theorem Clauses.legible_documentsOf : ∀ cs : List (Clause σ),
    (∀ v ∈ Clauses.values cs, (encode v).Legible) →
      (∀ s ∈ Clauses.subqueries cs, (encode s).Legible) → ∀ j ∈ documentsOf cs, j.Legible
  | [], _, _ => by simp [documentsOf]
  | c :: cs, hvalues, hsubqueries => by
    rw [Clauses.values, List.forall_mem_append] at hvalues
    rw [Clauses.subqueries, List.forall_mem_append] at hsubqueries
    rw [documentsOf, List.forall_mem_cons]
    exact ⟨Clause.legible_document c hvalues.1 hsubqueries.1,
      Clauses.legible_documentsOf cs hvalues.2 hsubqueries.2⟩

end

end Parts

end SqlBuilder
