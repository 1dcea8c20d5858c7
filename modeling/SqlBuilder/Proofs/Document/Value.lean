import SqlBuilder.Proofs.Document.Lawful

/-!
# Values read back from their documents

A number that is not finite is written as null, and the text of a decimal loses the sign of a zero;
every other value is read as what it was written for (`Value.decode?_encode`), to any depth of
arrays.
-/

namespace SqlBuilder

open Json

/-- A finite number is read as it is. -/
theorem Binary64.decode?_encode {x : Binary64} (h : x.isFinite = true) :
    decode? (encode x) = some x := by
  change decode? (if x.isFinite then Json.float x else .null) = some x
  rw [if_pos h]
  rfl

/-- A decimal is read as it is, unless it is a zero with a sign. -/
theorem Decimal.decode?_encode_iff (d : Decimal) :
    decode? (encode d) = some d ↔ (d.negative = true → d.coefficient ≠ 0) :=
  d.read?_text_eq_some_iff

namespace Value

mutual

/-- Does a document keep the value?  It keeps neither infinities and NaN nor the sign of a decimal
zero. -/
def isKept : Value → Bool
  | float x => x.isFinite
  | decimal d => decide (d.negative = true → d.coefficient ≠ 0)
  | array items => areKept items
  | _ => true

/-- Does a document keep the values of a list? -/
def areKept : List Value → Bool
  | [] => true
  | v :: vs => v.isKept && areKept vs

end

/-! ## Reading what is written -/

/-- A member that is no array and no JSON tree is read by its name. -/
theorem ofDocument?_tagged {name : String} (harray : name ≠ "Array") (hjson : name ≠ "Json")
    (content : Json) : ofDocument? (tagged name content) = ofScalar? name content := by
  rw [tagged, ofDocument?]
  · intro items h
    simp_all
  · intro h
    simp_all

mutual

/-- A value whose document keeps it is read back from it. -/
theorem ofDocument?_document : ∀ v : Value, v.isKept = true → ofDocument? v.document = some v
  | null, _ => rfl
  | float x, h => by
    rw [isKept] at h
    rw [document, ofDocument?_tagged (by decide) (by decide)]
    simp [ofScalar?, Binary64.decode?_encode h]
  | decimal d, h => by
    rw [isKept, decide_eq_true_eq] at h
    have hd : decode? (encode d) = some d := d.decode?_encode_iff.mpr h
    rw [document, ofDocument?_tagged (by decide) (by decide)]
    simp [ofScalar?, hd]
  | timestamp t, _ => by
    rw [document, ofDocument?_tagged (by decide) (by decide)]
    simp [ofScalar?, Document.viaText?, DateTime.ofText?_text]
  | timestampUtc t, _ => by
    rw [document, ofDocument?_tagged (by decide) (by decide)]
    simp [ofScalar?, Document.viaText?, DateTime.ofOffsetText?_text]
  | bool _, _ | int _, _ | text _, _ | uuid _, _ | date _, _ | time _, _ | bytes _, _
  | reference _, _ | literal _, _ => by
    rw [document, ofDocument?_tagged (by decide) (by decide)]
    simp [ofScalar?]
  | json j, _ => rfl
  | array items, h => by
    rw [isKept] at h
    have hitems := ofDocuments?_documents items h
    rw [document, tagged, ofDocument?, hitems, Option.map_some]

theorem ofDocuments?_documents : ∀ vs : List Value, areKept vs = true →
    ofDocuments? (documents vs) = some vs
  | [], _ => rfl
  | v :: vs, h => by
    rw [areKept, Bool.and_eq_true] at h
    rw [documents, ofDocuments?, ofDocument?_document v h.1, ofDocuments?_documents vs h.2]
    rfl

end

theorem decode?_encode {v : Value} (h : v.isKept = true) : decode? (encode v) = some v :=
  ofDocument?_document v h

end Value

end SqlBuilder
