import SqlBuilder.Dialect
import SqlBuilder.Proofs.Text.Calendar
import SqlBuilder.Proofs.Text.Decimal
import SqlBuilder.Proofs.Text.Uuid
import SqlBuilder.Statement.Document
import SqlBuilder.Value.Document

/-!
# Documents that read back

A `LawfulDocument` type is one whose documents are read as the values that they were written for:
vocabularies, whose members have different names, the simple types, whose numbers fit and whose
texts read back, and the descriptions of table columns.

A list is read if its items are (`decode?_list`), and a part of a record by the name that it was
written under (`part?_cons_self`, `optionalPart?_cons_self`).
-/

namespace SqlBuilder

open Json

/-- Types whose documents are read as the values that they were written for. -/
class LawfulDocument (α : Type) [Document α] : Prop where
  decode?_encode : ∀ a : α, decode? (encode a) = some a

/-- Vocabularies whose members are found by their names. -/
class LawfulVocabulary (α : Type) [Vocabulary α] : Prop where
  ofName?_name : ∀ a : α, Vocabulary.ofName? (Vocabulary.name a) = some a

export LawfulDocument (decode?_encode)

attribute [simp] LawfulDocument.decode?_encode

/-! ## Vocabularies -/

instance : LawfulVocabulary Method := ⟨fun a => by cases a <;> decide⟩

instance : LawfulVocabulary Component := ⟨fun a => by cases a <;> decide⟩

instance : LawfulVocabulary Operator := ⟨fun a => by cases a <;> decide⟩

instance : LawfulVocabulary AggregateFunc := ⟨fun a => by cases a <;> decide⟩

instance : LawfulVocabulary JoinKind := ⟨fun a => by cases a <;> decide⟩

instance : LawfulVocabulary SetOp := ⟨fun a => by cases a <;> decide⟩

instance : LawfulVocabulary LockMode := ⟨fun a => by cases a <;> decide⟩

instance : LawfulVocabulary DatePart := ⟨fun a => by cases a <;> decide⟩

instance : LawfulVocabulary StringMatch := ⟨fun a => by cases a <;> decide⟩

instance : LawfulVocabulary Dialect := ⟨fun a => by cases a <;> decide⟩

instance : LawfulVocabulary TableKind := ⟨fun a => by cases a <;> decide⟩

/-- The name of a member is read as the member. -/
instance {α : Type} [Vocabulary α] [LawfulVocabulary α] : LawfulDocument α :=
  ⟨LawfulVocabulary.ofName?_name⟩

/-! ## Simple types -/

instance : LawfulDocument Bool := ⟨fun _ => rfl⟩

instance : LawfulDocument String := ⟨fun _ => rfl⟩

instance : LawfulDocument Char where
  decode?_encode c := by
    change (match (String.singleton c).toList with | [d] => some d | _ => none) = some c
    rw [String.toList_singleton]

/-- An integer within the bounds is read. -/
theorem Document.integer?_of_mem {low high n : Int} (hlow : low ≤ n) (hhigh : n < high) :
    Document.integer? low high (.int n) = some n :=
  if_pos ⟨hlow, hhigh⟩

instance : LawfulDocument Int64 where
  decode?_encode n := by
    have hn : n.toInt < Int64.maxValue.toInt + 1 := Int.lt_add_one_of_le n.toInt_le
    change (Document.integer? _ _ (.int n.toInt)).map Int64.ofInt = some n
    rw [Document.integer?_of_mem n.minValue_le_toInt hn, Option.map_some, Int64.ofInt_toInt]

instance : LawfulDocument UInt64 where
  decode?_encode n := by
    change (Document.integer? _ _ (.int n.toNat)).map _ = some n
    rw [Document.integer?_of_mem (Int.natCast_nonneg _) (Int.ofNat_lt.mpr n.toNat_lt_size)]
    simp

instance : LawfulDocument UInt32 where
  decode?_encode n := by
    change (Document.integer? _ _ (.int n.toNat)).map _ = some n
    rw [Document.integer?_of_mem (Int.natCast_nonneg _) (Int.ofNat_lt.mpr n.toNat_lt_size)]
    simp

instance : LawfulDocument UInt8 where
  decode?_encode n := by
    change (Document.integer? _ _ (.int n.toNat)).map _ = some n
    rw [Document.integer?_of_mem (Int.natCast_nonneg _) (Int.ofNat_lt.mpr n.toNat_lt_size)]
    simp

instance : LawfulDocument Uuid where
  decode?_encode u := by simp only [decode?, encode, Document.viaText?, u.ofText?_text]

instance : LawfulDocument Date where
  decode?_encode d := by simp only [decode?, encode, Document.viaText?, d.ofText?_text]

instance : LawfulDocument TimeOfDay where
  decode?_encode t := by simp only [decode?, encode, Document.viaText?, t.ofText?_text]

/-! ## Lists -/

/-- A list is read if its items are. -/
theorem decode?_list {ρ σ τ : Type} [Document σ] [Document τ] {e : ρ → σ} {f : ρ → τ}
    {rs : List ρ} (h : ∀ r ∈ rs, decode? (encode (e r)) = some (f r)) :
    decode? (encode (rs.map e)) = some (rs.map f) := by
  change ((rs.map e).map encode).mapM decode? = some (rs.map f)
  induction rs with
  | nil => rfl
  | cons r rs ih =>
    have hr : decode? (encode (e r)) = some (f r) := h r (by simp)
    have hrs := ih fun s hs => h s (by simp [hs])
    rw [List.map_cons, List.map_cons, List.mapM_cons, hr, hrs]
    rfl

theorem decode?_encode_list {α : Type} [Document α] {xs : List α}
    (h : ∀ x ∈ xs, decode? (encode x) = some x) : decode? (encode xs) = some xs := by
  have hread := decode?_list (e := id) (f := id) h
  rwa [List.map_id] at hread

instance {α : Type} [Document α] [LawfulDocument α] : LawfulDocument (List α) where
  decode?_encode _ := decode?_encode_list fun _ _ => LawfulDocument.decode?_encode _

/-! ## Parts of records -/

namespace Json

variable {α : Type} [Document α]

@[simp] theorem variant?_tagged (name : String) (content : Json) :
    (tagged name content).variant? = some (name, content) :=
  rfl

@[simp] theorem recordFields?_object (parts : List String) (required : Nat)
    (fs : List (String × Json)) : recordFields? parts required (object fs) = some fs :=
  rfl

@[simp] theorem part?_cons_self (name : String) (j : Json) (fs : List (String × Json)) :
    part? (α := α) name ((name, j) :: fs) = decode? j := by
  rw [part?, List.lookup_cons_self, Option.bind_some]

@[simp] theorem part?_cons_of_ne {name n : String} (h : name ≠ n) (j : Json)
    (fs : List (String × Json)) : part? (α := α) name ((n, j) :: fs) = part? name fs := by
  rw [part?, List.lookup_cons, beq_false_of_ne h]
  rfl

@[simp] theorem optionalPart?_cons_of_ne {name n : String} (h : name ≠ n) (j : Json)
    (fs : List (String × Json)) :
    optionalPart? (α := α) name ((n, j) :: fs) = optionalPart? name fs := by
  rw [optionalPart?, List.lookup_cons, beq_false_of_ne h]
  rfl

/-- An optional part is read if null does not stand for a value of its own. -/
theorem optionalPart?_cons_map {ρ σ : Type} [Document σ] {e : ρ → σ} {f : ρ → α} {o : Option ρ}
    (hnull : decode? (α := α) null = none) (h : ∀ r ∈ o, decode? (encode (e r)) = some (f r))
    (name : String) (fs : List (String × Json)) :
    optionalPart? name ((name, encode (o.map e)) :: fs) = some (o.map f) := by
  rw [optionalPart?, List.lookup_cons_self]
  cases o with
  | none => rfl
  | some r =>
    have hr : decode? (encode (e r)) = some (f r) := h r rfl
    have hencode : encode ((some r).map e) = encode (e r) := rfl
    rw [hencode]
    cases hj : encode (e r) with
    | null =>
      rw [hj, hnull] at hr
      cases hr
    | _ =>
      rw [hj] at hr
      exact congrArg (Option.map some) hr

@[simp] theorem optionalPart?_cons_self [LawfulDocument α] {o : Option α}
    (hnull : decode? (α := α) null = none) (name : String) (fs : List (String × Json)) :
    optionalPart? name ((name, encode o) :: fs) = some o := by
  have hread := optionalPart?_cons_map (e := id) (f := id) (o := o) hnull
    (fun a _ => decode?_encode a) name fs
  rwa [Option.map_id] at hread

@[simp] theorem decode?_null_char : decode? (α := Char) null = none :=
  rfl

@[simp] theorem decode?_null_string : decode? (α := String) null = none :=
  rfl

@[simp] theorem decode?_null_dialect : decode? (α := Dialect) null = none :=
  rfl

end Json

/-- Parts that have been read are put together. -/
@[simp] theorem some_seq_some {α β : Type} (f : α → β) (a : α) :
    some f <*> some a = some (f a) :=
  rfl

/-! ## Tables -/

/-- A member with a part is no member without parts. -/
theorem Json.memberName?_tagged (name : String) {content : Json} (h : content ≠ .null) :
    (tagged name content).memberName? = none := by
  cases content with
  | null => exact absurd rfl h
  | _ => rfl

/-- A column type with arguments is read by its arguments. -/
theorem DataType.ofDocument?_tagged (name : String) {content : Json} (h : content ≠ .null) :
    ofDocument? (tagged name content) = ofArguments? name content := by
  rw [ofDocument?, memberName?_tagged name h]
  rfl

instance : LawfulDocument DataType where
  decode?_encode t := by
    cases t with
    | decimal p s =>
      refine (DataType.ofDocument?_tagged "Decimal" (by simp)).trans ?_
      simp [DataType.ofArguments?]
    | char n =>
      refine (DataType.ofDocument?_tagged "Char" (by simp [encode])).trans ?_
      simp [DataType.ofArguments?]
    | varchar n =>
      refine (DataType.ofDocument?_tagged "Varchar" (by simp [encode])).trans ?_
      simp [DataType.ofArguments?]
    | custom name =>
      refine (DataType.ofDocument?_tagged "Custom" (by simp [encode])).trans ?_
      simp [DataType.ofArguments?]
    | _ => rfl

instance : LawfulDocument TableColumn where
  decode?_encode c := by
    change recordFields? _ _ (.object _) >>= _ = _
    simp

instance : LawfulDocument TableExtension where
  decode?_encode
    | .onCommitPreserveRows _ => rfl

end SqlBuilder
