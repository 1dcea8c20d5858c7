import SqlBuilder.Proofs.Insert.Layout
import SqlBuilder.Proofs.Scope.Expansion

/-!
# The operands that a value is written as

A value without variables is written as a list of operands with commas between them: a placeholder
for each value that is bound, and its literals (`Value.operands`).  An array is written as the
operands of its items, one after another, so that nothing of its shape is left; an empty array and
an empty literal are written as none.  A value with variables is written as what is left when all
of them are replaced (`Env.operands`), and a list of values as the operands of them all
(`Env.placeholders_operands`).
-/

namespace SqlBuilder

/-! ## Lists of operands -/

theorem String.intercalate_ne_empty {sep s : String} (hs : s ≠ "") (parts : List String) :
    String.intercalate sep (s :: parts) ≠ "" := by
  cases parts with
  | nil => simpa using hs
  | cons s' parts =>
    rw [String.intercalate_cons_cons]
    simp [hs]

/-- Lists that are not empty, written one after another, are written as one list. -/
theorem String.intercalate_flatten {sep : String} {lists : List (List String)}
    (h : ∀ parts ∈ lists, parts ≠ []) :
    String.intercalate sep (lists.map (String.intercalate sep)) =
      String.intercalate sep lists.flatten := by
  induction lists with
  | nil => rfl
  | cons parts lists ih =>
    obtain ⟨hparts, hlists⟩ := List.forall_mem_cons.mp h
    cases lists with
    | nil => simp
    | cons parts' lists =>
      have hrest : (parts' :: lists).flatten ≠ [] := by
        simp [(List.forall_mem_cons.mp hlists).1]
      calc String.intercalate sep ((parts :: parts' :: lists).map (String.intercalate sep))
          = String.intercalate sep parts ++ sep ++
              String.intercalate sep ((parts' :: lists).map (String.intercalate sep)) :=
            String.intercalate_cons_of_ne_nil (by simp)
        _ = String.intercalate sep parts ++ sep ++
              String.intercalate sep (parts' :: lists).flatten := by rw [ih hlists]
        _ = String.intercalate sep (parts :: parts' :: lists).flatten :=
            (String.intercalate_append_of_ne_nil hparts hrest).symm

/-- Lists of operands, written one after another without those that are empty, are written as one
list. -/
theorem Env.commaList_intercalate {lists : List (List String)}
    (h : ∀ operands ∈ lists, "" ∉ operands) :
    commaList (lists.map (String.intercalate ", ")) = String.intercalate ", " lists.flatten := by
  have hempty : ∀ operands ∈ lists,
      (!(String.intercalate ", " operands).isEmpty) = !operands.isEmpty := by
    intro operands hmem
    cases operands with
    | nil => rfl
    | cons s operands =>
      have hs : s ≠ "" := fun hs => h _ hmem (by simp [hs])
      simpa using String.intercalate_ne_empty hs operands
  rw [commaList, List.filter_map, List.filter_congr (q := fun operands => !operands.isEmpty) hempty,
    String.intercalate_flatten (by simp), List.flatten_filter_not_isEmpty]

/-! ## Operands of values -/

namespace Value

mutual

/-- What a value without variables is written as, between commas: a placeholder for what is bound,
and its literals, if they are not empty. -/
def operands : Value → List String
  | array items => operandsOf items
  | literal sql => if sql.isEmpty then [] else [sql]
  | _ => ["?"]

/-- What a list of values without variables is written as, between commas. -/
def operandsOf : List Value → List String
  | [] => []
  | v :: vs => v.operands ++ operandsOf vs

end

theorem operandsOf_eq_flatMap (vs : List Value) : operandsOf vs = vs.flatMap operands := by
  induction vs with
  | nil => rfl
  | cons v vs ih => rw [operandsOf, List.flatMap_cons, ih]

/-- No operand is empty. -/
theorem empty_not_mem_operands (v : Value) : "" ∉ v.operands := by
  induction v using items_induction with
  | array items ih =>
    rw [operands, operandsOf_eq_flatMap, List.mem_flatMap]
    rintro ⟨v, hv, hmem⟩
    exact ih v hv hmem
  | other v h =>
    cases v with
    | array items => exact absurd rfl (h items)
    | literal sql =>
      rw [operands]
      split
      · exact List.not_mem_nil
      · rename_i hsql
        exact fun hmem => hsql (by simp [← List.mem_singleton.mp hmem])
    | _ => simp [operands]

/-- A value that is no array and no empty literal is written as one operand. -/
theorem operands_eq_singleton {v : Value} (harray : ∀ items, v ≠ array items)
    (hliteral : v ≠ literal "") : ∃ s, v.operands = [s] := by
  cases v with
  | array items => exact absurd rfl (harray items)
  | literal sql =>
    have hsql : sql.isEmpty = false := by
      simpa using fun h : sql = "" => hliteral (by rw [h])
    exact ⟨sql, by rw [operands, hsql]; rfl⟩
  | _ => exact ⟨"?", rfl⟩

end Value

/-- Parts that can have one result only have the list of these results. -/
theorem Emit.mapM_outcome {α β : Type} {f : α → Emit β} {g : α → β} {xs : List α} {ys : List β}
    (hf : ∀ x ∈ xs, ∀ y, (f x).outcome = .ok y → y = g x) (h : (xs.mapM f).outcome = .ok ys) :
    ys = xs.map g := by
  induction xs generalizing ys with
  | nil => exact (Except.ok.inj h).symm
  | cons x xs ih =>
    obtain ⟨hx, hxs⟩ := List.forall_mem_cons.mp hf
    rw [List.mapM_cons] at h
    obtain ⟨y, hy, h⟩ := of_bind_ok h
    obtain ⟨ys', hys', h⟩ := of_bind_ok h
    obtain rfl := Except.ok.inj h
    rw [hx y hy, ih hxs hys', List.map_cons]

namespace Env

variable {env : Env} {v : Value}

/-- A value without variables is always written: as its operands. -/
theorem placeholderWith_operands {expand : String → Emit String} (hclosed : v.isClosed) :
    placeholderWith expand v = ⟨v.scalars, .ok (String.intercalate ", " v.operands)⟩ := by
  induction v using Value.items_induction with
  | array items ih =>
    rw [Value.isClosed, Value.areClosed_iff] at hclosed
    have hitems : placeholdersWith expand items = ⟨items.flatMap Value.scalars,
        .ok (items.map fun v => String.intercalate ", " v.operands)⟩ := by
      rw [placeholdersWith_eq_mapM]
      exact Emit.mapM_of_forall fun v hv => ih v hv (hclosed v hv)
    have hlists : commaList (items.map fun v => String.intercalate ", " v.operands) =
        String.intercalate ", " (items.flatMap Value.operands) := by
      have hnone : ∀ operands ∈ items.map Value.operands, "" ∉ operands :=
        List.forall_mem_map.mpr fun v _ => v.empty_not_mem_operands
      have hflatten := commaList_intercalate hnone
      rwa [List.map_map] at hflatten
    rw [placeholderWith, hitems, Value.scalars, Value.operands, Value.scalarsOf_eq_flatMap,
      Value.operandsOf_eq_flatMap, ← hlists]
    simp only [Emit.bind_mk, Emit.bindings_pure, Emit.outcome_pure, List.append_nil]
  | other v h =>
    cases v with
    | array items => exact absurd rfl (h items)
    | reference name => simp [Value.isClosed] at hclosed
    | literal sql =>
      have htext : String.intercalate ", " (Value.operands (.literal sql)) = sql := by
        rw [Value.operands]
        split <;> simp_all
      rw [htext, placeholderWith, Value.scalars]
      rfl
    | _ => rw [placeholderWith, Value.scalars, Value.operands] <;> first | rfl | simp

/-- What a value is written as, between commas: the operands of what is left of it when all of its
variables are replaced. -/
def operands (env : Env) (v : Value) : List String :=
  (env.replaced^[env.names.length] v).operands

/-- No operand is empty. -/
theorem empty_not_mem_operands (env : Env) (v : Value) : "" ∉ env.operands v :=
  Value.empty_not_mem_operands _

/-- A value that is written is written as its operands. -/
theorem placeholder_operands {s : String} (h : (env.placeholder v).outcome = .ok s) :
    s = String.intercalate ", " (env.operands v) := by
  have hok : ∃ s, (env.placeholderIn [] v).outcome = .ok s := ⟨s, h⟩
  obtain ⟨hclosed, hplaceholder⟩ := placeholderIn_iterate hok (List.length_filter_le _ _)
  have hwritten : env.placeholder v = ⟨_, .ok (String.intercalate ", " (env.operands v))⟩ :=
    hplaceholder.trans (placeholderWith_operands hclosed)
  rw [hwritten] at h
  exact (Except.ok.inj h).symm

/-- A list of values that is written is written as the operands of them all. -/
theorem placeholders_operands {vs : List Value} {s : String}
    (h : (env.placeholders vs).outcome = .ok s) :
    s = String.intercalate ", " (vs.flatMap env.operands) := by
  obtain ⟨parts, hparts, hs⟩ := Emit.of_bind_ok h
  have hparts : parts = vs.map fun v => String.intercalate ", " (env.operands v) :=
    Emit.mapM_outcome (fun _ _ _ => placeholder_operands) hparts
  have hnone : ∀ operands ∈ vs.map env.operands, "" ∉ operands :=
    List.forall_mem_map.mpr fun v _ => env.empty_not_mem_operands v
  have hflatten := commaList_intercalate hnone
  rw [List.map_map] at hflatten
  rw [hparts] at hs
  exact (Except.ok.inj hs).symm.trans hflatten

end Env

end SqlBuilder
