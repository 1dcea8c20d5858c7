import Mathlib.Logic.Relation
import SqlBuilder.Proofs.Scope.Lookup

/-!
# What variables come to

Definitions are sound if they mention no variables but one another (`Definitions.Closed`) and no
variable comes back to itself (`Definitions.Acyclic`).  Every variable of sound definitions comes to
a value without variables (`Definitions.isClosed_resolved`): its own value, with what the variables
in it come to written in their places (`Definitions.resolved_of_lookup`).

The induction is on the variables that are not taken up yet.  One that is taken up cannot be reached
again from the variables that its value mentions (`Definitions.Unreached`).
-/

namespace SqlBuilder

/-! ## Substitution -/

namespace Value

mutual

/-- Writes values in the places of the variables. -/
def substitute (σ : String → Value) : Value → Value
  | reference name => σ name
  | array items => array (substituteAll σ items)
  | v => v

/-- Writes values in the places of the variables of a list. -/
def substituteAll (σ : String → Value) : List Value → List Value
  | [] => []
  | v :: vs => v.substitute σ :: substituteAll σ vs

end

mutual

/-- The variables that a value mentions. -/
def mentioned : Value → List String
  | reference name => [name]
  | array items => mentionedOf items
  | _ => []

/-- The variables that a list of values mentions. -/
def mentionedOf : List Value → List String
  | [] => []
  | v :: vs => v.mentioned ++ mentionedOf vs

end

variable {σ σ' : String → Value}

/-- Only a variable stands for something else. -/
theorem substitute_of_ne_reference {v : Value} (h : ∀ name, v ≠ reference name) :
    (∀ name, v.substitute σ ≠ reference name) ∧ (v.substitute σ).asText? = v.asText? := by
  cases v with
  | reference name => exact absurd rfl (h name)
  | _ => rw [substitute] <;> simp [asText?]

theorem substitute_scalar {v : Value} (h : v.IsScalar) : v.substitute σ = v := by
  cases v with
  | array | reference | literal => exact h.elim
  | _ => rw [substitute] <;> simp

mutual

theorem substitute_congr : ∀ v : Value, (∀ name ∈ v.mentioned, σ name = σ' name) →
    v.substitute σ = v.substitute σ'
  | .reference name, h => by
    rw [substitute, substitute]
    exact h name (by simp [mentioned])
  | .array items, h => by
    rw [mentioned] at h
    rw [substitute, substitute, substituteAll_congr items h]
  | .null, _ | .bool _, _ | .int _, _ | .float _, _ | .decimal _, _ | .text _, _ | .uuid _, _
  | .date _, _ | .time _, _ | .timestamp _, _ | .timestampUtc _, _ | .bytes _, _ | .json _, _
  | .literal _, _ => by
    rw [substitute, substitute] <;> simp

theorem substituteAll_congr : ∀ vs : List Value, (∀ name ∈ mentionedOf vs, σ name = σ' name) →
    substituteAll σ vs = substituteAll σ' vs
  | [], _ => by rw [substituteAll, substituteAll]
  | v :: vs, h => by
    rw [mentionedOf] at h
    rw [substituteAll, substituteAll,
      substitute_congr v fun name hname => h name (List.mem_append_left _ hname),
      substituteAll_congr vs fun name hname => h name (List.mem_append_right _ hname)]

end

mutual

/-- With closed values in the places of its variables, a value mentions none. -/
theorem isClosed_substitute : ∀ v : Value, (∀ name ∈ v.mentioned, (σ name).isClosed) →
    (v.substitute σ).isClosed
  | .reference name, h => by
    rw [substitute]
    exact h name (by simp [mentioned])
  | .array items, h => by
    rw [mentioned] at h
    rw [substitute, isClosed, areClosed_substituteAll items h]
  | .null, _ | .bool _, _ | .int _, _ | .float _, _ | .decimal _, _ | .text _, _ | .uuid _, _
  | .date _, _ | .time _, _ | .timestamp _, _ | .timestampUtc _, _ | .bytes _, _ | .json _, _
  | .literal _, _ => by
    rw [substitute] <;> simp [isClosed]

theorem areClosed_substituteAll : ∀ vs : List Value,
    (∀ name ∈ mentionedOf vs, (σ name).isClosed) → areClosed (substituteAll σ vs)
  | [], _ => by rw [substituteAll, areClosed]
  | v :: vs, h => by
    rw [mentionedOf] at h
    rw [substituteAll, areClosed,
      isClosed_substitute v fun name hname => h name (List.mem_append_left _ hname),
      areClosed_substituteAll vs fun name hname => h name (List.mem_append_right _ hname)]
    rfl

end

end Value

/-! ## Sound definitions -/

namespace Definitions

/-- The value that is defined for the first variable mentions the second one. -/
def Mentions (ds : Definitions) (name name' : String) : Prop :=
  ∃ v, ds.lookup name = some v ∧ name' ∈ v.mentioned

/-- No variable comes back to itself. -/
def Acyclic (ds : Definitions) : Prop :=
  ∀ name, ¬Relation.TransGen ds.Mentions name name

/-- The variables that the definitions mention are defined by them. -/
def Closed (ds : Definitions) : Prop :=
  ∀ name v, ds.lookup name = some v → ∀ name' ∈ v.mentioned, (ds.lookup name').isSome

/-- A variable with the variables in its value replaced, `depth` times over. -/
def expand (ds : Definitions) : Nat → String → Value
  | 0, name => .reference name
  | depth + 1, name =>
    match ds.lookup name with
    | some v => v.substitute (ds.expand depth)
    | none => .reference name

/-- What a variable comes to.  Not more variables can be on the way than there are definitions. -/
def resolved (ds : Definitions) : String → Value :=
  ds.expand ds.length

/-- From the variable, none of the names can be reached. -/
def Unreached (ds : Definitions) (taken : List String) (name : String) : Prop :=
  ∀ name', Relation.ReflTransGen ds.Mentions name name' → name' ∉ taken

variable {ds : Definitions} {taken : List String} {name name' : String} {v : Value}

theorem Unreached.not_mem (h : ds.Unreached taken name) : name ∉ taken :=
  h name .refl

/-- Without cycles, a variable that is taken up cannot be reached from those that it mentions. -/
theorem Unreached.cons (hacyclic : ds.Acyclic) (h : ds.Unreached taken name)
    (hmentions : ds.Mentions name name') : ds.Unreached (name :: taken) name' := by
  intro name'' hreach hmem
  rcases List.mem_cons.mp hmem with rfl | hmem
  · exact hacyclic name'' (.head' hmentions hreach)
  · exact h name'' (.head hmentions hreach) hmem

theorem mem_of_lookup (h : ds.lookup name = some v) : (name, v) ∈ ds := by
  obtain ⟨before, after, rfl, -⟩ := List.lookup_eq_some_iff.mp h
  simp

theorem mem_names_of_lookup (h : ds.lookup name = some v) : name ∈ ds.map Prod.fst :=
  List.mem_map_of_mem (mem_of_lookup h)

/-- Definitions that only mention variables of a lower rank have no cycles. -/
theorem Acyclic.of_rank (rank : String → Nat)
    (h : ∀ d ∈ ds, ∀ name ∈ d.2.mentioned, rank name < rank d.1) : ds.Acyclic := by
  intro name hcycle
  have hlower : ∀ name', Relation.TransGen ds.Mentions name name' → rank name' < rank name := by
    intro name' hreach
    induction hreach with
    | single hmentions =>
      obtain ⟨v, hlookup, hname⟩ := hmentions
      exact h _ (mem_of_lookup hlookup) _ hname
    | tail _ hmentions ih =>
      obtain ⟨v, hlookup, hname⟩ := hmentions
      exact Nat.lt_trans (h _ (mem_of_lookup hlookup) _ hname) ih
  exact Nat.lt_irrefl _ (hlower name hcycle)

theorem Closed.of_mem (h : ∀ d ∈ ds, ∀ name ∈ d.2.mentioned, (ds.lookup name).isSome) :
    ds.Closed :=
  fun _ _ hlookup name hname => h _ (mem_of_lookup hlookup) name hname

theorem expand_of_not_defined (h : ds.lookup name = none) (depth : Nat) :
    ds.expand depth name = .reference name := by
  cases depth with
  | zero => rfl
  | succ depth => rw [expand, h]

theorem length_free_le (ds : Definitions) (taken : List String) :
    ((ds.map Prod.fst).filter (· ∉ taken)).length ≤ ds.length := by
  have hlength : (ds.map Prod.fst).length = ds.length := List.length_map _
  rw [← hlength]
  exact List.length_filter_le _ _

/-- A depth that leaves room for the names that are not taken makes no difference. -/
theorem expand_succ (hacyclic : ds.Acyclic) {depth : Nat}
    (hdepth : ((ds.map Prod.fst).filter (· ∉ taken)).length ≤ depth)
    (h : ds.Unreached taken name) : ds.expand (depth + 1) name = ds.expand depth name := by
  induction depth generalizing taken name with
  | zero =>
    cases hlookup : ds.lookup name with
    | none => rw [expand_of_not_defined hlookup, expand_of_not_defined hlookup]
    | some v =>
      have hless := length_free_cons_lt (mem_names_of_lookup hlookup) h.not_mem
      omega
  | succ depth ih =>
    rw [expand, expand]
    cases hlookup : ds.lookup name with
    | none => rfl
    | some v =>
      have hless := length_free_cons_lt (mem_names_of_lookup hlookup) h.not_mem
      exact Value.substitute_congr v fun name' hname' =>
        ih (by omega) (h.cons hacyclic ⟨v, hlookup, hname'⟩)

/-- A variable comes to its value, with the variables in it replaced by what they come to. -/
theorem resolved_of_lookup (hacyclic : ds.Acyclic) (h : ds.lookup name = some v) :
    ds.resolved name = v.substitute ds.resolved := by
  have hsucc : ds.expand (ds.length + 1) name = ds.expand ds.length name :=
    expand_succ hacyclic (ds.length_free_le []) fun _ _ => List.not_mem_nil
  rw [expand, h] at hsucc
  exact hsucc.symm

theorem resolved_of_not_defined (h : ds.lookup name = none) :
    ds.resolved name = .reference name :=
  expand_of_not_defined h _

theorem isClosed_expand (hacyclic : ds.Acyclic) (hclosed : ds.Closed) {depth : Nat}
    (hdepth : ((ds.map Prod.fst).filter (· ∉ taken)).length ≤ depth)
    (h : ds.Unreached taken name) (hdefined : (ds.lookup name).isSome) :
    (ds.expand depth name).isClosed := by
  induction depth generalizing taken name with
  | zero =>
    obtain ⟨v, hlookup⟩ := Option.isSome_iff_exists.mp hdefined
    have hless := length_free_cons_lt (mem_names_of_lookup hlookup) h.not_mem
    omega
  | succ depth ih =>
    obtain ⟨v, hlookup⟩ := Option.isSome_iff_exists.mp hdefined
    have hless := length_free_cons_lt (mem_names_of_lookup hlookup) h.not_mem
    rw [expand, hlookup]
    exact Value.isClosed_substitute v fun name' hname' =>
      ih (by omega) (h.cons hacyclic ⟨v, hlookup, hname'⟩)
        (hclosed name v hlookup name' hname')

/-- What a defined variable comes to mentions no variable. -/
theorem isClosed_resolved (hacyclic : ds.Acyclic) (hclosed : ds.Closed)
    (hdefined : (ds.lookup name).isSome) : (ds.resolved name).isClosed := by
  exact isClosed_expand hacyclic hclosed (ds.length_free_le []) (fun _ _ => List.not_mem_nil)
    hdefined

/-- Variables written out in other definitions; those of the variables themselves are dropped. -/
def inlineIn (ds : Definitions) (others : Definitions) : Definitions :=
  (others.filter fun d => (ds.lookup d.1).isNone).map fun d => (d.1, d.2.substitute ds.resolved)

theorem lookup_inlineIn_of_not_defined (others : Definitions) (h : ds.lookup name = none) :
    (ds.inlineIn others).lookup name = (others.lookup name).map (Value.substitute ds.resolved) := by
  induction others with
  | nil => rfl
  | cons d others ih =>
    obtain ⟨name', v⟩ := d
    rw [inlineIn] at ih ⊢
    by_cases hname : name = name'
    · subst hname
      simp [h]
    · have hbeq : (name == name') = false := by simpa using hname
      rw [List.lookup_cons, hbeq, List.filter_cons]
      split
      · rw [List.map_cons, List.lookup_cons, hbeq]
        exact ih
      · exact ih

theorem inlineIn_self (ds : Definitions) : ds.inlineIn ds = [] := by
  rw [inlineIn, List.map_eq_nil_iff, List.filter_eq_nil_iff]
  intro d hd hnone
  rw [Option.isNone_iff_eq_none, List.lookup_eq_none_iff] at hnone
  simpa using hnone d hd

end Definitions

end SqlBuilder
