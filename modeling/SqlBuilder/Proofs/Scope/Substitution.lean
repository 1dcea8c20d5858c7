import SqlBuilder.Proofs.Rewrite.Statement
import SqlBuilder.Proofs.Scope.Definitions

/-!
# Variables written out

A query whose own definitions are sound can do without them: writing every variable out as the value
that it comes to, at every depth, and dropping the definitions changes nothing (`compile_inlined`).

Variables are replaced in two places, and both look out for cycles: values are followed to one that
is no variable (`Env.follow`), and written with everything in them replaced
(`Env.expandReference`).  For both, the induction is on the variables that are left to be replaced;
what is being replaced already is never met again, as none of it can be reached.
-/

namespace SqlBuilder

/-! ## Placeholders -/

namespace Env

variable {σ : String → Value} {expand expand' : String → Emit String}

mutual

/-- A value is written alike if the variables that it mentions are. -/
theorem placeholderWith_congr : ∀ v : Value, (∀ name ∈ v.mentioned, expand name = expand' name) →
    placeholderWith expand v = placeholderWith expand' v
  | .reference name, h => by
    rw [placeholderWith, placeholderWith]
    exact h name (by simp [Value.mentioned])
  | .array items, h => by
    rw [Value.mentioned] at h
    rw [placeholderWith, placeholderWith, placeholdersWith_congr items h]
  | .null, _ | .bool _, _ | .int _, _ | .float _, _ | .decimal _, _ | .text _, _ | .uuid _, _
  | .date _, _ | .time _, _ | .timestamp _, _ | .timestampUtc _, _ | .bytes _, _ | .json _, _
  | .literal _, _ => by
    rw [placeholderWith, placeholderWith] <;> simp

theorem placeholdersWith_congr : ∀ vs : List Value,
    (∀ name ∈ Value.mentionedOf vs, expand name = expand' name) →
      placeholdersWith expand vs = placeholdersWith expand' vs
  | [], _ => by rw [placeholdersWith, placeholdersWith]
  | v :: vs, h => by
    rw [Value.mentionedOf] at h
    rw [placeholdersWith, placeholdersWith,
      placeholderWith_congr v fun name hname => h name (List.mem_append_left _ hname),
      placeholdersWith_congr vs fun name hname => h name (List.mem_append_right _ hname)]

end

mutual

/-- Values in the places of variables are written as what the variables are written as. -/
theorem placeholderWith_substitute : ∀ v : Value, placeholderWith expand (v.substitute σ) =
    placeholderWith (fun name => placeholderWith expand (σ name)) v
  | .reference name => by rw [Value.substitute, placeholderWith]
  | .array items => by
    rw [Value.substitute, placeholderWith, placeholderWith, placeholdersWith_substituteAll items]
  | .literal _ => by rw [Value.substitute, placeholderWith, placeholderWith] <;> simp
  | .null | .bool _ | .int _ | .float _ | .decimal _ | .text _ | .uuid _ | .date _ | .time _
  | .timestamp _ | .timestampUtc _ | .bytes _ | .json _ => by
    rw [Value.substitute, placeholderWith, placeholderWith] <;> simp

theorem placeholdersWith_substituteAll : ∀ vs : List Value,
    placeholdersWith expand (Value.substituteAll σ vs) =
      placeholdersWith (fun name => placeholderWith expand (σ name)) vs
  | [] => by rw [Value.substituteAll, placeholdersWith, placeholdersWith]
  | v :: vs => by
    rw [Value.substituteAll, placeholdersWith, placeholdersWith, placeholderWith_substitute v,
      placeholdersWith_substituteAll vs]

end

end Env

/-! ## Following variables -/

namespace Env

/-- A value that is no variable is followed no further. -/
theorem follow_of_ne_reference {env : Env} {left : Nat} {seen : List String} {v : Value}
    (h : ∀ name, v ≠ .reference name) : env.follow left seen v = .ok v := by
  cases v with
  | reference name => exact absurd rfl (h name)
  | _ => rw [follow]; simp

theorem follow_reference (env : Env) (left : Nat) (seen : List String) (name : String) :
    env.follow (left + 1) seen (.reference name) =
      if name ∈ seen then .error (.variableCycle name)
      else env.resolve name >>= env.follow left (name :: seen) := by
  conv_lhs => unfold follow
  cases env.resolve name <;> rfl

/-- A value that another one is followed to is no variable. -/
theorem ne_reference_of_follow {env : Env} {left : Nat} {seen : List String} {v w : Value}
    (h : env.follow left seen v = .ok w) (name : String) : w ≠ .reference name := by
  fun_induction Env.follow env left seen v <;> simp_all

end Env

/-! ## Surroundings without the definitions -/

/-- The rewriting that writes the variables of some definitions out and drops the definitions. -/
def Rewriting.inlining (ds : Definitions) : Rewriting where
  value := Value.substitute ds.resolved
  definitions := ds.inlineIn

theorem Scope.lookup_inlining {ds : Definitions} {name : String} (h : ds.lookup name = none)
    (scope : Scope) : Scope.lookup ((Rewriting.inlining ds).scope scope) name =
      (scope.lookup name).map (Value.substitute ds.resolved) := by
  induction scope with
  | nil => rfl
  | cons definitions around ih =>
    rw [Rewriting.scope] at ih
    rw [Rewriting.scope, List.map_cons, Scope.lookup_cons, Scope.lookup_cons, ih, Option.map_or]
    rw [← Definitions.lookup_inlineIn_of_not_defined definitions h]
    rfl

/-- Inside of a query with the definitions, and of subqueries that define nothing: the surroundings
before and after the variables are written out. -/
structure Definitions.Around (ds : Definitions) (env env' : Env) : Prop where
  owned : ∀ name, env.owned name = ds.lookup name
  ownsNothing : ∀ name, env'.owned name = none
  inherited : ∀ name, ds.lookup name = none →
    env'.inherited name = (env.inherited name).map (Value.substitute ds.resolved)
  ctes : env'.ctes = env.ctes

namespace Definitions.Around

variable {ds : Definitions} {env env' : Env}

section Sound

variable {name : String} {v : Value} (h : ds.Around env env')

include h

theorem resolve_of_lookup (hlookup : ds.lookup name = some v) : env.resolve name = .ok v := by
  rw [Env.resolve, Env.lookup_eq_or, h.owned, hlookup]
  rfl

/-- A variable that is not written out has the same value, written out. -/
theorem resolve_of_not_defined (hlookup : ds.lookup name = none) :
    env'.resolve name = (env.resolve name).map (Value.substitute ds.resolved) := by
  rw [Env.resolve, Env.resolve, Env.lookup_eq_or, Env.lookup_eq_or, h.owned, h.ownsNothing,
    hlookup, h.inherited name hlookup, Option.none_or, Option.none_or]
  cases env.inherited name <;> rfl

variable (hacyclic : ds.Acyclic) (hclosed : ds.Closed)

include hacyclic hclosed

/-- A defined variable is written as what it comes to. -/
theorem expandReference_of_defined {expand : String → Emit String} {left : Nat}
    {resolving : List String} (hleft : (env.names.filter (· ∉ resolving)).length ≤ left)
    (hunreached : ds.Unreached resolving name) (hdefined : (ds.lookup name).isSome) :
    env.expandReference left resolving name =
      Env.placeholderWith expand (ds.resolved name) := by
  induction left generalizing resolving name with
  | zero =>
    obtain ⟨v, hlookup⟩ := Option.isSome_iff_exists.mp hdefined
    have hless := Env.length_free_lt (h.resolve_of_lookup hlookup) hunreached.not_mem
    omega
  | succ left ih =>
    obtain ⟨v, hlookup⟩ := Option.isSome_iff_exists.mp hdefined
    have hresolve := h.resolve_of_lookup hlookup
    have hless := Env.length_free_lt hresolve hunreached.not_mem
    rw [Env.expandReference_eq, if_neg hunreached.not_mem, hresolve, Emit.ofExcept_ok_bind,
      resolved_of_lookup hacyclic hlookup, Env.placeholderWith_substitute]
    exact Env.placeholderWith_congr v fun name' hname' =>
      ih (by omega)
        (hunreached.cons hacyclic ⟨v, hlookup, hname'⟩) (hclosed name v hlookup name' hname')

/-- A defined variable is followed to a value that comes to the same as the variable. -/
theorem follow_of_defined {left : Nat} {seen : List String}
    (hleft : (env.names.filter (· ∉ seen)).length ≤ left)
    (hunreached : ds.Unreached seen name) (hdefined : (ds.lookup name).isSome) :
    ∃ v, env.follow left seen (.reference name) = .ok v ∧
      v.substitute ds.resolved = ds.resolved name := by
  induction left generalizing seen name with
  | zero =>
    obtain ⟨v, hlookup⟩ := Option.isSome_iff_exists.mp hdefined
    have hless := Env.length_free_lt (h.resolve_of_lookup hlookup) hunreached.not_mem
    omega
  | succ left ih =>
    obtain ⟨v, hlookup⟩ := Option.isSome_iff_exists.mp hdefined
    have hresolve := h.resolve_of_lookup hlookup
    have hless := Env.length_free_lt hresolve hunreached.not_mem
    rw [Env.follow_reference, if_neg hunreached.not_mem, hresolve,
      resolved_of_lookup hacyclic hlookup]
    change ∃ w, env.follow left (name :: seen) v = .ok w ∧ _
    by_cases href : ∃ name', v = .reference name'
    · obtain ⟨name', rfl⟩ := href
      have hname' : name' ∈ (Value.reference name').mentioned := by simp [Value.mentioned]
      rw [Value.substitute]
      exact ih (by omega)
        (hunreached.cons hacyclic ⟨_, hlookup, hname'⟩) (hclosed name _ hlookup name' hname')
    · exact ⟨v, Env.follow_of_ne_reference fun name' hv => href ⟨name', hv⟩, rfl⟩

omit h hacyclic in
/-- Of the definitions, only one another can be reached. -/
theorem unreached_of_not_defined {taken : List String}
    (htaken : ∀ name ∈ taken, ds.lookup name = none) (hdefined : (ds.lookup name).isSome) :
    ds.Unreached taken name := by
  intro name' hreach hmem
  have hdefined' : (ds.lookup name').isSome := by
    induction hreach with
    | refl => exact hdefined
    | tail _ hmentions _ =>
      obtain ⟨v, hlookup, hname'⟩ := hmentions
      exact hclosed _ v hlookup _ hname'
  rw [htaken name' hmem] at hdefined'
  exact nomatch hdefined'

/-- **Placeholders.** A variable is written as what it comes to, where its definition is dropped. -/
theorem expandReference {left : Nat} {resolving : List String}
    (hleft : (env.names.filter (· ∉ resolving)).length ≤ left)
    (hresolving : ∀ name ∈ resolving, ds.lookup name = none) (name : String) :
    env.expandReference left resolving name =
      Env.placeholderWith (env'.expandReference left resolving) (ds.resolved name) := by
  cases hlookup : ds.lookup name with
  | some v =>
    have hdefined : (ds.lookup name).isSome := by simp [hlookup]
    exact h.expandReference_of_defined hacyclic hclosed hleft
      (unreached_of_not_defined hclosed hresolving hdefined) hdefined
  | none =>
    rw [resolved_of_not_defined hlookup, Env.placeholderWith]
    cases left with
    | zero =>
      unfold Env.expandReference
      rw [h.resolve_of_not_defined hlookup]
      cases env.resolve name <;> rfl
    | succ left =>
      rw [Env.expandReference_eq, Env.expandReference_eq, h.resolve_of_not_defined hlookup]
      by_cases hmem : name ∈ resolving
      · rw [if_pos hmem, if_pos hmem]
      · rw [if_neg hmem, if_neg hmem]
        cases hresolve : env.resolve name with
        | error e => rfl
        | ok v =>
          have hless := Env.length_free_lt hresolve hmem
          have hmore : ∀ name' ∈ name :: resolving, ds.lookup name' = none :=
            List.forall_mem_cons.mpr ⟨hlookup, hresolving⟩
          rw [Except.map, Emit.ofExcept_ok_bind, Emit.ofExcept_ok_bind,
            Env.placeholderWith_substitute]
          exact Env.placeholderWith_congr v fun name' _ => expandReference (by omega) hmore name'

/-- A defined variable is followed to a value that is written out as what it comes to. -/
theorem follow_resolved {left : Nat} {seen : List String}
    (hleft : (env.names.filter (· ∉ seen)).length ≤ left)
    (hseen : ∀ name ∈ seen, ds.lookup name = none) (hdefined : (ds.lookup name).isSome) :
    env'.follow left seen (ds.resolved name) =
      (env.follow left seen (.reference name)).map (Value.substitute ds.resolved) := by
  obtain ⟨v, hfollow, hv⟩ := h.follow_of_defined hacyclic hclosed hleft
    (unreached_of_not_defined hclosed hseen hdefined) hdefined
  have hvalue : ∀ name', ds.resolved name ≠ .reference name' := by
    intro name' hreference
    have hresolved := isClosed_resolved hacyclic hclosed hdefined
    rw [hreference, Value.isClosed] at hresolved
    exact nomatch hresolved
  rw [hfollow, Except.map, hv, Env.follow_of_ne_reference hvalue]

/-- **Followed values.** A value is followed to the value that it is followed to, written out. -/
theorem follow {left : Nat} {seen : List String}
    (hleft : (env.names.filter (· ∉ seen)).length ≤ left)
    (hseen : ∀ name ∈ seen, ds.lookup name = none) (v : Value) :
    env'.follow left seen (v.substitute ds.resolved) =
      (env.follow left seen v).map (Value.substitute ds.resolved) := by
  by_cases href : ∃ name, v = .reference name
  · obtain ⟨name, rfl⟩ := href
    rw [Value.substitute]
    cases hlookup : ds.lookup name with
    | some w => exact h.follow_resolved hacyclic hclosed hleft hseen (by simp [hlookup])
    | none =>
      rw [resolved_of_not_defined hlookup]
      cases left with
      | zero =>
        unfold Env.follow
        rw [h.resolve_of_not_defined hlookup]
        split
        · rfl
        · cases env.resolve name <;> rfl
      | succ left =>
        rw [Env.follow_reference, Env.follow_reference, h.resolve_of_not_defined hlookup]
        by_cases hmem : name ∈ seen
        · rw [if_pos hmem, if_pos hmem]
          rfl
        · rw [if_neg hmem, if_neg hmem]
          cases hresolve : env.resolve name with
          | error e => rfl
          | ok v =>
            have hless := Env.length_free_lt hresolve hmem
            have hmore : ∀ name' ∈ name :: seen, ds.lookup name' = none :=
              List.forall_mem_cons.mpr ⟨hlookup, hseen⟩
            exact follow (by omega) hmore v
  · have hvalue : ∀ name, v ≠ .reference name := fun name hv => href ⟨name, hv⟩
    rw [Env.follow_of_ne_reference hvalue,
      Env.follow_of_ne_reference (Value.substitute_of_ne_reference hvalue).1]
    rfl

end Sound

/-- Written out values are written as the values are. -/
theorem agrees (h : ds.Around env env') (hacyclic : ds.Acyclic) (hclosed : ds.Closed)
    (t : Target) : (Rewriting.inlining ds).Agrees t t env env' where
  placeholder v := by
    let bound := max env.names.length env'.names.length
    have hroom : (env.names.filter (· ∉ ([] : List String))).length ≤ bound :=
      Nat.le_trans (List.length_filter_le _ _) (Nat.le_max_left _ _)
    rw [Env.placeholder_of_le (Nat.le_max_left _ _ : _ ≤ bound),
      Env.placeholder_of_le (Nat.le_max_right _ _ : _ ≤ bound)]
    change Env.placeholderWith _ (v.substitute ds.resolved) = _
    rw [Env.placeholderWith_substitute]
    exact Env.placeholderWith_congr v fun name _ =>
      (h.expandReference hacyclic hclosed hroom (fun _ => nofun) name).symm
  resolveValue v := by
    let bound := max env.names.length env'.names.length
    have hroom : (env.names.filter (· ∉ ([] : List String))).length ≤ bound :=
      Nat.le_trans (List.length_filter_le _ _) (Nat.le_max_left _ _)
    rw [← Env.follow_of_le (Nat.le_max_left _ _ : _ ≤ bound),
      ← Env.follow_of_le (Nat.le_max_right _ _ : _ ≤ bound)]
    exact h.follow hacyclic hclosed hroom (fun _ => nofun) v
  asText? _ _ hfollow :=
    (Value.substitute_of_ne_reference (Env.ne_reference_of_follow hfollow)).2
  scalar _ := Value.substitute_scalar
  wrapTable table := by
    simp only [Rewriting.inlining, id, Env.wrapTable, Env.prefixed, h.ctes]

/-- The start of a query with the definitions. -/
theorem start {q : Query} (names : List String) :
    q.definitions.Around ⟨[q.scope], names⟩
      ⟨[(Rewriting.inlining q.definitions).scope q.scope], names⟩ where
  owned name := by
    rw [(Env.lookup_single rfl name).1]
    rfl
  ownsNothing name := by
    refine (Env.lookup_single rfl name).1.trans ?_
    change (q.definitions.inlineIn q.definitions).lookup name = none
    rw [inlineIn_self]
    rfl
  inherited name h := by
    rw [(Env.lookup_single rfl name).2.1, (Env.lookup_single rfl name).2.1,
      Scope.lookup_inlining h]
  ctes := rfl

/-- Queries that define nothing, or the same once more, change nothing about it. -/
theorem enter (h : ds.Around env env') {q : Query}
    (hq : q.definitions = [] ∨ q.definitions = ds) :
    ds.Around (env.enter q.scope) (env'.enter ((Rewriting.inlining ds).scope q.scope)) where
  owned name := by
    rw [QueryOver.scope, Env.owned_enter, h.owned]
    rcases hq with hq | hq
    · rw [hq]
      rfl
    · rw [hq, Option.or_self]
  ownsNothing name := by
    have hnothing : ds.inlineIn q.definitions = [] := by
      rcases hq with hq | hq
      · rw [hq]
        rfl
      · rw [hq, inlineIn_self]
    change (env'.enter (ds.inlineIn q.definitions :: _)).owned name = none
    rw [Env.owned_enter, hnothing, h.ownsNothing]
    rfl
  inherited name hname := by
    rw [Env.inherited_enter, Env.inherited_enter, Scope.lookup_inlining hname,
      h.inherited name hname, Option.map_or]
  ctes := h.ctes

end Definitions.Around

/-! ## Queries -/

/-- The query with its variables written out and without their definitions. -/
def Query.inlined (q : Query) : Query :=
  Query.rewrite (.inlining q.definitions) q

/-- The values of the query, those of its subqueries not included, mention defined variables only. -/
def Query.CoveredBy (ds : Definitions) (q : Query) : Prop :=
  ∀ v ∈ Clauses.values q.clauses, ∀ name ∈ v.mentioned, (ds.lookup name).isSome

/-- The values of the query, those of its subqueries not included, mention no variables. -/
def Query.IsClosed (q : Query) : Prop :=
  ∀ v ∈ Clauses.values q.clauses, v.isClosed

/-- With all of its variables defined, none is left when they are written out. -/
theorem Query.CoveredBy.isClosed {ds : Definitions} (hacyclic : ds.Acyclic) (hclosed : ds.Closed)
    {q : Query} (h : q.CoveredBy ds) : Query.IsClosed (Query.rewrite (.inlining ds) q) := by
  intro v hv
  rw [Query.values_rewrite] at hv
  obtain ⟨v, hmem, rfl⟩ := List.mem_map.mp hv
  exact Value.isClosed_substitute v fun name hname =>
    Definitions.isClosed_resolved hacyclic hclosed (h v hmem name hname)

/-- **Variables.** With definitions that are sound, and subqueries that define nothing, a query is
compiled as it is with its variables written out: what each one comes to in its place, so that no
variable is left if all are defined, and no definition. -/
theorem compile_inlined {q : Query} (hacyclic : q.definitions.Acyclic)
    (hclosed : q.definitions.Closed)
    (hnested : ∀ s ∈ q.subqueries, s.Everywhere (·.definitions = [])) (t : Target) :
    compile t q.inlined = compile t q ∧ q.inlined.definitions = [] ∧
      (∀ name v, q.definitions.lookup name = some v →
        q.definitions.resolved name = v.substitute q.definitions.resolved) ∧
      (Subquery.Everywhere (Query.CoveredBy q.definitions) ⟨q⟩ →
        Subquery.Everywhere Query.IsClosed ⟨q.inlined⟩) := by
  have hsound : Rewriting.Sound (.inlining q.definitions) t t
      (fun q' => q'.definitions = [] ∨ q'.definitions = q.definitions) q.definitions.Around :=
    ⟨.refl t, fun h => h.agrees hacyclic hclosed t, fun hq h => h.enter hq⟩
  have heverywhere : Subquery.Everywhere
      (fun q' => q'.definitions = [] ∨ q'.definitions = q.definitions) ⟨q⟩ :=
    .mk (.inr rfl) fun s hs => (hnested s hs).imp fun _ => .inl
  have hrender := hsound.method heverywhere
    (fun c _ => DeclaredCte.alias?_rewrite (.inr fun _ => rfl)) (.start _)
    (.inr ⟨⟨fun _ => rfl, rfl⟩, .start _⟩)
  have herror : q.inlined.error = q.error := rfl
  refine ⟨?_, Definitions.inlineIn_self _, fun name v => Definitions.resolved_of_lookup hacyclic,
    fun hcovered => ?_⟩
  case refine_2 =>
    rw [Query.inlined, ← Subquery.rewrite_mk]
    exact hcovered.rewrite fun q hq => hq.isClosed hacyclic hclosed
  rw [Query.inlined] at herror
  simp only [compile, Query.inlined, hrender, herror]

/-- A chain of variables through an array, in a condition of the query and of a subquery. -/
theorem compile_inlined_chain :
    let t : Target := { dialect := .generic }
    let ds : Definitions :=
      [("x", .reference "y"), ("y", .array [.reference "z", .int 2]), ("z", .int 1)]
    let rows : Query :=
      { clauses :=
          [⟨.source, none, .source (.table "t")⟩,
            ⟨.filter, none, .condition { kind := .compare "b" .eq (.reference "z") }⟩]
        aliasName := some "s"
        parent := [ds] }
    let q : Query :=
      { clauses :=
          [⟨.source, none, .source (.query ⟨rows⟩)⟩,
            ⟨.filter, none, .condition { kind := .inList "a" [.reference "x", .int 3] }⟩]
        definitions := ds }
    q.definitions.Acyclic ∧ q.definitions.Closed ∧
      (∀ s ∈ q.subqueries, s.Everywhere (·.definitions = [])) ∧
      Subquery.Everywhere (Query.CoveredBy q.definitions) ⟨q⟩ ∧
      compile t q.inlined = compile t q ∧ q.inlined.definitions = [] ∧
        Subquery.Everywhere Query.IsClosed ⟨q.inlined⟩ ∧
        (compile t q).toOption.map (fun c => (c.rawSql, c.bindings.map Value.display)) =
          some ("SELECT * FROM (SELECT * FROM \"t\" WHERE \"b\" = ?) AS \"s\" " ++
            "WHERE \"a\" IN (?, ?, ?)", ["1", "1", "2", "3"]) := by
  intro t ds rows q
  let rank (name : String) : Nat := if name = "x" then 2 else if name = "y" then 1 else 0
  have hacyclic : q.definitions.Acyclic := .of_rank rank (by decide +kernel)
  have hclosed : q.definitions.Closed := .of_mem (by decide +kernel)
  have hrows : ∀ s ∈ q.subqueries, s = ⟨rows⟩ := fun s hs => List.mem_singleton.mp hs
  have hnested : ∀ s ∈ q.subqueries, s.Everywhere (·.definitions = []) := by
    intro s hs
    rw [hrows s hs]
    exact .mk rfl fun s hs => absurd hs List.not_mem_nil
  have hcovered : Subquery.Everywhere (Query.CoveredBy q.definitions) ⟨q⟩ := by
    have hown : q.CoveredBy q.definitions := by
      unfold Query.CoveredBy
      decide +kernel
    have hinner : rows.CoveredBy q.definitions := by
      unfold Query.CoveredBy
      decide +kernel
    refine .mk hown fun s hs => ?_
    rw [hrows s hs]
    exact .mk hinner fun s hs => absurd hs List.not_mem_nil
  obtain ⟨hcompile, hdropped, -, hvariables⟩ := compile_inlined hacyclic hclosed hnested t
  exact ⟨hacyclic, hclosed, hnested, hcovered, hcompile, hdropped, hvariables hcovered,
    by decide +kernel⟩

end SqlBuilder
