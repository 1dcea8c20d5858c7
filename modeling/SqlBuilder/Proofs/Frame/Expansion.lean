import SqlBuilder.Proofs.Frame.Value

/-!
# Values without a bound

A variable is replaced by what it stands for with a number that bounds how many more variables there
can be on the way.  The bound is never met: every variable on the way is one of the names that are
defined and not yet being replaced, of which there is one fewer after each step
(`Env.expandReference_succ`).  So a value is written as the recursion over variables and arrays says
that looks out for cycles only (`Rendering.parameter_eq`).
-/

namespace SqlBuilder

/-- Taking one more name leaves fewer that are not taken. -/
theorem length_free_cons_lt {names taken : List String} {name : String} (hname : name ∈ names)
    (htaken : name ∉ taken) :
    (names.filter (· ∉ name :: taken)).length < (names.filter (· ∉ taken)).length := by
  have hsplit : names.filter (· ∉ name :: taken) =
      (names.filter (· ∉ taken)).filter (· ≠ name) := by
    rw [List.filter_filter]
    refine List.filter_congr fun n _ => ?_
    simp
  have hfree : name ∈ names.filter (· ∉ taken) :=
    List.mem_filter.mpr ⟨hname, by simpa using htaken⟩
  rw [hsplit]
  exact List.length_filter_lt_length_iff_exists.mpr ⟨name, hfree, by simp⟩

namespace Env

/-- A variable that has a value is among the names. -/
theorem mem_names_of_resolve {env : Env} {name : String} {v : Value}
    (h : env.resolve name = .ok v) : name ∈ env.names := by
  have hdefined : ∀ {definitions : Definitions} {w : Value},
      definitions.lookup name = some w → name ∈ definitions.map Prod.fst := by
    intro definitions w hw
    obtain ⟨before, after, rfl, -⟩ := List.lookup_eq_some_iff.mp hw
    simp
  suffices hmem : ∃ scope ∈ env.scopes, ∃ definitions ∈ scope, name ∈ definitions.map Prod.fst by
    obtain ⟨scope, hscope, definitions, hdefinitions, hname⟩ := hmem
    obtain ⟨pair, hpair, rfl⟩ := List.mem_map.mp hname
    rw [names, List.mem_eraseDups]
    refine List.mem_map_of_mem ?_
    exact List.mem_flatten_of_mem (List.mem_flatten_of_mem hscope hdefinitions) hpair
  cases hlookup : env.lookup name with
  | none =>
    rw [resolve, hlookup] at h
    exact nomatch h
  | some w =>
    unfold lookup at hlookup
    rw [Option.orElse_eq_orElse, Option.orElse_eq_or, Option.or_eq_some_iff] at hlookup
    obtain howned | ⟨-, hinherited⟩ := hlookup
    · obtain ⟨scope, hscope, hhead⟩ := List.exists_of_findSome?_eq_some howned
      obtain ⟨definitions, hdefinitions, hw⟩ := Option.bind_eq_some_iff.mp hhead
      exact ⟨scope, hscope, definitions, List.mem_of_mem_head? hdefinitions, hdefined hw⟩
    · obtain ⟨scope, hscope, hlookup⟩ := List.exists_of_findSome?_eq_some hinherited
      obtain ⟨definitions, hdefinitions, hw⟩ := List.exists_of_findSome?_eq_some hlookup
      exact ⟨scope, hscope, definitions, hdefinitions, hdefined hw⟩

/-- A defined name that is taken up leaves fewer that are not. -/
theorem length_free_lt {env : Env} {name : String} {v : Value} {taken : List String}
    (hresolve : env.resolve name = .ok v) (hmem : name ∉ taken) :
    (env.names.filter (· ∉ name :: taken)).length < (env.names.filter (· ∉ taken)).length :=
  length_free_cons_lt (mem_names_of_resolve hresolve) hmem

/-- **The bound is none.** As long as it leaves room for the names that are not being replaced, the
number that bounds how many more variables there can be makes no difference. -/
theorem expandReference_succ {env : Env} {left : Nat} {resolving : List String}
    (hleft : (env.names.filter (· ∉ resolving)).length ≤ left) (name : String) :
    env.expandReference (left + 1) resolving name = env.expandReference left resolving name := by
  induction left generalizing resolving name with
  | zero =>
    unfold expandReference
    by_cases hmem : name ∈ resolving
    · rw [if_pos hmem, if_pos hmem]
    · rw [if_neg hmem, if_neg hmem]
      cases hresolve : env.resolve name with
      | error e => rfl
      | ok v =>
        have hless := length_free_lt hresolve hmem
        omega
  | succ left ih =>
    unfold expandReference
    by_cases hmem : name ∈ resolving
    · rw [if_pos hmem, if_pos hmem]
    · rw [if_neg hmem, if_neg hmem]
      cases hresolve : env.resolve name with
      | error e => rfl
      | ok v =>
        have hless := length_free_lt hresolve hmem
        have hfewer : (env.names.filter (· ∉ name :: resolving)).length ≤ left := by omega
        dsimp only
        rw [funext (ih hfewer)]

/-- The bound on following a variable is none either. -/
theorem follow_succ {env : Env} {left : Nat} {seen : List String}
    (hleft : (env.names.filter (· ∉ seen)).length ≤ left) (v : Value) :
    env.follow (left + 1) seen v = env.follow left seen v := by
  induction left generalizing seen v with
  | zero =>
    cases v with
    | reference name =>
      unfold follow
      by_cases hmem : name ∈ seen
      · rw [if_pos hmem, if_pos hmem]
      · rw [if_neg hmem, if_neg hmem]
        cases hresolve : env.resolve name with
        | error e => rfl
        | ok w =>
          have hless := length_free_lt hresolve hmem
          omega
    | _ => rfl
  | succ left ih =>
    cases v with
    | reference name =>
      unfold follow
      by_cases hmem : name ∈ seen
      · rw [if_pos hmem, if_pos hmem]
      · rw [if_neg hmem, if_neg hmem]
        cases hresolve : env.resolve name with
        | error e => rfl
        | ok w =>
          have hless := length_free_lt hresolve hmem
          exact ih (by omega) w
    | _ => rfl

end Env

namespace Rendering

/-- Renderers that come to the same everywhere are the same. -/
theorem eq_of_runs {α : Type} {use : PagingUse} {m m' : Rendering α}
    {x : Surroundings → Emit α} (h : ∀ around, RunsAs use around m (x around))
    (h' : ∀ around, RunsAs use around m' (x around)) : m = m' :=
  funext fun ctx => ((h ctx.surroundings).run ctx.bindings).trans
    ((h' ctx.surroundings).run ctx.bindings).symm

theorem mapM_parameter_runs {use : PagingUse} {around : Surroundings} (vs : List Value) :
    RunsAs use around (vs.mapM parameter) (Env.placeholdersWith
      (around.env.expandReference around.env.names.length around.resolving) vs) := by
  induction vs with
  | nil =>
    rw [List.mapM_nil, Env.placeholdersWith]
    exact .pure []
  | cons v vs ih =>
    rw [List.mapM_cons, Env.placeholdersWith]
    exact (parameter_runs v).bind fun part => ih.bind fun parts => .pure _

/-- What a variable stands for is written like any other value, while the variable is being
replaced. -/
theorem parameter_reference (name : String) :
    parameter (.reference name) = expandOnce parameter name := by
  have hexpanded : ∀ around, RunsAs (.any .rowCount) around (parameter (.reference name))
      (around.env.expandReference around.env.names.length around.resolving name) := by
    intro around
    have hruns : RunsAs (.any .rowCount) around (parameter (.reference name)) _ := parameter_runs _
    rwa [Env.placeholderWith] at hruns
  refine eq_of_runs hexpanded fun around => ?_
  have hroom : (around.env.names.filter (· ∉ around.resolving)).length ≤
      around.env.names.length :=
    List.length_filter_le _ _
  rw [← Env.expandReference_succ hroom, Env.expandReference_eq]
  exact expandOnce_runs fun v => parameter_runs v

/-- **Values.** A value is written without a bound on the variables in it. -/
theorem parameter_eq (v : Value) :
    parameter v = match v with
      | .literal sql => pure sql
      | .reference name => expandOnce parameter name
      | .array items => parameters items
      | v => do
        push v
        return "?" := by
  cases v with
  | literal sql => rfl
  | reference name => exact parameter_reference name
  | array items =>
    have hparts : ∀ around, RunsAs (.any .rowCount) around (parameters items) (Env.placeholderWith
        (around.env.expandReference around.env.names.length around.resolving) (.array items)) := by
      intro around
      rw [Env.placeholderWith]
      exact (mapM_parameter_runs items).bind fun parts => .pure _
    exact eq_of_runs (fun around => parameter_runs _) hparts
  | _ => rfl

end Rendering

end SqlBuilder
