import SqlBuilder.Proofs.Frame.Relation

/-!
# The frame of values and raw SQL

Writing a value keeps its frame in all surroundings, also while variables are being replaced
(`Rendering.parameter_runs`), by induction on the number of variables that can still be on the way
and, inside of that, over the value.
-/

namespace SqlBuilder

/-- A variable is written as the value that it stands for, unless it is being replaced already. -/
theorem Env.expandReference_eq (env : Env) (left : Nat) (resolving : List String) (name : String) :
    env.expandReference (left + 1) resolving name =
      if name ∈ resolving then Emit.fail (.variableCycle name)
      else Emit.ofExcept (env.resolve name) >>=
        placeholderWith (env.expandReference left (name :: resolving)) := by
  unfold expandReference
  cases env.resolve name <;> rfl

namespace Rendering

variable {use : PagingUse} {around : Surroundings}

mutual

/-- A value is written alike if the variables in it are. -/
theorem parameterWith_runs {expand : String → Rendering String} {expand' : String → Emit String}
    (h : ∀ name, RunsAs use around (expand name) (expand' name)) : ∀ v : Value,
    RunsAs use around (parameterWith expand v) (Env.placeholderWith expand' v)
  | .literal sql => by
    rw [parameterWith, Env.placeholderWith]
    exact .pure sql
  | .reference name => by
    rw [parameterWith, Env.placeholderWith]
    exact h name
  | .array items => by
    rw [parameterWith, Env.placeholderWith]
    exact (parametersWith_runs h items).bind fun parts => .pure _
  | .null | .bool _ | .int _ | .float _ | .decimal _ | .text _ | .uuid _ | .date _ | .time _
  | .timestamp _ | .timestampUtc _ | .bytes _ | .json _ => by
    rw [parameterWith, Env.placeholderWith]
    · refine RunsAs.bind (.push ?_) fun _ => .pure _
      exact trivial
    all_goals simp

theorem parametersWith_runs {expand : String → Rendering String} {expand' : String → Emit String}
    (h : ∀ name, RunsAs use around (expand name) (expand' name)) : ∀ vs : List Value,
    RunsAs use around (parametersWith expand vs) (Env.placeholdersWith expand' vs)
  | [] => by
    rw [parametersWith, Env.placeholdersWith]
    exact .pure []
  | v :: vs => by
    rw [parametersWith, Env.placeholdersWith]
    exact (parameterWith_runs h v).bind fun part =>
      (parametersWith_runs h vs).bind fun parts => .pure _

end

theorem justified_of_resolve {env : Env} {name : String} {e : Error}
    (he : env.resolve name = .error e) : e.Justified use := by
  unfold Env.resolve at he
  split at he
  · exact nomatch he
  · obtain rfl := Except.error.inj he
    trivial

/-- A variable is replaced alike if its value is written alike while it is being replaced. -/
theorem expandOnce_runs {name : String} {inside : Value → Rendering String}
    {inside' : Value → Emit String}
    (h : ∀ v, RunsAs use (around.resolve name) (inside v) (inside' v)) :
    RunsAs use around (expandOnce inside name)
      (if name ∈ around.resolving then Emit.fail (.variableCycle name)
        else Emit.ofExcept (around.env.resolve name) >>= inside') := by
  unfold expandOnce
  refine .read (fun _ => rfl) ?_
  by_cases hmem : name ∈ around.resolving
  · rw [if_pos hmem]
    exact (if_pos hmem) ▸ .raise trivial
  · rw [if_neg hmem]
    have hinside : RunsAs use around
        (ofExcept (around.env.resolve name) >>= fun v => resolving name (inside v))
        (Emit.ofExcept (around.env.resolve name) >>= inside') :=
      RunsAs.bind (.ofExcept fun _ => justified_of_resolve) fun v => (h v).resolving
    exact (if_neg hmem) ▸ .read (fun _ => rfl) hinside

/-- What a variable stands for is written alike in all surroundings. -/
theorem expand_runs (left : Nat) (name : String) :
    RunsAs use around (expand left name)
      (around.env.expandReference left around.resolving name) := by
  induction left generalizing around name with
  | zero =>
    have hresolved : (around.env.expandReference 0 around.resolving name) =
        (if name ∈ around.resolving then Emit.fail (.variableCycle name)
          else Emit.ofExcept (around.env.resolve name) >>= fun _ =>
            Emit.fail (.variableCycle name)) := by
      unfold Env.expandReference
      cases around.env.resolve name <;> rfl
    rw [expand, hresolved]
    exact expandOnce_runs fun _ => .raise trivial
  | succ left ih =>
    rw [expand, Env.expandReference_eq]
    refine expandOnce_runs fun v => parameterWith_runs (fun name' => ?_) v
    exact ih name'

/-- **Values.** Writing a value keeps its frame in all surroundings. -/
theorem parameter_runs (v : Value) :
    RunsAs use around (parameter v)
      (Env.placeholderWith
        (around.env.expandReference around.env.names.length around.resolving) v) := by
  unfold parameter
  exact .read (fun _ => rfl) (parameterWith_runs (expand_runs _) v)

theorem parameter_implements (v : Value) :
    Implements use (parameter v) fun env => env.placeholder v := by
  intro around
  refine ⟨_, parameter_runs v, fun hresolving => ?_⟩
  rw [hresolving]
  rfl

theorem parameters_implements (vs : List Value) :
    Implements use (parameters vs) fun env => env.placeholders vs := by
  have hparts : Implements use ((vs.map id).mapM parameter) fun env =>
      (vs.map id).mapM fun v => env.placeholder v :=
    .mapM vs fun v _ => parameter_implements v
  rw [List.map_id] at hparts
  exact hparts.map Env.commaList

/-- Following a variable ends at an undefined one or at one that was met before. -/
theorem justified_of_follow {env : Env} {left : Nat} {seen : List String} {v : Value} {e : Error}
    (he : env.follow left seen v = .error e) : e.Justified use := by
  fun_induction Env.follow env left seen v with
  | case1 left seen name hmem =>
    obtain rfl := Except.error.inj he
    trivial
  | case2 left seen name hmem e' hresolve =>
    obtain rfl := Except.error.inj he
    exact justified_of_resolve hresolve
  | case3 seen name hmem v hresolve =>
    obtain rfl := Except.error.inj he
    trivial
  | case4 seen name hmem v left hresolve ih => exact ih he
  | case5 => exact nomatch he

theorem resolveValue_implements (v : Value) :
    Implements use (resolveValue v) fun env => Emit.ofExcept (env.resolveValue v) := by
  have houtcome : ∀ env : Env, Implements use (ofExcept (env.resolveValue v)) fun _ =>
      Emit.ofExcept (env.resolveValue v) :=
    fun env => .ofExcept fun _ => justified_of_follow
  exact .read (f := Context.env) (g := id) (fun _ => rfl) houtcome

/-! ## Raw SQL -/

theorem fillValues_implements (vs : List Value) (ts : List Token) :
    Implements use (fillValues vs ts) fun env => env.fillValues vs ts := by
  fun_induction fillValues vs ts with
  | case1 v vs ts ih =>
    unfold Env.fillValues
    exact (parameter_implements v).bind fun p => ih.map _
  | case2 vs t ts hmark ih =>
    have hskip : (fun env : Env => env.fillValues vs (t :: ts)) = _ :=
      funext fun env => Env.fillValues.eq_2 env vs t ts hmark
    rw [hskip]
    exact ih.map _
  | case3 vs => cases vs <;> exact .pure []

/-- **Raw SQL.** -/
theorem raw_implements (d : Dialect) (f : Fragment) :
    Implements use (raw d f) fun env => env.raw d f := by
  unfold raw Env.raw
  exact .ite (fun _ => (fillValues_implements _ _).map String.ofList) fun _ => .raise trivial

end Rendering

end SqlBuilder
