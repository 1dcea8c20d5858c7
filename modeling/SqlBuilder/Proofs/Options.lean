import SqlBuilder.Proofs.Rewrite.Statement

/-!
# Where the options act

The options are read all over a statement and again in every subquery.  Two targets whose options
differ only where the dialect takes no notice render every query alike (`renderMethod_alike`): this
is the rewriting that changes nothing, carried through the statement.

So the paging of old versions matters to the two dialects that have it, the hint not to wait for
locks to the one that writes it, and the names of parameters to nothing but these names
(`compile_options`).  This is so in a build with overflow checks as well, as long as the numbers of
the parameters fit in 64 bits.
-/

namespace SqlBuilder

variable {t t' : Target}

/-- Alike targets that put the same prefix before tables render every query alike. -/
theorem renderMethod_alike (h : t.Alike t')
    (hprefixed : t'.options.tablePrefix = t.options.tablePrefix) (q : Query) :
    renderMethod t' {} (q.sections t') = renderMethod t {} (q.sections t) := by
  have hsound : Rewriting.Sound {} t t' (fun _ => True) (fun env env' => env' = env) := by
    refine ⟨h, ?agrees, ?enter⟩
    case agrees =>
      rintro _ env rfl
      exact .of_alike (.refl env) h.dialect hprefixed
    case enter =>
      rintro _ env q - rfl
      rw [Rewriting.scope_id]
  have hkeeps : Rewriting.KeepsTables {} t t' := ⟨fun _ => rfl, hprefixed⟩
  have hscope : Rewriting.scope {} q.scope = q.scope := Rewriting.scope_id _
  have hmethod := hsound.method (.of_forall (fun _ => trivial) _)
    (fun c _ => DeclaredCte.alias?_rewrite (.inr hkeeps.table)) (by rw [hscope])
    (.inr ⟨hkeeps, by rw [hscope]⟩)
  rw [hmethod, Query.rewrite_id]

/-- How parameters are named changes neither the text of a statement nor its bindings. -/
theorem bind_style (rawSql : String) (bindings : List Value) (style style' : ParamStyle) :
    (bind rawSql bindings style').map (fun c => (c.rawSql, c.bindings, c.interpolated)) =
      (bind rawSql bindings style).map (fun c => (c.rawSql, c.bindings, c.interpolated)) := by
  simp only [bind]
  split <;> rfl

section Compile

variable (h : t.Alike t') (hprefixed : t'.options.tablePrefix = t.options.tablePrefix) (q : Query)

include h hprefixed

/-- Alike targets compile a query to the same error, or to statements that differ in the names of
parameters only. -/
theorem compile_alike_unnamed :
    (compile t' q).map (fun c => (c.rawSql, c.bindings, c.interpolated)) =
      (compile t q).map (fun c => (c.rawSql, c.bindings, c.interpolated)) := by
  simp only [compile, renderMethod_alike h hprefixed]
  generalize renderMethod t {} (q.sections t) = rendered
  obtain ⟨bindings, outcome⟩ := rendered
  cases q.error with
  | some e => rfl
  | none =>
    cases outcome with
    | error e => rfl
    | ok rawSql => exact bind_style rawSql bindings _ _

/-- Alike targets that name parameters alike compile a query alike. -/
theorem compile_alike (hstyle : t'.paramStyle = t.paramStyle) : compile t' q = compile t q := by
  simp only [compile, renderMethod_alike h hprefixed, hstyle]

/-- Alike targets number as many parameters. -/
theorem parameterCount_alike : parameterCount t' q = parameterCount t q := by
  simp only [parameterCount, renderMethod_alike h hprefixed]

/-- Alike targets that name parameters alike stop at the same numbers. -/
theorem compileChecked_alike (hstyle : t'.paramStyle = t.paramStyle) :
    compileChecked t' q = compileChecked t q := by
  simp only [compileChecked, parameterCount_alike h hprefixed, compile_alike h hprefixed q hstyle,
    hstyle]

end Compile

/-- Overflow checks make no difference where all numbers fit, from whichever number they start. -/
theorem compileChecked_of_fits {q : Query}
    (h : t.options.parameterBase.toNat + parameterCount t q ≤ UInt64.size) :
    compileChecked t q = some (compile t q) := by
  refine if_pos ?_
  unfold Target.paramStyle
  dsimp only
  split
  · exact h
  · trivial

/-- **Options.** The prefix and the first number of parameters leave errors, the text before
parameters are named, the bindings, and the text with the bindings written out as they are.  The
paging of old versions changes nothing but for two dialects, and the hint not to wait for locks
nothing but for one.  Overflow checks change none of this if, with the first number that is given,
the numbers of the parameters fit in 64 bits. -/
theorem compile_options (d : Dialect) (o : Options) (q : Query) :
    (∀ start base,
      (compile ⟨d, { o with parameterPrefix := start, parameterBase := base }⟩ q).map
          (fun c => (c.rawSql, c.bindings, c.interpolated)) =
        (compile ⟨d, o⟩ q).map fun c => (c.rawSql, c.bindings, c.interpolated)) ∧
      (d ≠ .sqlServer → d ≠ .oracle → ∀ b,
        compile ⟨d, { o with legacyPagination := b }⟩ q = compile ⟨d, o⟩ q) ∧
      (d ≠ .sqlServer → ∀ b, compile ⟨d, { o with noLock := b }⟩ q = compile ⟨d, o⟩ q) ∧
      (∀ start (base : UInt64), base.toNat + parameterCount ⟨d, o⟩ q ≤ UInt64.size →
        let t : Target := ⟨d, { o with parameterPrefix := start, parameterBase := base }⟩
        compileChecked t q = some (compile t q)) ∧
      (d ≠ .sqlServer → d ≠ .oracle → ∀ b,
        compileChecked ⟨d, { o with legacyPagination := b }⟩ q = compileChecked ⟨d, o⟩ q) ∧
      (d ≠ .sqlServer → ∀ b,
        compileChecked ⟨d, { o with noLock := b }⟩ q = compileChecked ⟨d, o⟩ q) := by
  have hparameters (start base) : Target.Alike ⟨d, o⟩
      ⟨d, { o with parameterPrefix := start, parameterBase := base }⟩ :=
    ⟨rfl, rfl, fun _ => rfl, rfl⟩
  have hpaging (hserver : d ≠ .sqlServer) (horacle : d ≠ .oracle) (b) :
      Target.Alike ⟨d, o⟩ ⟨d, { o with legacyPagination := b }⟩ := by
    refine ⟨rfl, ?_, fun _ => rfl, rfl⟩
    cases d with
    | sqlServer => exact absurd rfl hserver
    | oracle => exact absurd rfl horacle
    | _ => rfl
  have hlocks (hserver : d ≠ .sqlServer) (b) : Target.Alike ⟨d, o⟩ ⟨d, { o with noLock := b }⟩ :=
    ⟨rfl, rfl, fun hd => absurd hd hserver, rfl⟩
  refine ⟨fun start base => compile_alike_unnamed (hparameters start base) rfl q,
    fun hserver horacle b => compile_alike (hpaging hserver horacle b) rfl q rfl,
    fun hserver b => compile_alike (hlocks hserver b) rfl q rfl,
    fun start base hfits => ?checked,
    fun hserver horacle b => compileChecked_alike (hpaging hserver horacle b) rfl q rfl,
    fun hserver b => compileChecked_alike (hlocks hserver b) rfl q rfl⟩
  case checked =>
    refine compileChecked_of_fits ?_
    rw [parameterCount_alike (hparameters start base) rfl]
    exact hfits

/-- A query with a limit, over a table that is locked in a subquery, for a dialect that takes no
notice of either option. -/
theorem compile_options_subquery :
    let rows : Query :=
      { clauses :=
          [⟨.source, none, .source (.table "u")⟩, ⟨.limit, none, .limit 5⟩]
        aliasName := some "s" }
    let q : Query :=
      { clauses :=
          [⟨.source, none, .source (.query ⟨rows⟩)⟩,
            ⟨.filter, none, .condition { kind := .compare "a" .eq (.int 1) }⟩] }
    let o : Options := { legacyPagination := true, noLock := true }
    let plain : Target := ⟨.mySql, {}⟩
    compile ⟨.mySql, o⟩ q = compile plain q ∧
      ((compile ⟨.mySql, { parameterPrefix := some ":v", parameterBase := 3 }⟩ q).map
        fun c => (c.rawSql, c.bindings, c.interpolated)) =
          (compile plain q).map (fun c => (c.rawSql, c.bindings, c.interpolated)) ∧
      compileChecked ⟨.mySql, { parameterPrefix := some ":v", parameterBase := 3 }⟩ q =
        some (compile ⟨.mySql, { parameterPrefix := some ":v", parameterBase := 3 }⟩ q) ∧
      (compile plain q).toOption.map (·.sql) =
        some "SELECT * FROM (SELECT * FROM \x60u\x60 LIMIT ?) AS \x60s\x60 WHERE \x60a\x60 = ?" ∧
      (compile ⟨.mySql, { parameterPrefix := some ":v", parameterBase := 3 }⟩ q).toOption.map
          (·.sql) =
        some ("SELECT * FROM (SELECT * FROM \x60u\x60 LIMIT :v3) AS \x60s\x60 " ++
          "WHERE \x60a\x60 = :v4") := by
  intro rows q o plain
  have hlock : compile ⟨.mySql, o⟩ q = compile ⟨.mySql, { legacyPagination := true }⟩ q :=
    (compile_options .mySql { legacyPagination := true } q).2.2.1 (by decide) true
  have hpaging : compile ⟨.mySql, { legacyPagination := true }⟩ q = compile plain q :=
    (compile_options .mySql {} q).2.1 (by decide) (by decide) true
  have hchecked := (compile_options .mySql {} q).2.2.2.1 (some ":v") 3 (by decide +kernel)
  exact ⟨hlock.trans hpaging, (compile_options .mySql {} q).1 (some ":v") 3, hchecked,
    by decide +kernel, by decide +kernel⟩

end SqlBuilder
