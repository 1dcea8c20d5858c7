import SqlBuilder.Proofs.Compile
import SqlBuilder.Proofs.Markup.Statement

/-!
# Placeholders and bindings in balance

A part of a statement is in balance when its text has a placeholder for each value that it binds.
All parts are (`Part.balanced`), with two exceptions:

* a cross join binds the values of its constraints and does not write them
  (`JoinSections.render_balanced_iff`);
* an INSERT ALL writes its target for every row and binds the values of the target once
  (`renderInsert_balanced_iff`).

What the exceptions come to in a whole statement is read off its markup, which keeps the values that
are not written and the places for values that are bound elsewhere: there is a ledger of both
(`Part.ledger`), and a compilation complains about the number of bindings just when the two numbers
differ.
-/

namespace SqlBuilder

open Markup

/-! ## Parts of statements -/

/-- A part of a statement. -/
inductive Part where
  | column (c : Column Subquery)
  | source (hints : List TableHint) (s : Source Subquery)
  | join (j : JoinSections Subquery)
  | conditions (cs : List (Condition Subquery))
  | order (o : OrderBy)
  | combine (c : Combine Subquery)
  /-- The WITH of a statement. -/
  | prologue (sources : List (Source Subquery))
  /-- A select inside a statement, which has no WITH of its own. -/
  | select (s : Subquery)
  | statement (q : Query)

namespace Part

/-- Renders a part. -/
def render (t : Target) (env : Env) : Part → Emit String
  | column c => (c.map (Subquery.rendered t)).render t env
  | source hints s => (s.map (Subquery.rendered t)).render t env hints
  | join j => (j.map (Subquery.rendered t)).render t env
  | conditions cs => renderConditions t env (cs.map (Condition.map (Subquery.rendered t)))
  | order o => o.render t env
  | combine c => (c.map (Subquery.rendered t)).render t env
  | prologue sources =>
    renderPrologue t env
      (distinctCtes [] ((sources.map (Source.map (Subquery.rendered t))).flatMap (Source.ctes t)))
  | select s => (Subquery.rendered t s).select env
  | statement q => renderMethod t env (q.sections t)

/-- A part with its values in place. -/
def markup (t : Target) (env : Env) : Part → Except Error Markup
  | column c => (c.map (Subquery.marked t)).markup t env
  | source hints s => (s.map (Subquery.marked t)).markup t env hints
  | join j => (j.map (Subquery.marked t)).markup t env
  | conditions cs => markupConditions t env (cs.map (Condition.map (Subquery.marked t)))
  | order o => o.markup t env
  | combine c => (c.map (Subquery.marked t)).markup t env
  | prologue sources =>
    prologueMarkup t env
      (distinctCtes [] ((sources.map (Source.map (Subquery.marked t))).flatMap
        (Source.markedCtes t)))
  | select s => (Subquery.marked t s).select env
  | statement q => methodMarkup t env (q.markedSections t)

/-- A part has no question marks of its own.  A strict one has no constraints in cross joins, and
inserts into a table when it repeats its target. -/
def Unmarked (strict : Prop) (d : Dialect) : Part → Prop
  | column c => (c.map (Subquery.Unmarked strict d)).Unmarked
  | source hints s =>
    (∀ name, TableHint.index name ∈ hints → Plain name) ∧
      (s.map (Subquery.Unmarked strict d)).Unmarked
  | join j => (j.map (Subquery.Unmarked strict d)).Unmarked strict
  | conditions cs => ∀ c ∈ cs, (c.map (Subquery.Unmarked strict d)).Unmarked
  | order o => o.Unmarked
  | combine c => (c.map (Subquery.Unmarked strict d)).Unmarked
  | prologue sources => ∀ s ∈ sources, (s.map (Subquery.Unmarked strict d)).Unmarked
  | select s => s.Unmarked strict d
  | statement q =>
    q.Unmarked strict d ∧
      (strict → q.method = .insert → (Sections.of d q).RepeatsTarget d →
        ∃ name, (Sections.of d q).source = some (.table name)) ∧
      (q.method = .createTable → ∀ c ∈ (Sections.of d q).tableColumns, c.Plain)

variable {t : Target} {env : Env} {strict : Prop}

/-- Every part is written alike on both sides. -/
theorem renders (ht : t.PlainPrefix) (henv : env.Unmarked) (p : Part)
    (hp : p.Unmarked strict t.dialect) :
    Emit.Renders (Spells strict) (p.markup t env) (p.render t env) := by
  have hsub : ∀ s : Subquery, s.Unmarked strict t.dialect →
      (Subquery.rendered t s).Marks strict (Subquery.marked t s) :=
    fun s hs => Subquery.rendered_marks ht s hs
  cases p with
  | column c => exact Column.renders hsub henv c hp
  | source hints s => exact Source.renders hsub ht henv hp.1 s hp.2
  | join j => exact JoinSections.renders hsub ht henv j hp
  | conditions cs => exact renderConditions_renders hsub henv cs (List.forall_mem_map.mpr hp)
  | order o => exact OrderBy.renders strict henv o hp
  | combine c => exact Combine.renders hsub henv c hp
  | prologue sources =>
    refine renderPrologue_renders henv (distinctCtes_marks ?_ [])
    exact Source.allCtes_marks hsub ht sources (List.forall_mem_map.mpr hp)
  | select s => exact (hsub s hp).select env henv
  | statement q => exact Query.renders ht henv q hp.1 hp.2.1 hp.2.2

/-- The ledger of a part: the placeholders and the values that are not written on one side, the
bindings and the placeholders for values that are bound elsewhere on the other. -/
theorem ledger (ht : t.PlainPrefix) (henv : env.Unmarked) {p : Part}
    (hp : p.Unmarked strict t.dialect) {sql : String}
    (hsql : (p.render t env).outcome = .ok sql) :
    ∃ m, p.markup t env = .ok m ∧ m.text = sql.toList ∧ m.bound = (p.render t env).bindings ∧
      countMarks sql + m.silentCount = (p.render t env).bindings.length + m.againCount := by
  obtain ⟨m, hm, hspells⟩ := (renders ht henv p hp).of_ok hsql
  exact ⟨m, hm, hspells.text, hspells.bound, hspells.ledger⟩

/-- A strict part is in balance. -/
theorem balanced (ht : t.PlainPrefix) (henv : env.Unmarked) {p : Part}
    (hp : p.Unmarked True t.dialect) {sql : String}
    (hsql : (p.render t env).outcome = .ok sql) :
    countMarks sql = (p.render t env).bindings.length := by
  obtain ⟨m, -, hspells⟩ := (renders ht henv p hp).of_ok hsql
  exact hspells.countMarks_eq

end Part

variable {t : Target}

/-! ## The exceptions -/

/-- A join is in balance unless it is a cross join whose constraints have values. -/
theorem JoinSections.render_balanced_iff (ht : t.PlainPrefix) {env : Env} (henv : env.Unmarked)
    {j : JoinSections Subquery}
    (hj : (j.map (Subquery.Unmarked True t.dialect)).Unmarked False) {sql : String}
    (hsql : ((Part.join j).render t env).outcome = .ok sql) :
    countMarks sql = ((Part.join j).render t env).bindings.length ↔
      (j.kind = .cross → ((Part.conditions j.constraints).render t env).bindings = []) := by
  have hcount := JoinSections.render_count (Subquery.rendered_marks ht) ht henv j hj
  obtain ⟨-, -, hledger⟩ := hcount.of_ok hsql
  change countMarks sql + (if j.kind = .cross then
      ((Part.conditions j.constraints).render t env).bindings.length else 0) =
    ((Part.join j).render t env).bindings.length at hledger
  rw [← hledger, ← List.length_eq_zero_iff]
  by_cases hkind : j.kind = .cross
  · rw [if_pos hkind]
    constructor
    · intro hbalanced _
      omega
    · intro hnone
      rw [hnone hkind, Nat.add_zero]
  · rw [if_neg hkind]
    exact iff_of_true rfl fun h => absurd h hkind

/-- An insert is in balance unless it repeats a target that has values. -/
theorem renderInsert_balanced_iff (ht : t.PlainPrefix) {env : Env} (henv : env.Unmarked)
    {s : Sections Subquery}
    (hs : (s.map (Subquery.Unmarked True t.dialect)).Unmarked True) {sql : String}
    (hsql : (renderInsert t env (s.map (Subquery.rendered t))).outcome = .ok sql) :
    countMarks sql = (renderInsert t env (s.map (Subquery.rendered t))).bindings.length ↔
      (s.RepeatsTarget t.dialect →
        (renderTarget t env (s.map (Subquery.rendered t)) .insert).bindings = []) := by
  have hcount := renderInsert_count (Subquery.rendered_marks ht) ht henv s hs
  obtain ⟨-, -, hiff⟩ := hcount.of_ok hsql
  exact hiff

/-! ## Compilations -/

/-- A compilation complains about the number of bindings just when the values that are not written
are not as many as the places for values that are bound elsewhere. -/
theorem compile_bindingCount_iff (ht : t.PlainPrefix) {q : Query} (herror : q.error = none)
    (hq : (Part.statement q).Unmarked False t.dialect) :
    (∃ n k, compile t q = .error (.bindingCount n k)) ↔
      ∃ m, q.markup t = .ok m ∧ m.silentCount ≠ m.againCount := by
  have hrenders : Emit.Renders (Spells False) (q.markup t) (renderMethod t {} (q.sections t)) :=
    Part.renders ht Env.unmarked_empty (.statement q) hq
  rw [compile_eq_bindingCount herror]
  constructor
  · rintro (⟨n, k, houtcome⟩ | ⟨sql, houtcome, hcount⟩)
    · exact nomatch (hrenders.of_error houtcome).2
    · obtain ⟨m, hm, hspells⟩ := hrenders.of_ok houtcome
      have hledger := hspells.ledger
      refine ⟨m, hm, fun hcounts => hcount ?_⟩
      omega
  · rintro ⟨m, hm, hcounts⟩
    cases houtcome : (renderMethod t {} (q.sections t)).outcome with
    | error e =>
      rw [(hrenders.of_error houtcome).1] at hm
      exact nomatch hm
    | ok sql =>
      obtain ⟨m', hm', hspells⟩ := hrenders.of_ok houtcome
      obtain rfl : m' = m := Except.ok.inj (hm'.symm.trans hm)
      have hledger := hspells.ledger
      refine Or.inr ⟨sql, rfl, fun hcount => hcounts ?_⟩
      omega

/-- A strict statement never makes a compilation complain about the number of bindings. -/
theorem compile_ne_bindingCount (ht : t.PlainPrefix) {q : Query} (herror : q.error = none)
    (hq : (Part.statement q).Unmarked True t.dialect) (n k : Nat) :
    compile t q ≠ .error (.bindingCount n k) := by
  have hrenders : Emit.Renders (Spells True) (q.markup t) (renderMethod t {} (q.sections t)) :=
    Part.renders ht Env.unmarked_empty (.statement q) hq
  intro hcompile
  rcases (compile_eq_bindingCount herror).mp ⟨n, k, hcompile⟩ with
    ⟨n, k, houtcome⟩ | ⟨sql, houtcome, hcount⟩
  · exact nomatch (hrenders.of_error houtcome).2
  · obtain ⟨m, -, hspells⟩ := hrenders.of_ok houtcome
    exact hcount hspells.countMarks_eq

/-- **Placeholders and bindings are in balance**, in every strict part of a statement and so in every
compilation.  The exceptions are exactly the cross joins whose constraints have values and the
inserts that repeat a target with values; a compilation complains about them unless they make up for
each other. -/
theorem placeholders_balance (ht : t.PlainPrefix) :
    (∀ (p : Part) (env : Env) (sql : String), env.Unmarked → p.Unmarked True t.dialect →
      (p.render t env).outcome = .ok sql →
        countMarks sql = (p.render t env).bindings.length) ∧
    (∀ q : Query, q.error = none → (Part.statement q).Unmarked True t.dialect →
      ∀ n k, compile t q ≠ .error (.bindingCount n k)) ∧
    (∀ (j : JoinSections Subquery) (env : Env) (sql : String), env.Unmarked →
      (j.map (Subquery.Unmarked True t.dialect)).Unmarked False →
      ((Part.join j).render t env).outcome = .ok sql →
        (countMarks sql = ((Part.join j).render t env).bindings.length ↔
          (j.kind = .cross → ((Part.conditions j.constraints).render t env).bindings = []))) ∧
    (∀ (s : Sections Subquery) (env : Env) (sql : String), env.Unmarked →
      (s.map (Subquery.Unmarked True t.dialect)).Unmarked True →
      (renderInsert t env (s.map (Subquery.rendered t))).outcome = .ok sql →
        (countMarks sql = (renderInsert t env (s.map (Subquery.rendered t))).bindings.length ↔
          (s.RepeatsTarget t.dialect →
            (renderTarget t env (s.map (Subquery.rendered t)) .insert).bindings = []))) ∧
    (∀ (p : Part) (env : Env) (sql : String), env.Unmarked → p.Unmarked False t.dialect →
      (p.render t env).outcome = .ok sql →
        ∃ m, p.markup t env = .ok m ∧ m.text = sql.toList ∧
          m.bound = (p.render t env).bindings ∧
          countMarks sql + m.silentCount = (p.render t env).bindings.length + m.againCount) ∧
    (∀ q : Query, q.error = none → (Part.statement q).Unmarked False t.dialect →
      ((∃ n k, compile t q = .error (.bindingCount n k)) ↔
        ∃ m, q.markup t = .ok m ∧ m.silentCount ≠ m.againCount)) := by
  refine ⟨?_, ?_, ?_, ?_, ?_, ?_⟩
  · intro p env sql henv hp hsql
    exact Part.balanced ht henv hp hsql
  · intro q herror hq n k
    exact compile_ne_bindingCount ht herror hq n k
  · intro j env sql henv hj hsql
    exact JoinSections.render_balanced_iff ht henv hj hsql
  · intro s env sql henv hs hsql
    exact renderInsert_balanced_iff ht henv hs hsql
  · intro p env sql henv hp hsql
    exact Part.ledger ht henv hp hsql
  · intro q herror hq
    exact compile_bindingCount_iff ht herror hq

/-- The value of the constraints of an inner join has its place. -/
theorem placeholders_balance_innerJoin :
    let t : Target := { dialect := .generic }
    let q : Query :=
      { clauses :=
          [⟨.source, none, .source (.table "t")⟩,
            ⟨.join, none, .join
              { kind := .inner
                clauses :=
                  [⟨.source, none, .source (.table "u")⟩,
                    ⟨.filter, none, .condition { kind := .compare "a" .eq (.int 1) }⟩]
                index := none }⟩] }
    t.PlainPrefix ∧ q.error = none ∧ (Part.statement q).Unmarked True t.dialect ∧
      (compile t q).toOption.map (·.rawSql) =
        some "SELECT * FROM \"t\" INNER JOIN \"u\" ON \"a\" = ?" ∧
      ∀ n k, compile t q ≠ .error (.bindingCount n k) := by
  intro t q
  have ht : t.PlainPrefix := fun p hp => absurd hp (Option.not_mem_none p)
  have hsections : Sections.of t.dialect (q.map (Subquery.Unmarked True t.dialect)) =
      { source := some (.table "t")
        joins :=
          [{ kind := .inner
             target := some (.table "u")
             constraints := [{ kind := .compare "a" .eq (.int 1) }]
             index := none }]
        hasSource := true
        hasJoins := true
        scope := [[]] } := rfl
  have hunmarked : q.Unmarked True t.dialect := by
    rw [Query.Unmarked, hsections]
    constructor <;> simp [Source.Unmarked, Plain, Scope.Unmarked]
    constructor <;> simp [Source.Unmarked, Plain, Condition.Unmarked, ConditionKind.Unmarked,
      Value.Unmarked]
  have hq : (Part.statement q).Unmarked True t.dialect :=
    ⟨hunmarked, fun _ h => absurd h (by decide), fun h => absurd h (by decide)⟩
  refine ⟨ht, rfl, hq, by decide +kernel, ?_⟩
  exact (placeholders_balance ht).2.1 q rfl hq

/-- The value of the constraints of a cross join has no place, and that of a target that an INSERT
ALL repeats has several. -/
theorem compile_unbalanced :
    (let t : Target := { dialect := .generic }
      let q : Query :=
        { clauses :=
            [⟨.source, none, .source (.table "t")⟩,
              ⟨.join, none, .join
                { kind := .cross
                  clauses :=
                    [⟨.source, none, .source (.table "u")⟩,
                      ⟨.filter, none, .condition { kind := .compare "a" .eq (.int 1) }⟩]
                  index := none }⟩] }
      q.error = none ∧ (Part.statement q).Unmarked False t.dialect ∧
        compile t q = .error (.bindingCount 0 1)) ∧
    (let t : Target := { dialect := .oracle }
      let q : Query :=
        { method := .insert
          clauses :=
            [⟨.source, none, .source (.raw none ⟨"f(?)", [.int 1]⟩)⟩,
              ⟨.insert, none, .insert (.row ["a"] [.int 2] false)⟩,
              ⟨.insert, none, .insert (.row ["a"] [.int 3] false)⟩] }
      q.error = none ∧ (Part.statement q).Unmarked False t.dialect ∧
        compile t q = .error (.bindingCount 4 3)) := by
  constructor
  · intro t q
    have hsections : Sections.of t.dialect (q.map (Subquery.Unmarked False t.dialect)) =
        { source := some (.table "t")
          joins :=
            [{ kind := .cross
               target := some (.table "u")
               constraints := [{ kind := .compare "a" .eq (.int 1) }]
               index := none }]
          hasSource := true
          hasJoins := true
          scope := [[]] } := rfl
    have hunmarked : q.Unmarked False t.dialect := by
      rw [Query.Unmarked, hsections]
      constructor <;> simp [Source.Unmarked, Plain, Scope.Unmarked]
      constructor <;> simp [Source.Unmarked, Plain, Condition.Unmarked, ConditionKind.Unmarked,
        Value.Unmarked]
    have hmethod : q.method ≠ .createTable := by decide
    refine ⟨rfl, ⟨hunmarked, fun h => h.elim, fun h => absurd h hmethod⟩, ?_⟩
    exact compile_of_failure? (by decide +kernel)
  · intro t q
    have hsections : Sections.of t.dialect (q.map (Subquery.Unmarked False t.dialect)) =
        { method := .insert
          source := some (.raw none ⟨"f(?)", [.int 1]⟩)
          inserts := [.row ["a"] [.int 2] false, .row ["a"] [.int 3] false]
          hasSource := true
          scope := [[]] } := rfl
    have hunmarked : q.Unmarked False t.dialect := by
      rw [Query.Unmarked, hsections]
      constructor <;> simp [Source.Unmarked, Plain, Scope.Unmarked, Fragment.Unmarked,
        Value.Unmarked, InsertClause.Unmarked]
    have hmethod : q.method ≠ .createTable := by decide
    refine ⟨rfl, ⟨hunmarked, fun h => h.elim, fun h => absurd h hmethod⟩, ?_⟩
    exact compile_of_failure? (by decide +kernel)

end SqlBuilder
