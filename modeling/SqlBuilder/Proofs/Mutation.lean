import SqlBuilder.Proofs.Paging.Text
import SqlBuilder.Proofs.Text.Quoting
import SqlBuilder.Query.Step

/-!
# Updates and deletes

The texts that an update and a delete are made of (`renderUpdate_ok`, `renderDelete_ok`), and the
statement around them (`compile_data`).

A delete with joins names its table twice.  After FROM stands the reference to the table, which is
cut at its alias and its dots and gets the prefix of the options; between DELETE and FROM stands the
alias in quotes, or, for a table without one, the whole text of the table in quotes.  So the two are
the same just for a table whose reference is a single name, written as it stands
(`compile_delete_target`).
-/

namespace SqlBuilder

open Text

variable {t : Target} {env : Env} {s : Sections Rendered}

/-! ## Statements -/

/-- A text that is not empty before a section. -/
theorem joinSections_pair {head : String} (h : head ≠ "") (section' : String) :
    joinSections [head, section'] = head ++ if section'.isEmpty then "" else " " ++ section' := by
  rw [joinSections_cons (by simpa using h)]
  simp

/-- A select or a mutation is rendered as a statement with a prologue. -/
theorem renderMethod_of_data
    (h : s.method = .select ∨ s.method = .aggregate ∨ s.method = .update ∨ s.method = .delete) :
    renderMethod t env s = renderStatement t env s := by
  unfold renderMethod
  obtain h | h | h | h := h <;> rw [h]

/-- A compiled select or mutation is its prologue before its body. -/
theorem compile_data {q : Query} {compiled : Compiled}
    (hmethod : q.method = .select ∨ q.method = .aggregate ∨ q.method = .update ∨
      q.method = .delete)
    (hcompile : compile t q = .ok compiled) :
    ∃ (prologue : Written) (body : String),
      (renderPrologue t (Env.enterStatement t {} (q.sections t))
        ((q.sections t).hoistedCtes t)).Writes prologue ∧
      (renderData t (Env.enterStatement t {} (q.sections t)) (q.sections t)).outcome = .ok body ∧
      (body.isEmpty = false → compiled.rawSql = prologue.leading.text ++ body) := by
  obtain ⟨-, houtcome, -, -⟩ := compile_eq_ok hcompile
  have hstatement : renderMethod t {} (q.sections t) = renderStatement t {} (q.sections t) :=
    renderMethod_of_data hmethod
  rw [hstatement] at houtcome
  obtain ⟨text, htext, hrest⟩ := Emit.of_bind_ok houtcome
  obtain ⟨body, hbody, hwhole⟩ := Emit.of_bind_ok hrest
  refine ⟨_, body, Emit.writes_of_outcome htext, hbody, fun hnonempty => ?_⟩
  rw [← joinSections_prologue _ hnonempty]
  exact (Except.ok.inj hwhole).symm

/-- An update is its assignments before its conditions. -/
theorem renderUpdate_ok {sql : String} (h : (renderUpdate t env s).outcome = .ok sql) :
    ∃ table update assignments filters,
      (renderTarget t env s .update).outcome = .ok table ∧ s.update = some update ∧
      (update.render t env).outcome = .ok assignments ∧
      (renderFilters t env s).outcome = .ok filters ∧
      sql = joinSections ["UPDATE " ++ table ++ " SET " ++ assignments, filters] := by
  obtain ⟨table, htable, h⟩ := Emit.of_bind_ok h
  split at h
  case h_1 => nomatch h
  case h_2 update hupdate =>
    obtain ⟨assignments, hassignments, h⟩ := Emit.of_bind_ok h
    obtain ⟨filters, hfilters, h⟩ := Emit.of_bind_ok h
    exact ⟨table, update, assignments, filters, htable, hupdate, hassignments, hfilters,
      (Except.ok.inj h).symm⟩

/-- A delete is its head before its conditions. -/
theorem renderDelete_ok {sql : String} (h : (renderDelete t env s).outcome = .ok sql) :
    ∃ table head filters,
      (renderTarget t env s .delete).outcome = .ok table ∧
      (renderDeleteHead t env s table).outcome = .ok head ∧
      (renderFilters t env s).outcome = .ok filters ∧ sql = joinSections [head, filters] := by
  obtain ⟨table, htable, h⟩ := Emit.of_bind_ok h
  obtain ⟨head, hhead, h⟩ := Emit.of_bind_ok h
  obtain ⟨filters, hfilters, h⟩ := Emit.of_bind_ok h
  exact ⟨table, head, filters, htable, hhead, hfilters, (Except.ok.inj h).symm⟩

/-! ## The target of a delete -/

/-- With joins, a delete names its target and its table, and then the joins. -/
theorem renderDeleteHead_ok {table head : String} (hjoins : s.hasJoins)
    (h : (renderDeleteHead t env s table).outcome = .ok head) :
    ∃ target joins, deleteTarget t.dialect s = .ok target ∧
      (renderJoins t env s).outcome = .ok joins ∧
      head = "DELETE " ++ target ++ " FROM " ++ table ++ " " ++ joins := by
  rw [renderDeleteHead, if_pos hjoins] at h
  obtain ⟨target, htarget, h⟩ := Emit.of_bind_ok h
  obtain ⟨joins, hjoins, h⟩ := Emit.of_bind_ok h
  exact ⟨target, joins, htarget, hjoins, (Except.ok.inj h).symm⟩

/-- **The target of a delete with joins.**  It is the alias of the table in quotes, as the reference
to the table has it.  For a table without an alias it is the whole text of the table in quotes, and
this is the reference just if that has no dot and no alias and is quoted like the text. -/
theorem compile_delete_target {q : Query} {table : String} {compiled : Compiled}
    (hmethod : q.method = .delete) (hjoins : (q.sections t).hasJoins)
    (hsource : (q.sections t).source = some (.table table))
    (hcompile : compile t q = .ok compiled) :
    let s := q.sections t
    let env := Env.enterStatement t {} s
    let reference := env.wrapTable t table
    ∃ prologue target joins filters,
      (renderPrologue t env (s.hoistedCtes t)).Writes prologue ∧
      (renderJoins t env s).outcome = .ok joins ∧
      (renderFilters t env s).outcome = .ok filters ∧
      compiled.rawSql = prologue.leading.text ++
        joinSections ["DELETE " ++ target ++ " FROM " ++ reference ++ " " ++ joins, filters] ∧
      (∀ name aliasName, splitAlias? table = some (name, aliasName) →
        target = t.dialect.quoteIdentifier aliasName ∧
        reference =
          t.dialect.wrap (env.prefixed t name) ++ " " ++ t.dialect.aliasKeyword ++ target) ∧
      (splitAlias? table = none →
        let name := env.prefixed t (trim table)
        target = t.dialect.quoteIdentifier table ∧ reference = t.dialect.wrap name ∧
        (target = reference ↔ splitAlias? name = none ∧ '.' ∉ name.toList ∧
          t.dialect.quoteIdentifier (trim name) = t.dialect.quoteIdentifier table)) := by
  intro s env reference
  obtain ⟨prologue, body, hprologue, hbody, hwhole⟩ :=
    compile_data (.inr (.inr (.inr hmethod))) hcompile
  have hdelete : renderData t env s = renderDelete t env s := by
    have hmethod : s.method = .delete := hmethod
    unfold renderData
    rw [hmethod]
  rw [hdelete] at hbody
  obtain ⟨reference', head, filters, hreference, hhead, hfilters, rfl⟩ := renderDelete_ok hbody
  obtain rfl : reference = reference' := by
    rw [renderTarget, hsource] at hreference
    exact Except.ok.inj hreference
  obtain ⟨target, joins, htarget, hjoins, rfl⟩ := renderDeleteHead_ok hjoins hhead
  have htarget : target = t.dialect.quoteIdentifier ((splitAlias? table).elim table Prod.snd) := by
    rw [deleteTarget, hsource] at htarget
    exact (Except.ok.inj htarget).symm
  have hnonempty (s : String) : (joinSections
      ["DELETE " ++ target ++ " FROM " ++ reference ++ " " ++ joins, s]).isEmpty = false := by
    rw [joinSections_pair (by simp)]
    simp
  refine ⟨prologue, target, joins, filters, hprologue, hjoins, hfilters, ?_, ?_, ?_⟩
  · exact hwhole (hnonempty filters)
  · intro name aliasName halias
    rw [htarget]
    simp [reference, Env.wrapTable, halias]
  · intro halias name
    have hreference : reference = t.dialect.wrap name := by
      simp [reference, Env.wrapTable, halias, name]
    have htarget : target = t.dialect.quoteIdentifier table := by
      simp [htarget, halias]
    rw [htarget, hreference]
    exact ⟨rfl, rfl, eq_comm.trans t.dialect.wrap_eq_quoteIdentifier_iff⟩

theorem compile_delete_target_alias :
    let t : Target := { dialect := .sqlServer, options := { tablePrefix := some "app_" } }
    let q : Query :=
      runAll [.fromTable "dbo.users as u",
        .joinTable .inner "bans as b" [.on "b.user_id" .eq "u.id"], .asDelete] {}
    q.method = .delete ∧ (q.sections t).hasJoins ∧
      (q.sections t).source = some (.table "dbo.users as u") ∧
      ∃ compiled, compile t q = .ok compiled ∧
        ∃ (prologue : Written) (joins filters : String),
          compiled.rawSql = prologue.leading.text ++
            joinSections ["DELETE [u] FROM [dbo].[app_users] AS [u] " ++ joins, filters] := by
  intro t q
  have hjoins : (q.sections t).hasJoins := by decide
  have hsource : (q.sections t).source = some (.table "dbo.users as u") := rfl
  obtain ⟨c, hc⟩ : ∃ c, compile t q = .ok c := exists_compile_of_failure? (by decide +kernel)
  obtain ⟨prologue, target, joins, filters, -, -, -, htext, halias, -⟩ :=
    compile_delete_target rfl hjoins hsource hc
  obtain ⟨rfl, hreference⟩ := halias "dbo.users" "u" (by decide +kernel)
  have hdelete : "DELETE " ++ t.dialect.quoteIdentifier "u" ++ " FROM " ++
      (Env.enterStatement t {} (q.sections t)).wrapTable t "dbo.users as u" ++ " " =
        "DELETE [u] FROM [dbo].[app_users] AS [u] " := by
    decide +kernel
  exact ⟨rfl, hjoins, hsource, c, hc, prologue, joins, filters, hdelete ▸ htext⟩

/-- Without an alias, a table that has a schema or gets a prefix is named in two ways. -/
theorem compile_delete_other_target :
    let t : Target := { dialect := .generic }
    let prefixed : Target := { dialect := .generic, options := { tablePrefix := some "app_" } }
    let delete (table : String) : Query :=
      runAll [.fromTable table, .joinTable .inner "bans" [.on "bans.user_id" .eq "users.id"],
        .asDelete] {}
    (compile t (delete "public.users")).toOption.map (·.rawSql) =
      some ("DELETE \"public.users\" FROM \"public\".\"users\" INNER JOIN \"bans\" " ++
        "ON \"bans\".\"user_id\" = \"users\".\"id\"") ∧
    (compile prefixed (delete "users")).toOption.map (·.rawSql) =
      some ("DELETE \"users\" FROM \"app_users\" INNER JOIN \"app_bans\" " ++
        "ON \"bans\".\"user_id\" = \"users\".\"id\"") := by
  decide +kernel

end SqlBuilder
