import SqlBuilder.Compiler

/-!
# What a compilation comes to

A compilation gives the text that was rendered with the bindings that were made on the way, as long
as there is a placeholder for each of them (`compile_eq_ok`).  It complains about their number just
when the text was rendered and the two numbers differ (`compile_eq_bindingCount`).
-/

namespace SqlBuilder

variable {t : Target} {q : Query}

theorem bind_eq_ok {rawSql : String} {bindings : List Value} {style : ParamStyle} {c : Compiled}
    (h : bind rawSql bindings style = .ok c) :
    c.rawSql = rawSql ∧ c.bindings = bindings ∧ countMarks rawSql = bindings.length := by
  unfold bind at h
  dsimp only at h
  split at h
  case isTrue hcount =>
    obtain rfl := Except.ok.inj h
    exact ⟨rfl, rfl, hcount⟩
  case isFalse => exact nomatch h

/-- A compiled statement is what was rendered, with a placeholder for each binding. -/
theorem compile_eq_ok {c : Compiled} (h : compile t q = .ok c) :
    q.error = none ∧ (renderMethod t {} (q.sections t)).outcome = .ok c.rawSql ∧
      (renderMethod t {} (q.sections t)).bindings = c.bindings ∧
        countMarks c.rawSql = c.bindings.length := by
  unfold compile at h
  cases herror : q.error with
  | some e =>
    rw [herror] at h
    exact nomatch h
  | none =>
    rw [herror] at h
    dsimp only at h
    cases houtcome : (renderMethod t {} (q.sections t)).outcome with
    | error e =>
      rw [houtcome] at h
      exact nomatch h
    | ok rawSql =>
      rw [houtcome] at h
      obtain ⟨hsql, hbindings, hcount⟩ := bind_eq_ok h
      rw [hsql, hbindings]
      exact ⟨rfl, rfl, rfl, hcount⟩

/-- A query that is rendered compiles just if it has no error of its own and a placeholder for each
binding. -/
theorem exists_compile_iff {bindings : List Value} {rawSql : String}
    (h : renderMethod t {} (q.sections t) = ⟨bindings, .ok rawSql⟩) :
    (∃ c, compile t q = .ok c) ↔ q.error = none ∧ countMarks rawSql = bindings.length := by
  constructor
  · rintro ⟨c, hc⟩
    obtain ⟨herror, houtcome, hbindings, hcount⟩ := compile_eq_ok hc
    rw [h] at houtcome hbindings
    obtain rfl : rawSql = c.rawSql := Except.ok.inj houtcome
    obtain rfl : bindings = c.bindings := hbindings
    exact ⟨herror, hcount⟩
  · rintro ⟨herror, hcount⟩
    have hbind : ∃ c, bind rawSql bindings t.paramStyle = .ok c := ⟨_, if_pos hcount⟩
    unfold compile
    rwa [herror, h]

/-- The error of a compilation that fails. -/
def failure? (t : Target) (q : Query) : Option Error :=
  match compile t q with
  | .ok _ => none
  | .error e => some e

theorem compile_of_failure? {e : Error} (h : failure? t q = some e) : compile t q = .error e := by
  unfold failure? at h
  cases hc : compile t q with
  | ok c => simp [hc] at h
  | error e' =>
    rw [hc] at h
    exact congrArg Except.error (Option.some.inj h)

theorem exists_compile_of_failure? (h : failure? t q = none) : ∃ c, compile t q = .ok c := by
  unfold failure? at h
  cases hc : compile t q with
  | ok c => exact ⟨c, rfl⟩
  | error e => simp [hc] at h

/-- A query without an error of its own compiles to an error about the number of its bindings just
when it is rendered to an error of that kind, or to a text with another number of placeholders. -/
theorem compile_eq_bindingCount (herror : q.error = none) :
    (∃ n k, compile t q = .error (.bindingCount n k)) ↔
      (∃ n k, (renderMethod t {} (q.sections t)).outcome = .error (.bindingCount n k)) ∨
        ∃ sql, (renderMethod t {} (q.sections t)).outcome = .ok sql ∧
          countMarks sql ≠ (renderMethod t {} (q.sections t)).bindings.length := by
  unfold compile
  rw [herror]
  dsimp only
  cases houtcome : (renderMethod t {} (q.sections t)).outcome with
  | error e => simp
  | ok sql =>
    by_cases hcount : countMarks sql = (renderMethod t {} (q.sections t)).bindings.length
    · simp [bind, hcount]
    · simp [bind, hcount]

end SqlBuilder
