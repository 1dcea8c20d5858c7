import Mathlib.Data.List.Forall2
import SqlBuilder.Proofs.Paging.Text
import SqlBuilder.Query.Step

/-!
# Connectives of a list of conditions

The text of a list is made of the texts of its conditions: the first stands as it is, and every
later one after the connective of its own condition (`joinTexts`).  A group without conditions has
no text and is passed over.  An empty text is passed over only as long as nothing stands before it
(`joinConditions_eq`): after that it brings its connective with it, so that the list is what the
texts that are not empty make just if no empty text comes after one of them
(`joinTexts_dropWhile_eq_filter_iff`).

Only raw SQL can be rendered to an empty text (`ConditionKind.Renders`).
-/

namespace SqlBuilder

/-! ## Joining texts -/

/-- Texts, each after its connective. -/
def joinLater (texts : List (Bool × String)) : String :=
  String.join (texts.map fun (isOr, sql) => connective isOr ++ sql)

/-- The text of a list of conditions: the first stands without its connective. -/
def joinTexts : List (Bool × String) → String
  | [] => ""
  | (_, sql) :: later => sql ++ joinLater later

/-- The texts that are there, each with the connective of its condition. -/
def presentTexts (parts : List (Bool × Option String)) : List (Bool × String) :=
  parts.filterMap fun (isOr, sql?) => sql?.map (isOr, ·)

/-- After the first text, each that is there follows with its connective, empty or not. -/
theorem joinConditions_of_ne_empty {before : String} (hbefore : before ≠ "")
    (parts : List (Bool × Option String)) :
    joinConditions before parts = before ++ joinLater (presentTexts parts) := by
  induction parts generalizing before with
  | nil => simp [joinConditions, presentTexts, joinLater]
  | cons part parts ih =>
    obtain ⟨isOr, sql?⟩ := part
    cases sql? with
    | none => exact ih hbefore
    | some sql =>
      have hnonempty : before.isEmpty = false := by simpa using hbefore
      have hlonger : before ++ connective isOr ++ sql ≠ "" := by simp [hbefore]
      rw [joinConditions, hnonempty, if_neg Bool.false_ne_true, ih hlonger]
      simp [presentTexts, joinLater, String.append_assoc]

/-- The texts of a list are joined from the first that is not empty. -/
theorem joinConditions_eq (parts : List (Bool × Option String)) :
    joinConditions "" parts = joinTexts ((presentTexts parts).dropWhile (·.2.isEmpty)) := by
  induction parts with
  | nil => rfl
  | cons part parts ih =>
    obtain ⟨isOr, sql?⟩ := part
    cases sql? with
    | none => exact ih
    | some sql =>
      by_cases hsql : sql = ""
      · subst hsql
        exact ih
      · rw [joinConditions, if_pos (by rfl), joinConditions_of_ne_empty hsql]
        simp [presentTexts, hsql, joinTexts]

/-- Leaving out empty texts makes a list shorter, by their connectives. -/
theorem joinLater_filter (texts : List (Bool × String)) :
    (joinLater (texts.filter (!·.2.isEmpty))).length ≤ (joinLater texts).length ∧
      ((joinLater (texts.filter (!·.2.isEmpty))).length = (joinLater texts).length →
        ∀ p ∈ texts, p.2 ≠ "") := by
  induction texts with
  | nil => simp
  | cons p texts ih =>
    obtain ⟨isOr, sql⟩ := p
    obtain ⟨hle, heq⟩ := ih
    have hcons (texts : List (Bool × String)) : (joinLater ((isOr, sql) :: texts)).length =
        (connective isOr).length + sql.length + (joinLater texts).length := by
      simp [joinLater]
    have hconnective : 0 < (connective isOr).length := by cases isOr <;> decide
    by_cases hsql : sql = ""
    · rw [List.filter_cons_of_neg (by simp [hsql]), hcons]
      exact ⟨by omega, fun h => by omega⟩
    · rw [List.filter_cons_of_pos (by simp [hsql]), hcons, hcons]
      exact ⟨by omega, fun h => List.forall_mem_cons.mpr ⟨hsql, heq (by omega)⟩⟩

/-- The text is that of the texts that are not empty just if none that is empty comes after one of
them. -/
theorem joinTexts_dropWhile_eq_filter_iff (texts : List (Bool × String)) :
    joinTexts (texts.dropWhile (·.2.isEmpty)) = joinTexts (texts.filter (!·.2.isEmpty)) ↔
      ∀ p ∈ texts.dropWhile (·.2.isEmpty), p.2 ≠ "" := by
  induction texts with
  | nil => simp
  | cons p texts ih =>
    obtain ⟨isOr, sql⟩ := p
    by_cases hsql : sql = ""
    · simpa [hsql] using ih
    · have hdrop : ((isOr, sql) :: texts).dropWhile (·.2.isEmpty) = (isOr, sql) :: texts :=
        List.dropWhile_cons_of_neg (by simpa using hsql)
      rw [hdrop, List.filter_cons_of_pos (by simp [hsql]), joinTexts, joinTexts,
        String.append_right_inj, List.forall_mem_cons]
      constructor
      · exact fun h => ⟨hsql, (joinLater_filter texts).2 (congrArg String.length h.symm)⟩
      · rintro ⟨-, hrest⟩
        rw [List.filter_eq_self.mpr fun p hp => by simpa using hrest p hp]

/-! ## The text of a condition -/

/-- What a condition can be rendered to: a group to the conditions in it, if there are any, raw SQL
to itself, and everything else to a text that is not empty. -/
def ConditionKind.Renders (t : Target) (env : Env) (isNot : Bool) (text : Option String) :
    ConditionKind Rendered → Prop
  | .group query => ∃ inner, (query.group env).outcome = .ok inner ∧
      text = inner.map fun sql => notKeyword isNot ++ "(" ++ sql ++ ")"
  | .raw fragment => ∃ sql, (env.raw t.dialect fragment).outcome = .ok sql ∧
      text = some (negate isNot sql)
  | _ => ∃ sql, sql ≠ "" ∧ text = some sql

theorem negate_ne_empty {sql : String} (isNot : Bool) (h : sql ≠ "") : negate isNot sql ≠ "" := by
  cases isNot with
  | true => simp [negate]
  | false => exact h

theorem Dialect.dateCondition_ne_empty (d : Dialect) (column : String) (part : DatePart)
    (operator placeholder : String) (value : Value) :
    d.dateCondition column part operator placeholder value ≠ "" := by
  unfold dateCondition
  split <;> simp

theorem ConditionKind.renders_of_ok {t : Target} {env : Env} {isNot : Bool}
    {kind : ConditionKind Rendered} {text : Option String}
    (h : (kind.render t env isNot).outcome = .ok text) : kind.Renders t env isNot text := by
  cases kind with
  | compare column operator value =>
    obtain ⟨p, -, h⟩ := Emit.of_bind_ok h
    exact ⟨_, negate_ne_empty isNot (by simp), (Except.ok.inj h).symm⟩
  | pattern column shape value caseSensitive escape =>
    obtain ⟨v, -, h⟩ := Emit.of_bind_ok h
    split at h
    case h_1 s =>
      obtain ⟨p, -, h⟩ := Emit.of_bind_ok h
      exact ⟨_, negate_ne_empty isNot (by simp), (Except.ok.inj h).symm⟩
    case h_2 => nomatch h
  | datePart part column operator value =>
    obtain ⟨v, -, h⟩ := Emit.of_bind_ok h
    obtain ⟨p, -, h⟩ := Emit.of_bind_ok h
    exact ⟨_, negate_ne_empty isNot (t.dialect.dateCondition_ne_empty _ _ _ _ _),
      (Except.ok.inj h).symm⟩
  | columns first operator second => exact ⟨_, by simp, (Except.ok.inj h).symm⟩
  | null column => exact ⟨_, by simp, (Except.ok.inj h).symm⟩
  | boolean column value =>
    exact ⟨_, by split <;> simp, (Except.ok.inj h).symm⟩
  | between column lower higher =>
    obtain ⟨low, -, h⟩ := Emit.of_bind_ok h
    obtain ⟨high, -, h⟩ := Emit.of_bind_ok h
    exact ⟨_, by simp, (Except.ok.inj h).symm⟩
  | inList column values =>
    obtain ⟨list, -, h⟩ := Emit.of_bind_ok h
    split at h
    case isTrue =>
      refine ⟨_, ?_, (Except.ok.inj h).symm⟩
      cases isNot <;> decide
    case isFalse => exact ⟨_, by simp, (Except.ok.inj h).symm⟩
  | inQuery column query =>
    obtain ⟨sql, -, h⟩ := Emit.of_bind_ok h
    exact ⟨_, by simp, (Except.ok.inj h).symm⟩
  | nonempty query =>
    rw [render] at h
    split at h
    case isTrue =>
      dsimp only at h
      split at h <;>
        obtain ⟨sql, -, h⟩ := Emit.of_bind_ok h <;>
        exact ⟨_, by simp, (Except.ok.inj h).symm⟩
    case isFalse => nomatch h
  | group query =>
    obtain ⟨inner, hinner, h⟩ := Emit.of_bind_ok h
    exact ⟨inner, hinner, (Except.ok.inj h).symm⟩
  | raw fragment =>
    obtain ⟨sql, hsql, h⟩ := Emit.of_bind_ok h
    exact ⟨sql, hsql, (Except.ok.inj h).symm⟩
  | queryCompare query operator value =>
    obtain ⟨sql, -, h⟩ := Emit.of_bind_ok h
    obtain ⟨p, -, h⟩ := Emit.of_bind_ok h
    exact ⟨_, negate_ne_empty isNot (by simp), (Except.ok.inj h).symm⟩
  | columnQuery column operator query =>
    obtain ⟨sql, -, h⟩ := Emit.of_bind_ok h
    exact ⟨_, negate_ne_empty isNot (by simp), (Except.ok.inj h).symm⟩

/-! ## The text of a list -/

/-- A list is carried out just if each of its elements is. -/
theorem Emit.mapM_eq_ok_iff {α β : Type} {f : α → Emit β} {xs : List α} {ys : List β} :
    (xs.mapM f).outcome = .ok ys ↔ List.Forall₂ (fun x y => (f x).outcome = .ok y) xs ys := by
  induction xs generalizing ys with
  | nil =>
    rw [List.mapM_nil, List.forall₂_nil_left_iff]
    exact ⟨fun h => (Except.ok.inj h).symm, fun h => congrArg Except.ok h.symm⟩
  | cons x xs ih =>
    rw [List.mapM_cons]
    constructor
    · intro h
      obtain ⟨y, hy, h⟩ := Emit.of_bind_ok h
      obtain ⟨ys, hys, h⟩ := Emit.of_bind_ok h
      obtain rfl := Except.ok.inj h
      exact .cons hy (ih.mp hys)
    · rintro (_ | ⟨hy, hys⟩)
      rw [Emit.bind_of_ok hy, Emit.bind_of_ok (ih.mpr hys)]
      rfl

/-- What a condition adds to its list: its connective, and its text if it has one. -/
def Condition.Adds (t : Target) (env : Env) (c : Condition Rendered) (part : Bool × Option String) :
    Prop :=
  part.1 = c.isOr ∧ (c.render t env).outcome = .ok part.2

/-- A list is rendered just if each of its conditions is. -/
theorem renderConditions_eq_ok_iff {t : Target} {env : Env} {cs : List (Condition Rendered)}
    {sql : String} :
    (renderConditions t env cs).outcome = .ok sql ↔
      ∃ parts, List.Forall₂ (Condition.Adds t env) cs parts ∧ joinConditions "" parts = sql := by
  have hadds (c : Condition Rendered) (part : Bool × Option String) :
      (c.render t env >>= fun sql => pure (c.isOr, sql)).outcome = .ok part ↔
        c.Adds t env part := by
    constructor
    · intro h
      obtain ⟨text, htext, h⟩ := Emit.of_bind_ok h
      obtain rfl := Except.ok.inj h
      exact ⟨rfl, htext⟩
    · obtain ⟨isOr, text⟩ := part
      rintro ⟨rfl, htext⟩
      rw [Emit.bind_of_ok htext]
      rfl
  constructor
  · intro h
    obtain ⟨parts, hparts, h⟩ := Emit.of_bind_ok h
    exact ⟨parts, (Emit.mapM_eq_ok_iff.mp hparts).imp fun c part => (hadds c part).mp,
      Except.ok.inj h⟩
  · rintro ⟨parts, hparts, rfl⟩
    rw [renderConditions, Emit.bind_of_ok
      (Emit.mapM_eq_ok_iff.mpr (hparts.imp fun c part => (hadds c part).mpr))]
    rfl

/-- Only raw SQL that is not negated can be rendered to the empty text. -/
theorem Condition.of_render_empty {t : Target} {env : Env} {c : Condition Rendered}
    (h : (c.render t env).outcome = .ok (some "")) :
    c.isNot = false ∧ ∃ f, c.kind = .raw f ∧ (env.raw t.dialect f).outcome = .ok "" := by
  obtain ⟨isOr, isNot, kind⟩ := c
  have hrenders := ConditionKind.renders_of_ok h
  cases kind with
  | group query =>
    obtain ⟨inner, -, htext⟩ := hrenders
    cases inner <;> simp at htext
  | raw f =>
    obtain ⟨sql, hsql, htext⟩ := hrenders
    have hempty : negate isNot sql = "" := (Option.some.inj htext).symm
    cases isNot with
    | true => exact absurd hempty (by simp [negate])
    | false => exact ⟨rfl, f, rfl, hempty ▸ hsql⟩
  | _ =>
    obtain ⟨sql, hsql, htext⟩ := hrenders
    exact absurd (Option.some.inj htext).symm hsql

/-- **Connectives.**  A list that is rendered has the texts of its conditions in their order.  The
first that is not empty comes without its connective, and each that comes after it is preceded by
its own.  So no connective stands before an empty text, or at either end, just if no empty text
comes after one that is not; such a text is raw SQL that is not negated. -/
theorem renderConditions_text {t : Target} {env : Env} {cs : List (Condition Rendered)}
    {sql : String} (h : (renderConditions t env cs).outcome = .ok sql) :
    ∃ parts, List.Forall₂ (Condition.Adds t env) cs parts ∧
      sql = joinTexts ((presentTexts parts).dropWhile (·.2.isEmpty)) ∧
      (sql = joinTexts ((presentTexts parts).filter (!·.2.isEmpty)) ↔
        ∀ p ∈ (presentTexts parts).dropWhile (·.2.isEmpty), p.2 ≠ "") ∧
      ∀ c ∈ cs, (c.render t env).outcome = .ok (some "") →
        c.isNot = false ∧ ∃ f, c.kind = .raw f ∧ (env.raw t.dialect f).outcome = .ok "" := by
  obtain ⟨parts, hparts, rfl⟩ := renderConditions_eq_ok_iff.mp h
  rw [joinConditions_eq]
  exact ⟨parts, hparts, rfl, joinTexts_dropWhile_eq_filter_iff _,
    fun c _ => Condition.of_render_empty⟩

theorem renderConditions_text_first :
    let t : Target := { dialect := .generic }
    let cs : List (Condition Rendered) :=
      [{ kind := .raw ⟨"", []⟩ }, { isOr := true, kind := .null "a" },
        { isOr := true, isNot := true, kind := .columns "a" .eq "b" }]
    (renderConditions t {} cs).outcome = .ok "\"a\" IS NULL OR NOT \"a\" = \"b\"" ∧
      ∃ parts, List.Forall₂ (Condition.Adds t {}) cs parts ∧
        joinTexts ((presentTexts parts).dropWhile (·.2.isEmpty)) =
          "\"a\" IS NULL OR NOT \"a\" = \"b\"" := by
  intro t cs
  have hrender : (renderConditions t {} cs).outcome = .ok "\"a\" IS NULL OR NOT \"a\" = \"b\"" := by
    decide +kernel
  obtain ⟨parts, hparts, htext, -⟩ := renderConditions_text hrender
  exact ⟨hrender, parts, hparts, htext.symm⟩

/-- Raw SQL without text leaves its connective behind, here at the end of the list. -/
theorem compile_dangling_connective :
    let t : Target := { dialect := .generic }
    let cs : List (Condition Rendered) := [{ kind := .null "a" }, { kind := .raw ⟨"", []⟩ }]
    let q : Query :=
      runAll [.fromTable "t", .condition (.null "a"), .condition (.raw ⟨"", []⟩)] {}
    (renderConditions t {} cs).outcome = .ok "\"a\" IS NULL AND " ∧
      joinTexts ([(false, "\"a\" IS NULL"), (false, "")].filter (!·.2.isEmpty)) = "\"a\" IS NULL" ∧
      (compile t q).toOption.map (·.rawSql) =
        some "SELECT * FROM \"t\" WHERE \"a\" IS NULL AND " := by
  decide +kernel

end SqlBuilder
