import SqlBuilder.Proofs.Markup.Value
import SqlBuilder.Render.Condition

/-!
# Conditions as markup

A subquery whose texts are markups (`Marked`) takes the place of a rendered subquery, and the
counterparts of the renderers of conditions write their values in place.  A condition is written
alike on both sides (`ConditionKind.renders`), and so is a list of conditions with its connectives
(`renderConditions_renders`).
-/

namespace SqlBuilder

open Markup

/-! ## Subqueries -/

/-- A common table expression with its values in place. -/
structure MarkedCte where
  aliasName : Option String
  body : Env → Except Error Markup

instance : Aliased MarkedCte where
  alias? := MarkedCte.aliasName

/-- What an enclosing statement can ask of a subquery, with its values in place. -/
structure Marked where
  aliasName : Option String
  hasSource : Bool
  select : Env → Except Error Markup
  existsOperand : Env → Except Error Markup
  group : Env → Except Error (Option Markup)
  filter : Env → Except Error Markup
  ctes : List MarkedCte

instance : Aliased Marked where
  alias? := Marked.aliasName

/-- Both are missing, or the markup comes to the text. -/
def Markup.SpellsOption (strict : Prop) : Option Markup → Option String → List Value → Prop
  | none, none, bs => bs = []
  | some m, some s, bs => Spells strict m s bs
  | _, _, _ => False

/-- A common table expression is written alike on both sides. -/
structure Cte.Marks (strict : Prop) (c : Cte) (m : MarkedCte) : Prop where
  aliasName : m.aliasName = c.aliasName
  plain : ∀ a ∈ c.aliasName, Plain a
  body : ∀ env : Env, env.Unmarked → Emit.Renders (Spells strict) (m.body env) (c.body env)

/-- A subquery is written alike on both sides, whatever is asked of it. -/
structure Rendered.Marks (strict : Prop) (r : Rendered) (m : Marked) : Prop where
  aliasName : m.aliasName = r.aliasName
  plain : ∀ a ∈ r.aliasName, Plain a
  hasSource : m.hasSource = r.hasSource
  select : ∀ env : Env, env.Unmarked →
    Emit.Renders (Spells strict) (m.select env) (r.select env)
  existsOperand : ∀ env : Env, env.Unmarked →
    Emit.Renders (Spells strict) (m.existsOperand env) (r.existsOperand env)
  group : ∀ env : Env, env.Unmarked →
    Emit.Renders (SpellsOption strict) (m.group env) (r.group env)
  filter : ∀ env : Env, env.Unmarked →
    Emit.Renders (Spells strict) (m.filter env) (r.filter env)
  ctes : List.Forall₂ (Cte.Marks strict) r.ctes m.ctes

/-! ## Conditions with their values in place -/

/-- A negated condition. -/
def negateMarkup (isNot : Bool) (m : Markup) : Markup :=
  if isNot then "NOT (" ++ m ++ ")" else m

/-- Compares a part of a column with a value in its place; `value` is what stands there. -/
def Dialect.dateMarkup (d : Dialect) (column : String) (part : DatePart) (operator : String)
    (p : Markup) (value : Value) : Markup :=
  let compared : Markup := " " ++ operator ++ " " ++ p
  let extracted : Markup := "EXTRACT(" ++ part.keyword ++ " FROM " ++ column ++ ")" ++ compared
  let asText (format : String) : Markup :=
    "TO_CHAR(" ++ column ++ ", '" ++ format ++ "') " ++ operator ++ " TO_CHAR(TO_DATE(" ++ p ++
      ", '" ++ format ++ "'), '" ++ format ++ "')"
  match d, part with
  | sqlServer, .date | sqlServer, .time =>
    "CAST(" ++ column ++ " AS " ++ part.keyword ++ ")" ++ compared
  | sqlServer, _ => "DATEPART(" ++ part.keyword ++ ", " ++ column ++ ")" ++ compared
  | postgres, .date => column ++ "::date" ++ compared
  | postgres, .time => column ++ "::time" ++ compared
  | postgres, _ => "DATE_PART('" ++ part.keyword ++ "', " ++ column ++ ")" ++ compared
  | sqlite, _ =>
    "strftime('" ++ timeFormat part ++ "', " ++ column ++ ") " ++ operator ++ " cast(" ++ p ++
      " as text)"
  | oracle, .date => asText "YY-MM-DD"
  | oracle, .time => asText (clockFormat value)
  | oracle, _ => extracted
  | firebird, .date | firebird, .time =>
    "CAST(" ++ column ++ " as " ++ part.keyword ++ ")" ++ compared
  | firebird, _ => extracted
  | generic, _ | mySql, _ => part.keyword ++ "(" ++ column ++ ")" ++ compared

/-- What a condition demands, with its values in place; `none` for a group without conditions. -/
def ConditionKind.markup (t : Target) (env : Env) (isNot : Bool) :
    ConditionKind Marked → Except Error (Option Markup)
  | .compare column operator value => do
    let p ← env.valueMarkup value
    return some (negateMarkup isNot (t.dialect.wrap column ++ " " ++ operator.symbol ++ " " ++ p))
  | .pattern column shape value caseSensitive escape => do
    match ← env.resolveValue value with
    | .text s =>
      let (column, operator, s) := patternOperands t.dialect (t.dialect.wrap column) s caseSensitive
      let p ← env.valueMarkup (.text (shape.pattern s))
      return some (negateMarkup isNot
        (column ++ " " ++ operator ++ " " ++ p ++ escapeClause escape))
    | _ => .error (.patternNotText column)
  | .datePart part column operator value => do
    let value ← env.resolveValue value
    let p ← env.valueMarkup value
    return some (negateMarkup isNot
      (t.dialect.dateMarkup (t.dialect.wrap column) part operator.symbol p value))
  | .columns first operator second =>
    return some (notKeyword isNot ++ t.dialect.wrap first ++ " " ++ operator.symbol ++ " " ++
      t.dialect.wrap second : String)
  | .null column =>
    return some (t.dialect.wrap column ++ " IS " ++ notKeyword isNot ++ "NULL" : String)
  | .boolean column value =>
    return some (t.dialect.wrap column ++ (if isNot then " != " else " = ") ++
      t.dialect.boolLiteral value : String)
  | .between column lower higher => do
    let low ← env.valueMarkup lower
    let high ← env.valueMarkup higher
    return some (t.dialect.wrap column ++ " " ++ notKeyword isNot ++ "BETWEEN " ++ low ++ " AND " ++
      high)
  | .inList column values => do
    let list ← env.valueMarkups values
    if List.isEmpty list then
      return some (emptyListTest isNot)
    else
      return some (t.dialect.wrap column ++ " " ++ notKeyword isNot ++ "IN (" ++ list ++ ")")
  | .inQuery column query => do
    let sql ← query.select env
    return some (t.dialect.wrap column ++ " " ++ notKeyword isNot ++ "IN (" ++ sql ++ ")")
  | .nonempty query =>
    if query.hasSource then do
      let sql ←
        if t.options.omitSelectInsideExists then query.existsOperand env else query.select env
      return some (notKeyword isNot ++ "EXISTS (" ++ sql ++ ")")
    else
      .error .existsWithoutSource
  | .group query => do
    let inner ← query.group env
    return inner.map fun sql => notKeyword isNot ++ "(" ++ sql ++ ")"
  | .raw fragment => do
    let sql ← env.rawMarkup t.dialect fragment
    return some (negateMarkup isNot sql)
  | .queryCompare query operator value => do
    let sql ← query.select env
    let p ← env.valueMarkup value
    return some (negateMarkup isNot ("(" ++ sql ++ ") " ++ operator.symbol ++ " " ++ p))
  | .columnQuery column operator query => do
    let sql ← query.select env
    return some (negateMarkup isNot
      (t.dialect.wrap column ++ " " ++ operator.symbol ++ " (" ++ sql ++ ")"))

/-- A condition with its values in place. -/
def Condition.markup (t : Target) (env : Env) (c : Condition Marked) :
    Except Error (Option Markup) :=
  c.kind.markup t env c.isNot

/-- Joins the markups of conditions to what stands before them. -/
def joinConditionMarkups (before : Markup) : List (Bool × Option Markup) → Markup
  | [] => before
  | (_, none) :: rest => joinConditionMarkups before rest
  | (isOr, some m) :: rest =>
    joinConditionMarkups (if List.isEmpty before then m else before ++ connective isOr ++ m) rest

/-- A list of conditions with their values in place. -/
def markupConditions (t : Target) (env : Env) (cs : List (Condition Marked)) :
    Except Error Markup := do
  let parts ← cs.mapM fun c => do
    let sql ← c.markup t env
    return (c.isOr, sql)
  return joinConditionMarkups [] parts

/-! ## Words without question marks -/

theorem plain_symbol (o : Operator) : Plain o.symbol := by
  cases o <;> decide

theorem plain_notKeyword (isNot : Bool) : Plain (notKeyword isNot) := by
  cases isNot <;> decide

theorem plain_emptyListTest (isNot : Bool) : Plain (emptyListTest isNot) := by
  cases isNot <;> decide

theorem plain_boolLiteral (d : Dialect) (b : Bool) : Plain (d.boolLiteral b) := by
  cases d <;> cases b <;> decide

theorem plain_keyword (part : DatePart) : Plain part.keyword := by
  cases part <;> decide

theorem divider_connective (isOr : Bool) : Divider (connective isOr) := by
  cases isOr <;> decide

theorem plain_escapeClause {escape : Option Char} (h : ∀ c ∈ escape, c ≠ '?') :
    Plain (escapeClause escape) := by
  cases escape with
  | none => decide
  | some c =>
    have hopen : Plain " ESCAPE '" := by decide
    exact (hopen.append (plain_singleton (h c rfl))).append (by decide)

/-! ## Rendering conditions -/

variable {strict : Prop} {t : Target} {env : Env}

theorem Markup.Spells.negate {m : Markup} {s : String} {bs : List Value}
    (h : Spells strict m s bs) (isNot : Bool) :
    Spells strict (negateMarkup isNot m) (negate isNot s) bs := by
  cases isNot with
  | false => exact h
  | true => exact ((spells_divider (by decide)).append h).add (by decide)

/-- The column and the operator of a pattern have no question mark. -/
theorem plain_patternOperands {d : Dialect} {column : String} (h : Plain column) (text : String)
    (caseSensitive : Bool) :
    Plain (patternOperands d column text caseSensitive).1 ∧
      Plain (patternOperands d column text caseSensitive).2.1 := by
  have hlike : Plain "LIKE" := by decide
  have hilike : Plain "ILIKE" := by decide
  have hopen : Plain "LOWER(" := by decide
  have hlower : Plain (d.lower column) := (hopen.append h).append (by decide)
  cases caseSensitive with
  | true => exact ⟨h, hlike⟩
  | false =>
    cases d
    case postgres => exact ⟨h, hilike⟩
    all_goals exact ⟨hlower, hlike⟩

theorem plain_timeFormat (part : DatePart) : Plain (Dialect.timeFormat part) := by
  cases part <;> decide

theorem plain_clockFormat (value : Value) : Plain (Dialect.clockFormat value) := by
  have hshort : Plain "HH24:MI" := by decide
  have hlong : Plain "HH24:MI:SS" := by decide
  rw [Dialect.clockFormat]
  split
  · split
    · exact hshort
    · exact hlong
  · exact hlong

/-- A part of a date is compared with the same value in the same place. -/
theorem dateMarkup_spells {m : Markup} {p : String} {bs : List Value} (h : Spells strict m p bs)
    (d : Dialect) {column : String} (hcolumn : Plain column) (part : DatePart) (o : Operator)
    (value : Value) :
    Spells strict (d.dateMarkup column part o.symbol m value)
      (d.dateCondition column part o.symbol p value) bs := by
  have ho : Plain o.symbol := plain_symbol o
  have hpart : Plain part.keyword := plain_keyword part
  have hcompared : Spells strict (" " ++ o.symbol ++ " " ++ m) (" " ++ o.symbol ++ " " ++ p) bs :=
    (((spells_text (by decide)).add ho).divide (by decide)).append h
  have hcall : ∀ {opening between : String}, Plain opening → Plain between →
      Spells strict (opening ++ part.keyword ++ between ++ column ++ ")" ++
          (" " ++ o.symbol ++ " " ++ m))
        (opening ++ part.keyword ++ between ++ column ++ ")" ++ (" " ++ o.symbol ++ " " ++ p)) bs :=
    fun hopening hbetween =>
      (((((spells_text hopening).add hpart).add hbetween).add hcolumn).divide (by decide)).append
        hcompared
  have hcast : ∀ {between : String}, Plain between →
      Spells strict ("CAST(" ++ column ++ between ++ part.keyword ++ ")" ++
          (" " ++ o.symbol ++ " " ++ m))
        ("CAST(" ++ column ++ between ++ part.keyword ++ ")" ++ (" " ++ o.symbol ++ " " ++ p)) bs :=
    fun hbetween =>
      (((((spells_text (by decide)).add hcolumn).add hbetween).add hpart).divide (by decide)).append
        hcompared
  have hsuffix : ∀ {suffix : String}, Divider suffix →
      Spells strict (column ++ suffix ++ (" " ++ o.symbol ++ " " ++ m))
        (column ++ suffix ++ (" " ++ o.symbol ++ " " ++ p)) bs :=
    fun hsuffix => ((spells_text hcolumn).divide hsuffix).append hcompared
  have htext : ∀ {format : String}, Plain format →
      Spells strict
        ("TO_CHAR(" ++ column ++ ", '" ++ format ++ "') " ++ o.symbol ++ " TO_CHAR(TO_DATE(" ++ m ++
          ", '" ++ format ++ "'), '" ++ format ++ "')")
        ("TO_CHAR(" ++ column ++ ", '" ++ format ++ "') " ++ o.symbol ++ " TO_CHAR(TO_DATE(" ++ p ++
          ", '" ++ format ++ "'), '" ++ format ++ "')") bs :=
    fun hformat =>
      (((((((((((((spells_text (by decide)).add hcolumn).add (by decide)).add hformat).add
        (by decide)).add ho).divide (by decide)).append h).add (by decide)).add hformat).add
        (by decide)).add hformat).add (by decide))
  cases d with
  | sqlServer =>
    cases part
    case date | time => exact hcast (by decide)
    all_goals exact hcall (by decide) (by decide)
  | postgres =>
    cases part
    case date | time => exact hsuffix (by decide)
    all_goals exact hcall (by decide) (by decide)
  | sqlite =>
    exact ((((((((spells_text (by decide)).add (plain_timeFormat part)).add (by decide)).add
      hcolumn).add (by decide)).add ho).divide (by decide)).append h).add (by decide)
  | oracle =>
    cases part
    case date => exact htext (by decide)
    case time => exact htext (plain_clockFormat value)
    all_goals exact hcall (by decide) (by decide)
  | firebird =>
    cases part
    case date | time => exact hcast (by decide)
    all_goals exact hcall (by decide) (by decide)
  | generic | mySql =>
    exact ((((spells_text hpart).add (by decide)).add hcolumn).divide (by decide)).append hcompared

section Rendering

variable {γ : Type} {u : γ → Prop} {f : γ → Rendered} {g : γ → Marked}

/-- A condition is written alike on both sides when its subqueries are. -/
theorem ConditionKind.renders (hsub : ∀ x, u x → (f x).Marks strict (g x)) (henv : env.Unmarked)
    (isNot : Bool) (k : ConditionKind γ) (hk : (k.map u).Unmarked) :
    Emit.Renders (SpellsOption strict) ((k.map g).markup t env isNot)
      ((k.map f).render t env isNot) := by
  have hnot : Plain (notKeyword isNot) := plain_notKeyword isNot
  cases k with
  | compare column operator value =>
    obtain ⟨hcolumn, hvalue⟩ := hk
    refine .map (Env.placeholder_renders strict henv hvalue) fun m p bs hp => ?_
    exact Spells.negate
      (((((spells_text (hcolumn.wrap _)).add (by decide)).add (plain_symbol _)).divide
        (by decide)).append hp.toSpells) isNot
  | pattern column shape value caseSensitive escape =>
    obtain ⟨hcolumn, hvalue, hescape⟩ := hk
    refine .bind (.ofExcept (Env.resolveValue_unmarked henv hvalue)) fun v w bs hv => ?_
    obtain ⟨rfl, -, rfl⟩ := hv
    cases v with
    | text text =>
      obtain ⟨hoperand, hoperator⟩ :=
        plain_patternOperands (d := t.dialect) (hcolumn.wrap t.dialect) text caseSensitive
      have hescaped : Plain (escapeClause escape) := plain_escapeClause hescape
      refine .map (Env.placeholder_renders strict henv trivial) fun m p bs hp => ?_
      exact Spells.negate
        ((((((spells_text hoperand).add (by decide)).add hoperator).divide (by decide)).append
          hp.toSpells).add hescaped) isNot
    | _ => exact .fail rfl
  | datePart part column operator value =>
    obtain ⟨hcolumn, hvalue⟩ := hk
    refine .bind (.ofExcept (Env.resolveValue_unmarked henv hvalue)) fun v w bs hv => ?_
    obtain ⟨rfl, hv, rfl⟩ := hv
    refine .map (Env.placeholder_renders strict henv hv) fun m p bs hp => ?_
    exact (dateMarkup_spells hp.toSpells _ (hcolumn.wrap _) part operator v).negate isNot
  | columns first operator second =>
    obtain ⟨hfirst, hsecond⟩ := hk
    exact .pure (spells_text (((((hnot.append (hfirst.wrap _)).append (by decide)).append
      (plain_symbol _)).append (by decide)).append (hsecond.wrap _)))
  | null column =>
    have hcolumn : Plain column := hk
    exact .pure (spells_text ((((hcolumn.wrap _).append (by decide)).append hnot).append
      (by decide)))
  | boolean column value =>
    have hcolumn : Plain column := hk
    have hsign : Plain (if isNot then " != " else " = ") := by cases isNot <;> decide
    exact .pure (spells_text (((hcolumn.wrap _).append hsign).append (plain_boolLiteral _ _)))
  | between column lower higher =>
    obtain ⟨hcolumn, hlower, hhigher⟩ := hk
    refine .bind (Env.placeholder_renders strict henv hlower) fun low p bs hlow => ?_
    refine .map (Env.placeholder_renders strict henv hhigher) fun high p' cs hhigh => ?_
    exact ((((((spells_text (hcolumn.wrap _)).add (by decide)).add hnot).divide (by decide)).append
      hlow.toSpells).divide (by decide)).append hhigh.toSpells
  | inList column values =>
    obtain ⟨hcolumn, hvalues⟩ := hk
    refine .bind (Env.placeholders_renders strict henv hvalues) fun m list bs hm => ?_
    rw [hm.isEmpty_eq]
    cases hlist : list.isEmpty with
    | true =>
      obtain rfl : list = "" := String.isEmpty_iff.mp hlist
      obtain rfl : bs = [] := hm.toSpells.bindings_eq_nil
      exact .pure (spells_text (plain_emptyListTest isNot))
    | false =>
      refine .pure ?_
      rw [List.append_nil]
      exact (((((spells_text (hcolumn.wrap t.dialect)).add (by decide)).add hnot).divide
        (by decide)).append hm.toSpells).add (by decide)
  | inQuery column query =>
    obtain ⟨hcolumn, hquery⟩ := hk
    refine .map ((hsub query hquery).select env henv) fun m s bs hm => ?_
    exact (((((spells_text (hcolumn.wrap _)).add (by decide)).add hnot).divide (by decide)).append
      hm).add (by decide)
  | nonempty query =>
    have hquery := hsub query hk
    have hexists : ∀ {m : Markup} {s : String} {bs : List Value}, Spells strict m s bs →
        Spells strict (notKeyword isNot ++ "EXISTS (" ++ m ++ ")")
          (notKeyword isNot ++ "EXISTS (" ++ s ++ ")") bs :=
      fun hm => (((spells_text hnot).divide (by decide)).append hm).add (by decide)
    simp only [ConditionKind.map, ConditionKind.markup, ConditionKind.render, hquery.hasSource]
    split
    · split
      · exact .map (hquery.existsOperand env henv) fun m s bs hm => hexists hm
      · exact .map (hquery.select env henv) fun m s bs hm => hexists hm
    · exact .fail rfl
  | group query =>
    refine .map ((hsub query hk).group env henv) fun m s bs hm => ?_
    cases m <;> cases s
    case none.none => exact hm
    case some.some =>
      exact (((spells_text hnot).divide (by decide)).append hm).add (by decide)
    all_goals exact hm.elim
  | raw fragment =>
    refine .map (Env.raw_renders strict henv t.dialect fragment hk) fun m s bs hm => ?_
    exact hm.negate isNot
  | queryCompare query operator value =>
    obtain ⟨hquery, hvalue⟩ := hk
    refine .bind ((hsub query hquery).select env henv) fun m s bs hm => ?_
    refine .map (Env.placeholder_renders strict henv hvalue) fun n p cs hp => ?_
    exact (((((((spells_divider (by decide)).append hm).add (by decide)).add
      (plain_symbol _)).divide (by decide)).append hp.toSpells).negate isNot)
  | columnQuery column operator query =>
    obtain ⟨hcolumn, hquery⟩ := hk
    refine .map ((hsub query hquery).select env henv) fun m s bs hm => ?_
    exact ((((((spells_text (hcolumn.wrap _)).add (by decide)).add (plain_symbol _)).divide
      (by decide)).append hm).add (by decide)).negate isNot

/-- The texts of conditions are joined alike on both sides. -/
theorem Markup.Spells.joinConditions {ms : List (Bool × Option Markup)}
    {ss : List (Bool × Option String)} {cs : List Value}
    (hparts : Sequence (fun m s vs => m.1 = s.1 ∧ SpellsOption strict m.2 s.2 vs) ms ss cs)
    {before : Markup} {s : String} {bs : List Value} (h : Spells strict before s bs) :
    Spells strict (joinConditionMarkups before ms) (SqlBuilder.joinConditions s ss) (bs ++ cs) := by
  induction hparts generalizing before s bs with
  | nil => simpa only [joinConditionMarkups, SqlBuilder.joinConditions, List.append_nil] using h
  | @cons part sql ms ss vs ws hpart _ ih =>
    obtain ⟨isOr, m⟩ := part
    obtain ⟨isOr', s'⟩ := sql
    obtain ⟨rfl, hm⟩ := hpart
    cases m <;> cases s'
    case none.none =>
      obtain rfl : vs = [] := hm
      exact ih h
    case some.some m s' =>
      rw [joinConditionMarkups, SqlBuilder.joinConditions, h.isEmpty_eq, ← List.append_assoc]
      cases hs : s.isEmpty with
      | true =>
        obtain rfl : s = "" := String.isEmpty_iff.mp hs
        obtain rfl : bs = [] := h.bindings_eq_nil
        exact ih hm
      | false => exact ih ((h.divide (divider_connective isOr)).append hm)
    all_goals exact hm.elim

/-- A list of conditions is written alike on both sides when their subqueries are. -/
theorem renderConditions_renders (hsub : ∀ x, u x → (f x).Marks strict (g x))
    (henv : env.Unmarked) (cs : List (Condition γ))
    (hcs : ∀ c ∈ cs.map (Condition.map u), c.Unmarked) :
    Emit.Renders (Spells strict) (markupConditions t env (cs.map (Condition.map g)))
      (renderConditions t env (cs.map (Condition.map f))) := by
  rw [markupConditions, renderConditions]
  refine .map (.mapM cs fun c hc => ?_) fun ms ss bs hparts =>
    spells_nil.toSpells.joinConditions hparts
  have hkind : (c.kind.map u).Unmarked := hcs _ (List.mem_map_of_mem hc)
  refine .map (ConditionKind.renders hsub henv c.isNot c.kind hkind) fun m s bs hm => ?_
  exact ⟨rfl, hm⟩

end Rendering

end SqlBuilder
