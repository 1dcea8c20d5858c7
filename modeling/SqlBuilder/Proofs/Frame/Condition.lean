import SqlBuilder.Proofs.Frame.Value
import SqlBuilder.Proofs.Query.Sections
import SqlBuilder.Render.Condition

/-!
# The frame of conditions

Conditions on a shared context, and that they keep its frame (`conditions_implements`).  What
an enclosing statement can ask of a subquery is here a renderer on the shared context each
(`Prepared`).

The subqueries of a condition are known through two functions only, `f` for the shared context and
`g` for surroundings that are handed in, of which the one implements the other.
-/

namespace SqlBuilder

open Rendering

/-- What an enclosing statement can ask of a subquery, on the shared context. -/
structure Prepared where
  aliasName : Option String
  hasSource : Bool
  select : Rendering String
  existsOperand : Rendering String
  group : Rendering (Option String)
  filter : Rendering String

instance : Aliased Prepared where
  alias? := Prepared.aliasName

/-- A prepared subquery comes to what the rendered one comes to.  The bodies of the common table
expressions that it brings along are no part of it, but of the statement around. -/
structure Prepared.Implements (use : PagingUse) (p : Prepared) (r : Rendered) : Prop where
  aliasName : p.aliasName = r.aliasName
  hasSource : p.hasSource = r.hasSource
  select : Rendering.Implements use p.select r.select
  existsOperand : Rendering.Implements use p.existsOperand r.existsOperand
  group : Rendering.Implements use p.group r.group
  filter : Rendering.Implements use p.filter r.filter
  ctes : ∀ c ∈ r.ctes, ∀ env, (c.body env).Sane use

/-! ## Conditions on the shared context -/

/-- What a condition demands. -/
def ConditionKind.compile (t : Target) (isNot : Bool) :
    ConditionKind Prepared → Rendering (Option String)
  | .compare column operator value => do
    let p ← parameter value
    return some (negate isNot (t.dialect.wrap column ++ " " ++ operator.symbol ++ " " ++ p))
  | .pattern column shape value caseSensitive escape => do
    match ← resolveValue value with
    | .text s =>
      let (column, operator, s) := patternOperands t.dialect (t.dialect.wrap column) s caseSensitive
      let p ← parameter (.text (shape.pattern s))
      return some (negate isNot (column ++ " " ++ operator ++ " " ++ p ++ escapeClause escape))
    | _ => raise (.patternNotText column)
  | .datePart part column operator value => do
    let value ← resolveValue value
    let p ← parameter value
    return some (negate isNot
      (t.dialect.dateCondition (t.dialect.wrap column) part operator.symbol p value))
  | .columns first operator second =>
    return some (notKeyword isNot ++ t.dialect.wrap first ++ " " ++ operator.symbol ++ " " ++
      t.dialect.wrap second)
  | .null column => return some (t.dialect.wrap column ++ " IS " ++ notKeyword isNot ++ "NULL")
  | .boolean column value =>
    return some (t.dialect.wrap column ++ (if isNot then " != " else " = ") ++
      t.dialect.boolLiteral value)
  | .between column lower higher => do
    let low ← parameter lower
    let high ← parameter higher
    return some (t.dialect.wrap column ++ " " ++ notKeyword isNot ++ "BETWEEN " ++ low ++ " AND " ++
      high)
  | .inList column values => do
    let list ← parameters values
    if list.isEmpty then
      return some (emptyListTest isNot)
    else
      return some (t.dialect.wrap column ++ " " ++ notKeyword isNot ++ "IN (" ++ list ++ ")")
  | .inQuery column query => do
    let sql ← query.select
    return some (t.dialect.wrap column ++ " " ++ notKeyword isNot ++ "IN (" ++ sql ++ ")")
  | .nonempty query =>
    if query.hasSource then do
      let sql ← if t.options.omitSelectInsideExists then query.existsOperand else query.select
      return some (notKeyword isNot ++ "EXISTS (" ++ sql ++ ")")
    else
      raise .existsWithoutSource
  | .group query => do
    let inner ← query.group
    return inner.map fun sql => notKeyword isNot ++ "(" ++ sql ++ ")"
  | .raw fragment => do
    let sql ← Rendering.raw t.dialect fragment
    return some (negate isNot sql)
  | .queryCompare query operator value => do
    let sql ← query.select
    let p ← parameter value
    return some (negate isNot ("(" ++ sql ++ ") " ++ operator.symbol ++ " " ++ p))
  | .columnQuery column operator query => do
    let sql ← query.select
    return some (negate isNot
      (t.dialect.wrap column ++ " " ++ operator.symbol ++ " (" ++ sql ++ ")"))

/-- A list of conditions. -/
def compileConditions (t : Target) (cs : List (Condition Prepared)) : Rendering String := do
  let parts ← cs.mapM fun c => do
    let sql ← c.kind.compile t c.isNot
    return (c.isOr, sql)
  return joinConditions "" parts

/-! ## Their frame -/

variable {t : Target} {use : PagingUse} {γ : Type} {f : γ → Prepared} {g : γ → Rendered}

/-- A condition keeps its frame, whatever it demands. -/
theorem ConditionKind.implements (hsub : ∀ x, (f x).Implements use (g x)) (isNot : Bool)
    (k : ConditionKind γ) :
    Rendering.Implements use ((k.map f).compile t isNot) fun env =>
      (k.map g).render t env isNot := by
  cases k with
  | compare column operator value => exact (parameter_implements value).map _
  | pattern column shape value caseSensitive escape =>
    refine (resolveValue_implements value).bind fun v => ?_
    cases v with
    | text s => exact (parameter_implements _).map _
    | _ => exact .raise trivial
  | datePart part column operator value =>
    exact (resolveValue_implements value).bind fun v => (parameter_implements v).map _
  | columns first operator second => exact .pure _
  | null column => exact .pure _
  | boolean column value => exact .pure _
  | between column lower higher =>
    exact (parameter_implements lower).bind fun low => (parameter_implements higher).map _
  | inList column values =>
    refine (parameters_implements values).bind fun list => ?_
    exact .ite (fun _ => .pure _) fun _ => .pure _
  | inQuery column x => exact (hsub x).select.map _
  | nonempty x =>
    change Rendering.Implements use (if (f x).hasSource then _ else _)
      fun env => if (g x).hasSource then _ else _
    rw [(hsub x).hasSource]
    refine .ite (fun _ => ?_) fun _ => .raise trivial
    exact .ite (fun _ => (hsub x).existsOperand.map _) fun _ => (hsub x).select.map _
  | group x => exact (hsub x).group.map _
  | raw fragment => exact (raw_implements t.dialect fragment).map _
  | queryCompare x operator value =>
    exact (hsub x).select.bind fun sql => (parameter_implements value).map _
  | columnQuery column operator x => exact (hsub x).select.map _

/-- **Conditions.** A list of conditions keeps its frame. -/
theorem conditions_implements (hsub : ∀ x, (f x).Implements use (g x))
    (cs : List (Condition γ)) :
    Rendering.Implements use (compileConditions t (cs.map (Condition.map f))) fun env =>
      renderConditions t env (cs.map (Condition.map g)) := by
  have hparts : Rendering.Implements use
      ((cs.map (Condition.map f)).mapM fun c => do
        let sql ← c.kind.compile t c.isNot
        return (c.isOr, sql))
      fun env => (cs.map (Condition.map g)).mapM fun c => do
        let sql ← c.render t env
        return (c.isOr, sql) :=
    .mapM (f := fun (c : Condition Rendered) env => do
        let sql ← c.render t env
        return (c.isOr, sql))
      cs fun c _ => (ConditionKind.implements hsub c.isNot c.kind).map _
  exact hparts.map (joinConditions "")

end SqlBuilder
