import SqlBuilder.Dialect.Feature
import SqlBuilder.Render.Rendered

/-!
# Rendering conditions

The text of a condition and of a list of conditions.  A group without conditions has no text, and a
list joins the texts that are there: each but the first is preceded by the connective of its own
condition (`joinConditions`).
-/

namespace SqlBuilder

/-- A negated condition. -/
def negate (isNot : Bool) (sql : String) : String :=
  if isNot then "NOT (" ++ sql ++ ")" else sql

/-- The word before a negated operator. -/
def notKeyword (isNot : Bool) : String :=
  if isNot then "NOT " else ""

/-- The test that stands for a column in an empty list. -/
def emptyListTest (isNot : Bool) : String :=
  if isNot then "1 = 1 /* NOT IN [empty list] */" else "1 = 0 /* IN [empty list] */"

/-- A column compared with a pattern: a dialect with an operator of its own uses it to ignore the
case, and for the others column and text are put into lower case. -/
def patternOperands (d : Dialect) (column text : String) (caseSensitive : Bool) :
    String × String × String :=
  if caseSensitive then
    (column, "LIKE", text)
  else
    match d.caseInsensitiveLike? with
    | some operator => (column, operator, text)
    | none => (d.lower column, "LIKE", Text.toLower text)

/-- The clause after a pattern that names its escape character. -/
def escapeClause : Option Char → String
  | some c => " ESCAPE '" ++ String.singleton c ++ "'"
  | none => ""

/-- What a condition demands, in SQL; `none` for a group without conditions. -/
def ConditionKind.render (t : Target) (env : Env) (isNot : Bool) :
    ConditionKind Rendered → Emit (Option String)
  | .compare column operator value => do
    let p ← env.placeholder value
    return some (negate isNot (t.dialect.wrap column ++ " " ++ operator.symbol ++ " " ++ p))
  | .pattern column shape value caseSensitive escape => do
    match ← Emit.ofExcept (env.resolveValue value) with
    | .text s =>
      let (column, operator, s) := patternOperands t.dialect (t.dialect.wrap column) s caseSensitive
      let p ← env.placeholder (.text (shape.pattern s))
      return some (negate isNot (column ++ " " ++ operator ++ " " ++ p ++ escapeClause escape))
    | _ => Emit.fail (.patternNotText column)
  | .datePart part column operator value => do
    let value ← Emit.ofExcept (env.resolveValue value)
    let p ← env.placeholder value
    return some (negate isNot
      (t.dialect.dateCondition (t.dialect.wrap column) part operator.symbol p value))
  | .columns first operator second =>
    return some (notKeyword isNot ++ t.dialect.wrap first ++ " " ++ operator.symbol ++ " " ++
      t.dialect.wrap second)
  | .null column => return some (t.dialect.wrap column ++ " IS " ++ notKeyword isNot ++ "NULL")
  | .boolean column value =>
    return some (t.dialect.wrap column ++ (if isNot then " != " else " = ") ++
      t.dialect.boolLiteral value)
  | .between column lower higher => do
    let low ← env.placeholder lower
    let high ← env.placeholder higher
    return some (t.dialect.wrap column ++ " " ++ notKeyword isNot ++ "BETWEEN " ++ low ++ " AND " ++
      high)
  | .inList column values => do
    let list ← env.placeholders values
    if list.isEmpty then
      return some (emptyListTest isNot)
    else
      return some (t.dialect.wrap column ++ " " ++ notKeyword isNot ++ "IN (" ++ list ++ ")")
  | .inQuery column query => do
    let sql ← query.select env
    return some (t.dialect.wrap column ++ " " ++ notKeyword isNot ++ "IN (" ++ sql ++ ")")
  | .nonempty query =>
    if query.hasSource then do
      let sql ←
        if t.options.omitSelectInsideExists then query.existsOperand env else query.select env
      return some (notKeyword isNot ++ "EXISTS (" ++ sql ++ ")")
    else
      Emit.fail .existsWithoutSource
  | .group query => do
    let inner ← query.group env
    return inner.map fun sql => notKeyword isNot ++ "(" ++ sql ++ ")"
  | .raw fragment => do
    let sql ← env.raw t.dialect fragment
    return some (negate isNot sql)
  | .queryCompare query operator value => do
    let sql ← query.select env
    let p ← env.placeholder value
    return some (negate isNot ("(" ++ sql ++ ") " ++ operator.symbol ++ " " ++ p))
  | .columnQuery column operator query => do
    let sql ← query.select env
    return some (negate isNot
      (t.dialect.wrap column ++ " " ++ operator.symbol ++ " (" ++ sql ++ ")"))

/-- A condition in SQL. -/
def Condition.render (t : Target) (env : Env) (c : Condition Rendered) : Emit (Option String) :=
  c.kind.render t env c.isNot

/-- The connective before a condition. -/
def connective (isOr : Bool) : String :=
  if isOr then " OR " else " AND "

/-- Joins the texts of conditions to what stands before them.  As long as nothing stands there, a
text comes without its connective. -/
def joinConditions (before : String) : List (Bool × Option String) → String
  | [] => before
  | (_, none) :: rest => joinConditions before rest
  | (isOr, some sql) :: rest =>
    joinConditions (if before.isEmpty then sql else before ++ connective isOr ++ sql) rest

/-- A list of conditions in SQL. -/
def renderConditions (t : Target) (env : Env) (cs : List (Condition Rendered)) : Emit String := do
  let parts ← cs.mapM fun c => do
    let sql ← c.render t env
    return (c.isOr, sql)
  return joinConditions "" parts

end SqlBuilder
