import SqlBuilder.Query.Basic

/-!
# Adding conditions

Queries and joins take conditions in the same way (`ConditionBuilder`): a step adds a condition with
the pending connective and negation and thereby uses them up.  The steps of this module are written
to be chained: `q |> Conditions.or |> Conditions.null "deleted_at"`.

Three steps do more than add what they are given.  `filter` turns a comparison with null into a null
test, and an equality with a truth value into a truth test.  `existsIn` refuses a subquery without a
source of rows.  `group` drops a group that holds no condition, together with the pending modifiers.

`ConditionCall` is the same vocabulary as data, over subqueries of any type.
-/

namespace SqlBuilder

/-- Things that conditions can be added to. -/
class ConditionBuilder (β : Type) where
  /-- Adds a condition with the pending modifiers. -/
  addCondition : ConditionKind Subquery → β → β
  /-- An empty query for groups and subqueries. -/
  childQuery : β → Query
  /-- Joins the next condition with OR. -/
  or : β → β
  /-- Negates the next condition. -/
  not : β → β
  /-- Drops the pending modifiers. -/
  resetPending : β → β
  /-- Records an error, unless there is one. -/
  recordError : Error → β → β

namespace QueryOver

variable {σ : Type}

/-- Joins the next condition with OR. -/
def or (q : QueryOver σ) : QueryOver σ :=
  { q with pending := { q.pending with or := true } }

/-- Negates the next condition. -/
def not (q : QueryOver σ) : QueryOver σ :=
  { q with pending := { q.pending with not := !q.pending.not } }

/-- Drops the pending modifiers. -/
def resetPending (q : QueryOver σ) : QueryOver σ :=
  { q with pending := {} }

/-- Adds a condition to a list of conditions, with the pending modifiers. -/
def pushCondition (q : QueryOver σ) (c : Component) (k : ConditionKind σ) : QueryOver σ :=
  q.resetPending.addComponent c (.condition ⟨q.pending.or, q.pending.not, k⟩)

end QueryOver

instance : ConditionBuilder Query where
  addCondition k q := q.pushCondition .filter k
  childQuery := QueryOver.child
  or := QueryOver.or
  not := QueryOver.not
  resetPending := QueryOver.resetPending
  recordError e q := q.fail e

/-! ## The steps -/

namespace Conditions

variable {β : Type} [ConditionBuilder β]

/-- Joins the next condition with OR. -/
def or (b : β) : β :=
  ConditionBuilder.or b

/-- Negates the next condition. -/
def not (b : β) : β :=
  ConditionBuilder.not b

/-- Drops the pending modifiers without adding anything. -/
def resetPending (b : β) : β :=
  ConditionBuilder.resetPending b

/-- Takes over the error of a subquery, unless there is one. -/
def inheritError (q : Query) (b : β) : β :=
  match q.error with
  | some e => ConditionBuilder.recordError e b
  | none => b

/-- Is the operator one of equality or inequality? -/
def isEquality (operator : Operator) : Bool :=
  operator == .eq || operator == .ne || operator == .notEq

/-- Compares a column with a value.  A comparison with null is a null test, negated unless the
operator is `=`, and an equality with a truth value is a truth test. -/
def filter (column : String) (operator : Operator) (value : Value) (b : β) : β :=
  let asTest (k : ConditionKind Subquery) :=
    ConditionBuilder.addCondition k (if operator = .eq then b else not b)
  match value with
  | .null => asTest (.null column)
  | .bool t =>
    if isEquality operator then asTest (.boolean column t)
    else ConditionBuilder.addCondition (.compare column operator (.bool t)) b
  | v => ConditionBuilder.addCondition (.compare column operator v) b

/-- Compares two columns. -/
def columns (first : String) (operator : Operator) (second : String) (b : β) : β :=
  ConditionBuilder.addCondition (.columns first operator second) b

/-- Tests a column for null. -/
def null (column : String) (b : β) : β :=
  ConditionBuilder.addCondition (.null column) b

/-- Tests the truth value of a column. -/
def boolean (column : String) (value : Bool) (b : β) : β :=
  ConditionBuilder.addCondition (.boolean column value) b

/-- Matches a column with a pattern. -/
def pattern (column : String) (shape : StringMatch) (value : Value) (caseSensitive : Bool)
    (escape : Option Char) (b : β) : β :=
  ConditionBuilder.addCondition (.pattern column shape value caseSensitive escape) b

/-- Tests that a column lies between two values. -/
def between (column : String) (lower higher : Value) (b : β) : β :=
  ConditionBuilder.addCondition (.between column lower higher) b

/-- Tests that a column has one of the values. -/
def inList (column : String) (values : List Value) (b : β) : β :=
  ConditionBuilder.addCondition (.inList column values) b

/-- Tests that a column has one of the values of a subquery. -/
def inQuery (column : String) (q : Query) (b : β) : β :=
  ConditionBuilder.addCondition (.inQuery column ⟨q⟩) (inheritError q b)

/-- Compares the value of a subquery with a value. -/
def queryCompare (q : Query) (operator : Operator) (value : Value) (b : β) : β :=
  ConditionBuilder.addCondition (.queryCompare ⟨q⟩ operator value) (inheritError q b)

/-- Compares a column with the value of a subquery. -/
def columnQuery (column : String) (operator : Operator) (q : Query) (b : β) : β :=
  ConditionBuilder.addCondition (.columnQuery column operator ⟨q⟩) (inheritError q b)

/-- Tests that a subquery has a row; the subquery needs a source of its own. -/
def existsIn (q : Query) (b : β) : β :=
  if q.hasComponent .source none then
    ConditionBuilder.addCondition (.nonempty ⟨q⟩) (inheritError q b)
  else
    ConditionBuilder.recordError .existsWithoutSource (resetPending b)

/-- Adds a condition in raw SQL. -/
def raw (f : Fragment) (b : β) : β :=
  ConditionBuilder.addCondition (.raw f) b

/-- Adds the conditions of a query as a group; a group without conditions is dropped. -/
def group (q : Query) (b : β) : β :=
  if q.hasComponent .filter none then
    ConditionBuilder.addCondition (.group ⟨q⟩) (inheritError q b)
  else
    resetPending (inheritError q b)

/-- Compares a part of a date or time with a value. -/
def datePart (part : DatePart) (column : String) (operator : Operator) (value : Value) (b : β) :
    β :=
  ConditionBuilder.addCondition (.datePart part column operator value) b

end Conditions

/-! ## The steps as data -/

/-- A step that modifies or adds a condition, over subqueries of type `σ`. -/
inductive ConditionCall (σ : Type) where
  | or
  | not
  | resetPending
  | filter (column : String) (operator : Operator) (value : Value)
  | columns (first : String) (operator : Operator) (second : String)
  | null (column : String)
  | boolean (column : String) (value : Bool)
  | pattern (column : String) (shape : StringMatch) (value : Value) (caseSensitive : Bool)
      (escape : Option Char)
  | between (column : String) (lower higher : Value)
  | inList (column : String) (values : List Value)
  | inQuery (column : String) (query : σ)
  | queryCompare (query : σ) (operator : Operator) (value : Value)
  | columnQuery (column : String) (operator : Operator) (query : σ)
  | existsIn (query : σ)
  | raw (fragment : Fragment)
  | group (query : σ)
  | datePart (part : DatePart) (column : String) (operator : Operator) (value : Value)

/-- Carries out a step. -/
def ConditionCall.apply {β : Type} [ConditionBuilder β] : ConditionCall Query → β → β
  | or => Conditions.or
  | not => Conditions.not
  | resetPending => Conditions.resetPending
  | filter c o v => Conditions.filter c o v
  | columns a o b => Conditions.columns a o b
  | null c => Conditions.null c
  | boolean c v => Conditions.boolean c v
  | pattern c m v s e => Conditions.pattern c m v s e
  | between c l h => Conditions.between c l h
  | inList c vs => Conditions.inList c vs
  | inQuery c q => Conditions.inQuery c q
  | queryCompare q o v => Conditions.queryCompare q o v
  | columnQuery c o q => Conditions.columnQuery c o q
  | existsIn q => Conditions.existsIn q
  | raw f => Conditions.raw f
  | group q => Conditions.group q
  | datePart p c o v => Conditions.datePart p c o v

end SqlBuilder
