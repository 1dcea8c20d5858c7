import SqlBuilder.Query.Step

/-!
# Methods

The methods of queries and joins that are steps with some of their arguments fixed, or more than one
step.  A method that joins with OR or negates is the plain one after an `or`, a `not` or both
(`ConditionCall.modified`); the connective is given first.
-/

namespace SqlBuilder

/-! ## Modified steps -/

/-- A call after an `or`, a `not` or both: what a method comes to that joins with OR or negates. -/
def ConditionCall.modified {σ : Type} (or not : Bool) (call : ConditionCall σ) :
    List (ConditionCall σ) :=
  (if or then [.or] else []) ++ (if not then [.not] else []) ++ [call]

/-- A step after an `or`, a `not` or both. -/
def Step.modified (or not : Bool) (s : Step) : List Step :=
  (if or then [.condition .or] else []) ++ (if not then [.condition .not] else []) ++ [s]

/-- A step on a join after an `or`, a `not` or both. -/
def JoinStep.modified (or not : Bool) (s : JoinStep) : List JoinStep :=
  (if or then [.condition .or] else []) ++ (if not then [.condition .not] else []) ++ [s]

/-! ## Conditions -/

namespace ConditionCall

variable {σ : Type}

section Comparisons

variable (column : String) (operator : Operator) (value : Value)

def orFilter : List (ConditionCall σ) :=
  modified true false (filter column operator value)

def filterNot : List (ConditionCall σ) :=
  modified false true (filter column operator value)

def orFilterNot : List (ConditionCall σ) :=
  modified true true (filter column operator value)

def whereEq : ConditionCall σ :=
  filter column .eq value

def orWhereEq : List (ConditionCall σ) :=
  modified true false (whereEq column value)

def orWhereColumns (first : String) (operator : Operator) (second : String) :
    List (ConditionCall σ) :=
  modified true false (columns first operator second)

def whereDate : ConditionCall σ :=
  datePart .date column operator value

def whereTime : ConditionCall σ :=
  datePart .time column operator value

end Comparisons

section Tests

variable (column : String)

def whereNotNull : List (ConditionCall σ) :=
  modified false true (null column)

def orWhereNull : List (ConditionCall σ) :=
  modified true false (null column)

def orWhereNotNull : List (ConditionCall σ) :=
  modified true true (null column)

def whereTrue : ConditionCall σ :=
  boolean column true

def whereFalse : ConditionCall σ :=
  boolean column false

end Tests

section Patterns

variable (column : String) (value : Value)

/-- A pattern match in any letter case, without an escape character. -/
def whereMatches (shape : StringMatch) : ConditionCall σ :=
  pattern column shape value false none

def whereLike : ConditionCall σ :=
  whereMatches column value .like

def orWhereLike : List (ConditionCall σ) :=
  modified true false (whereLike column value)

def whereNotLike : List (ConditionCall σ) :=
  modified false true (whereLike column value)

def whereStarts : ConditionCall σ :=
  whereMatches column value .starts

def whereEnds : ConditionCall σ :=
  whereMatches column value .ends

def whereContains : ConditionCall σ :=
  whereMatches column value .contains

end Patterns

section Ranges

variable (column : String)

def whereNotBetween (lower higher : Value) : List (ConditionCall σ) :=
  modified false true (between column lower higher)

def orWhereBetween (lower higher : Value) : List (ConditionCall σ) :=
  modified true false (between column lower higher)

def whereNotIn (values : List Value) : List (ConditionCall σ) :=
  modified false true (inList column values)

def orWhereIn (values : List Value) : List (ConditionCall σ) :=
  modified true false (inList column values)

def orWhereNotIn (values : List Value) : List (ConditionCall σ) :=
  modified true true (inList column values)

end Ranges

section Subqueries

variable (query : σ)

def whereNotInQuery (column : String) : List (ConditionCall σ) :=
  modified false true (inQuery column query)

def whereNotExists : List (ConditionCall σ) :=
  modified false true (existsIn query)

def orWhereExists : List (ConditionCall σ) :=
  modified true false (existsIn query)

def orWhereGroup : List (ConditionCall σ) :=
  modified true false (group query)

def whereNotGroup : List (ConditionCall σ) :=
  modified false true (group query)

end Subqueries

def orWhereRaw (fragment : Fragment) : List (ConditionCall σ) :=
  modified true false (raw fragment)

end ConditionCall

/-! ## Queries and joins -/

namespace Step

/-- Joins a table where two columns are equal. -/
def join (kind : JoinKind) (table first second : String) : Step :=
  .joinTable kind table [.on first .eq second]

/-- Joins every row with every row of a table. -/
def crossJoin (table : String) : Step :=
  .joinTable .cross table []

def orHaving (column : String) (operator : Operator) (value : Value) : List Step :=
  modified true false (.having column operator value)

def havingNot (column : String) (operator : Operator) (value : Value) : List Step :=
  modified false true (.having column operator value)

def orHavingRaw (fragment : Fragment) : List Step :=
  modified true false (.havingRaw fragment)

end Step

/-- Joins with OR a test that two columns are equal. -/
def JoinStep.orOn (first second : String) : List JoinStep :=
  modified true false (.on first .eq second)

end SqlBuilder
