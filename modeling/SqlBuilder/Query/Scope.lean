import SqlBuilder.Error
import SqlBuilder.Value.Basic

/-!
# Scopes and pending modifiers

What a query or a join knows while it is put together, besides what it says: the variables that it
can refer to, and the modifiers of its next condition.
-/

namespace SqlBuilder

/-- The variables defined by one query, in the order of their first definition. -/
abbrev Definitions := List (String × Value)

/-- Defines a variable, in place of an earlier definition of that name. -/
def Definitions.define (name : String) (value : Value) : Definitions → Definitions
  | [] => [(name, value)]
  | (n, v) :: rest =>
    if n = name then (name, value) :: rest else (n, v) :: Definitions.define name value rest

/-- The definitions of a query and of the queries around it, nearest first. -/
abbrev Scope := List Definitions

/-- The nearest definition of a variable. -/
def Scope.lookup (scope : Scope) (name : String) : Option Value :=
  scope.findSome? (List.lookup name)

/-- The connective and the negation that the next condition takes up. -/
structure Pending where
  or : Bool := false
  not : Bool := false
deriving DecidableEq

/-- The state that a join keeps of its construction. -/
structure JoinState where
  /-- The definitions of the query that the join was begun for, and of the queries around it. -/
  scope : Scope := []
  /-- The dialect that new clauses are meant for. -/
  engineScope : Option Dialect := none
  pending : Pending := {}
  /-- The first error of any step. -/
  error : Option Error := none

end SqlBuilder
