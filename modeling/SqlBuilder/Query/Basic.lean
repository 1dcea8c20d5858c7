import SqlBuilder.Error
import SqlBuilder.Query.Clauses

/-!
# Queries

A `QueryOver σ` is one layer of a query: its clauses, what statement it stands for, its alias and
the variables it defines, over subqueries of type `σ`.  A `Query` is a layer over queries, the knot
being tied by `Subquery`.

Besides what it says, a query carries the state of its construction: the definitions of the queries
around it (`parent`, nearest first), the dialect that new clauses are scoped to, the connective and
negation that the next condition will take up, and the first error of any step.  A query with an
error takes up no further clauses.
-/

namespace SqlBuilder

/-! ## Layers -/

/-- One layer of a query, over subqueries of type `σ`. -/
structure QueryOver (σ : Type) where
  clauses : List (Clause σ) := []
  method : Method := .select
  distinct : Bool := false
  aliasName : Option String := none
  definitions : Definitions := []
  /-- The definitions of the queries around this one, as they were when it was begun. -/
  parent : Scope := []
  /-- The dialect that new clauses are meant for. -/
  engineScope : Option Dialect := none
  pending : Pending := {}
  /-- The first error of any step. -/
  error : Option Error := none

/-- A query in the place of a subquery. -/
structure Subquery where
  query : QueryOver Subquery

/-- A statement under construction. -/
abbrev Query := QueryOver Subquery

instance : Aliased Subquery where
  alias? s := s.query.aliasName

namespace QueryOver

variable {σ : Type}

/-- The definitions that a value of the query can refer to. -/
def scope (q : QueryOver σ) : Scope :=
  q.definitions :: q.parent

/-- A fresh query inside this one: it sees the variables and has the same engine scope. -/
def child (q : QueryOver σ) : QueryOver σ where
  parent := q.scope
  engineScope := q.engineScope

/-- The value of a variable in the query. -/
def resolve (q : QueryOver σ) (name : String) : Except Error Value :=
  match q.scope.lookup name with
  | some v => .ok v
  | none => .error (.undefinedVariable name)

/-! ## Clauses in force for a dialect -/

/-- Is there a clause of the component?  Without an engine, clauses of every dialect count. -/
def hasComponent (q : QueryOver σ) (c : Component) (engine : Option Dialect) : Bool :=
  Clauses.has c engine q.clauses

/-- The limit in force; zero is none. -/
def limitFor (q : QueryOver σ) (engine : Option Dialect) : UInt64 :=
  ((Clauses.pick? .limit engine q.clauses).bind (·.kind.count?)).getD 0

/-- The offset in force; zero is none. -/
def offsetFor (q : QueryOver σ) (engine : Option Dialect) : UInt64 :=
  ((Clauses.pick? .offset engine q.clauses).bind (·.kind.count?)).getD 0

/-- The source in force. -/
def sourceFor (q : QueryOver σ) (engine : Option Dialect) : Option (Source σ) :=
  (Clauses.pick? .source engine q.clauses).bind (·.kind.source?)

/-! ## Errors -/

/-- Records an error, unless there is one. -/
def fail (q : QueryOver σ) (e : Error) : QueryOver σ :=
  { q with error := q.error <|> some e }

/-- Takes over an error of another query, unless there is one. -/
def absorb (q : QueryOver σ) (e : Option Error) : QueryOver σ :=
  { q with error := q.error <|> e }

/-! ## Adding and removing clauses -/

/-- Adds a clause in the engine scope of the query. -/
def addComponent (q : QueryOver σ) (c : Component) (k : ClauseKind σ) : QueryOver σ :=
  if q.error.isSome then q else { q with clauses := q.clauses ++ [⟨c, q.engineScope, k⟩] }

/-- Puts a clause in the place of the one with the same component and engine scope. -/
def replaceComponent (q : QueryOver σ) (c : Component) (k : ClauseKind σ) : QueryOver σ :=
  if q.error.isSome then q
  else
    match Clauses.addOrReplace ⟨c, q.engineScope, k⟩ q.clauses with
    | .ok clauses => { q with clauses }
    | .error e => q.fail e

/-- Removes the clauses of a component, for every dialect. -/
def clearComponent (q : QueryOver σ) (c : Component) : QueryOver σ :=
  { q with clauses := Clauses.clear c q.clauses }

end QueryOver

end SqlBuilder
