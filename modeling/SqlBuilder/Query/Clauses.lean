import SqlBuilder.Error
import SqlBuilder.Query.Clause

/-!
# Lists of clauses

The clauses of a query in the order in which they were added.  A clause without an engine applies
to every dialect, one with an engine only to that dialect; asking without an engine finds the
clauses of all dialects.  Of a component that is filled once, `Clauses.pick?` chooses the clause of
the dialect itself before one that is meant for every dialect.
-/

namespace SqlBuilder

variable {σ : Type}

/-- Does the clause apply when the statement is rendered for `engine`? -/
def Clause.applies (engine : Option Dialect) (c : Clause σ) : Bool :=
  engine == none || c.engine == none || c.engine == engine

/-- Is the clause filed under exactly this component and engine? -/
def Clause.isFiled (component : Component) (engine : Option Dialect) (c : Clause σ) : Bool :=
  c.component == component && c.engine == engine

namespace Clauses

/-- The clauses of a component that apply to an engine, in order. -/
def ofComponent (component : Component) (engine : Option Dialect) (cs : List (Clause σ)) :
    List (Clause σ) :=
  cs.filter fun c => c.component == component && c.applies engine

/-- Is there a clause of a component that applies to an engine? -/
def has (component : Component) (engine : Option Dialect) (cs : List (Clause σ)) : Bool :=
  !(ofComponent component engine cs).isEmpty

/-- The first clause of the engine itself, or else the first one for every dialect. -/
def pick? (component : Component) (engine : Option Dialect) (cs : List (Clause σ)) :
    Option (Clause σ) :=
  let found := ofComponent component engine cs
  found.find? (·.engine == engine) <|> found.find? (·.engine == none)

/-- The clauses without those of a component that are scoped exactly to an engine. -/
def remove (component : Component) (engine : Option Dialect) (cs : List (Clause σ)) :
    List (Clause σ) :=
  cs.filter fun c => !c.isFiled component engine

/-- The clauses without those of a component, for every dialect. -/
def clear (component : Component) (cs : List (Clause σ)) : List (Clause σ) :=
  cs.filter fun c => c.component != component

/-- Puts a clause at the end, instead of the one with its component and engine; with several such
clauses it is not clear which one is meant. -/
def addOrReplace (c : Clause σ) (cs : List (Clause σ)) : Except Error (List (Clause σ)) :=
  let count := (cs.filter (·.isFiled c.component c.engine)).length
  if 1 < count then
    .error (.ambiguousReplacement c.component count c.engine)
  else
    .ok (remove c.component c.engine cs ++ [c])

end Clauses

end SqlBuilder
