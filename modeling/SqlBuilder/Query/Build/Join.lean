import SqlBuilder.Query.Build.Condition

/-!
# Joins

A join is put together by a `JoinBuilder` and then pushed to its query (`Query.pushJoin`).  The
builder belongs to a query: it has the engine scope of the query, and its subqueries see the
variables of the query.  A builder with an error is not pushed; its error is recorded instead.
-/

namespace SqlBuilder

/-- A join under construction. -/
structure JoinBuilder where
  join : Join Subquery
  /-- The definitions that subqueries of the join see. -/
  scope : Scope := []
  engineScope : Option Dialect := none
  pending : Pending := {}
  /-- The first error of any step. -/
  error : Option Error := none

namespace JoinBuilder

/-- A join that belongs to a query. -/
def within (q : Query) (kind : JoinKind) : JoinBuilder where
  join := { kind, clauses := [], index := none }
  scope := q.scope
  engineScope := q.engineScope

instance : ConditionBuilder JoinBuilder where
  addCondition k b :=
    let clause := ⟨.filter, b.engineScope, .condition ⟨b.pending.or, b.pending.not, k⟩⟩
    { b with join := { b.join with clauses := b.join.clauses ++ [clause] }, pending := {} }
  childQuery b := { parent := b.scope, engineScope := b.engineScope }
  or b := { b with pending := { b.pending with or := true } }
  not b := { b with pending := { b.pending with not := !b.pending.not } }
  resetPending b := { b with pending := {} }
  recordError e b := { b with error := b.error <|> some e }

/-- Sets what is joined, in the engine scope of the join. -/
def target (b : JoinBuilder) (s : Source Subquery) : JoinBuilder :=
  match Clauses.addOrReplace ⟨.source, b.engineScope, .source s⟩ b.join.clauses with
  | .ok clauses => { b with join := { b.join with clauses } }
  | .error e => { b with error := b.error <|> some e }

/-- Joins a table. -/
def table (b : JoinBuilder) (name : String) : JoinBuilder :=
  b.target (.table name)

/-- Joins a derived table, which is named by the alias of its query. -/
def query (b : JoinBuilder) (q : Query) : JoinBuilder :=
  let e := if q.aliasName.isNone then some .joinWithoutAlias else q.error
  { b with error := b.error <|> e }.target (.query ⟨q⟩)

/-- Changes the kind of the join. -/
def kind (b : JoinBuilder) (k : JoinKind) : JoinBuilder :=
  { b with join := { b.join with kind := k } }

/-- Demands that two columns compare as the operator says. -/
def on (b : JoinBuilder) (first : String) (operator : Operator) (second : String) : JoinBuilder :=
  Conditions.columns first operator second b

/-- Names the index to use. -/
def useIndex (b : JoinBuilder) (index : String) : JoinBuilder :=
  { b with join := { b.join with index := some index } }

/-- Adds a clause as it is. -/
def pushClause (b : JoinBuilder) (c : Clause Subquery) : JoinBuilder :=
  { b with join := { b.join with clauses := b.join.clauses ++ [c] } }

/-- The join as it is pushed to the query, with the state that the builder is in. -/
def built (b : JoinBuilder) : Join Subquery :=
  { b.join with
    state :=
      { scope := b.scope, engineScope := b.engineScope, pending := b.pending, error := b.error } }

end JoinBuilder

namespace Query

/-- Adds a finished join, or records its error. -/
def pushJoin (q : Query) (b : JoinBuilder) : Query :=
  match b.error with
  | some e => q.fail e
  | none => q.resetPending.addComponent .join (.join b.built)

/-- Joins a table with the constraints built by `f`. -/
def joinWith (q : Query) (kind : JoinKind) (table : String) (f : JoinBuilder → JoinBuilder) :
    Query :=
  q.pushJoin (f ((JoinBuilder.within q kind).table table))

/-- Joins a derived table with the constraints built by `f`. -/
def joinQuery (q : Query) (kind : JoinKind) (sub : Query) (f : JoinBuilder → JoinBuilder) :
    Query :=
  q.pushJoin (f ((JoinBuilder.within q kind).query sub))

end Query

end SqlBuilder
