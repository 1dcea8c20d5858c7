import SqlBuilder.Query.Build.Select

/-!
# The sections of a statement

What a query says to one dialect.  `Sections.of d q` reads everything off the clauses of one layer
that the rendering of a statement depends on: of a component that is filled once, the content of the
clause in force, and of the others the contents of all clauses that apply, in their order.  Two
queries with the same sections are the same statement to the dialect.

A clause may be filed under a component that it does not fit.  It has no content there, but it still
counts when only its presence is asked for (`hasColumns` and the like).

Selects are transformed as sections: `trimmed` leaves a single `1` in the select list, `unpaged`
drops the paging, and `aggregateForm` turns an aggregate statement into a select.
-/

namespace SqlBuilder

/-! ## Joins -/

/-- What a join says to one dialect. -/
structure JoinSections (σ : Type) where
  kind : JoinKind
  target : Option (Source σ)
  constraints : List (Condition σ)
  index : Option String

/-- What a join says to a dialect. -/
def JoinSections.of {σ : Type} (d : Dialect) (j : Join σ) : JoinSections σ where
  kind := j.kind
  target := (Clauses.pick? .source (some d) j.clauses).bind (·.kind.source?)
  constraints := (Clauses.ofComponent .filter (some d) j.clauses).filterMap (·.kind.condition?)
  index := j.index

/-! ## Statements -/

/-- What a query says to one dialect. -/
structure Sections (σ : Type) where
  method : Method := .select
  distinct : Bool := false
  columns : List (Column σ) := []
  aggregate : Option AggregateClause := none
  source : Option (Source σ) := none
  joins : List (JoinSections σ) := []
  filters : List (Condition σ) := []
  groups : List (Column σ) := []
  havings : List (Condition σ) := []
  orders : List OrderBy := []
  /-- Zero stands for no limit. -/
  limit : UInt64 := 0
  offset : UInt64 := 0
  combines : List (Combine σ) := []
  lock : Option LockMode := none
  ctes : List (Source σ) := []
  inserts : List (InsertClause σ) := []
  update : Option UpdateClause := none
  tableColumns : List TableColumn := []
  isTemporary : Bool := false
  preservesRows : Bool := false
  tableSource : Option (Source σ) := none
  -- Presence of a clause, whatever its content
  hasColumns : Bool := false
  hasSource : Bool := false
  hasJoins : Bool := false
  hasFilters : Bool := false
  hasHavings : Bool := false
  hasOrders : Bool := false
  -- The state of the query
  aliasName : Option String := none
  scope : Scope := []
  pending : Pending := {}
  /-- Would a clause added to the query now be part of the statement? -/
  accepts : Bool := true

namespace Sections

variable {σ : Type}

/-- What a query says to a dialect. -/
def of (d : Dialect) (q : QueryOver σ) : Sections σ :=
  let pick {α : Type} (c : Component) (content : ClauseKind σ → Option α) : Option α :=
    (Clauses.pick? c (some d) q.clauses).bind fun clause => content clause.kind
  let list {α : Type} (c : Component) (content : ClauseKind σ → Option α) : List α :=
    (Clauses.ofComponent c (some d) q.clauses).filterMap fun clause => content clause.kind
  let has (c : Component) : Bool := Clauses.has c (some d) q.clauses
  { method := q.method
    distinct := q.distinct
    columns := list .select ClauseKind.column?
    aggregate := pick .aggregate ClauseKind.aggregate?
    source := pick .source ClauseKind.source?
    joins := (list .join ClauseKind.join?).map (JoinSections.of d)
    filters := list .filter ClauseKind.condition?
    groups := list .group ClauseKind.column?
    havings := list .having ClauseKind.condition?
    orders := list .order ClauseKind.order?
    limit := q.limitFor (some d)
    offset := q.offsetFor (some d)
    combines := list .combine ClauseKind.combine?
    lock := pick .lock ClauseKind.lock?
    ctes := list .cte ClauseKind.source?
    inserts := list .insert ClauseKind.insert?
    update := pick .update ClauseKind.update?
    tableColumns := list .tableColumn ClauseKind.tableColumn?
    isTemporary := (Clauses.pick? .tableKind (some d) q.clauses).any (·.kind.isTemporary)
    preservesRows := (Clauses.pick? .tableExtension (some d) q.clauses).any (·.kind.preservesRows)
    tableSource := pick .tableSource ClauseKind.source?
    hasColumns := has .select
    hasSource := has .source
    hasJoins := has .join
    hasFilters := has .filter
    hasHavings := has .having
    hasOrders := has .order
    aliasName := q.aliasName
    scope := q.scope
    pending := q.pending
    accepts := q.error.isNone && (q.engineScope == none || q.engineScope == some d) }

/-! ## Transformed selects -/

/-- The statement with the select list `1`. -/
def trimmed (s : Sections σ) : Sections σ :=
  { s with columns := [.raw ⟨"1", []⟩], hasColumns := true }

/-- The statement without limit and offset. -/
def unpaged (s : Sections σ) : Sections σ :=
  { s with limit := 0, offset := 0 }

/-- The statement without its order. -/
def unordered (s : Sections σ) : Sections σ :=
  { s with orders := [], hasOrders := false }

/-- The conditions that demand a value of every one of the columns; the first of them takes up the
pending modifiers. -/
def presenceTests (pending : Pending) : List String → List (Condition σ)
  | [] => []
  | c :: cs => ⟨pending.or, !pending.not, .null c⟩ :: presenceTests {} cs

/-- The select that an aggregate statement stands for. -/
inductive AggregateForm (σ : Type) where
  /-- A select, with the aggregate in its select list if it has one. -/
  | flat (select : Sections σ)
  /-- The function of all rows of a derived table. -/
  | wrapped (function : AggregateFunc) (rows : Sections σ)
  /-- A select of nothing: the statement takes up no clause. -/
  | hollow

/-- The select that an aggregate statement stands for.  One column is aggregated in place.  Distinct
rows, and rows with a value in each of several columns, are selected first and aggregated as a
derived table.  Paging, order and groups are dropped. -/
def aggregateForm (s : Sections σ) : AggregateForm σ :=
  let base := { s.unpaged.unordered with method := .select, groups := [] }
  match s.aggregate with
  | none => .flat base
  | some a =>
    if a.columns.length = 1 ∧ !s.distinct then
      .flat base
    else if !s.accepts then
      .hollow
    else if s.distinct then
      let columns := (a.columns.flatMap expandColumns).map Column.named
      .wrapped a.function
        { base with aggregate := none, columns, hasColumns := !columns.isEmpty }
    else
      .wrapped a.function
        { base with
          filters := base.filters ++ presenceTests s.pending a.columns
          hasFilters := base.hasFilters || !a.columns.isEmpty }

end Sections

end SqlBuilder
