import SqlBuilder.Query.Build.Join
import SqlBuilder.Query.Build.Mutation
import SqlBuilder.Query.Build.Select

/-!
# Steps as data

A `Step` is one call of a builder, with the construction of its subqueries given as steps again
(`Nested`).  `Step.run` carries a step out, and `runAll` a whole list, so that statements about
every way of building a query are statements about every list of steps.

A nested query is begun afresh, or as a child of the query that it is given to.
-/

namespace SqlBuilder

mutual

/-- One call of a builder of queries. -/
inductive Step where
  | fromTable (name : String)
  | fromQuery (query : Nested)
  | fromRaw (fragment : Fragment)
  | named (aliasName : String)
  | define (name : String) (value : Value)
  /-- Goes on with a child of the query. -/
  | child
  | forEngine (engine : Dialect) (body : List Step)
  | addComponent (component : Component) (kind : ClauseKind Subquery)
  | replaceComponent (component : Component) (kind : ClauseKind Subquery)
  | clearComponent (component : Component)
  /-- Adds a clause as it is, even to a query with an error. -/
  | pushClause (clause : Clause Subquery)
  | removeClauses (component : Component) (engine : Option Dialect)
  | setMethod (method : Method)
  | condition (call : ConditionCall Nested)
  | select (columns : List String)
  | selectRaw (fragment : Fragment)
  | selectQuery (query : Nested) (aliasName : String)
  | selectAggregate (function : AggregateFunc) (column : String)
  | selectAggregateWhere (function : AggregateFunc) (column : String) (filter : Nested)
  | distinctRows
  | asAggregate (function : AggregateFunc) (columns : List String)
  | asCount (columns : List String)
  | groupBy (columns : List String)
  | groupByRaw (fragment : Fragment)
  | having (column : String) (operator : Operator) (value : Value)
  | havingRaw (fragment : Fragment)
  | havingBetween (column : String) (lower higher : Value)
  | havingIn (column : String) (values : List Value)
  | orderBy (column : String) (ascending : Bool)
  | orderByRaw (fragment : Fragment)
  | orderByRandom (seed : Option String)
  | limit (count : UInt64)
  | offset (count : UInt64)
  | forPage (page perPage : UInt64)
  | lock (mode : LockMode)
  | joinTable (kind : JoinKind) (table : String) (body : List JoinStep)
  | joinQuery (kind : JoinKind) (query : Nested) (body : List JoinStep)
  | combine (operation : SetOp) (all : Bool) (query : Nested)
  | combineRaw (fragment : Fragment)
  | withQuery (query : Nested)
  | withRaw (aliasName : String) (fragment : Fragment)
  | withValues (aliasName : String) (columns : List String) (rows : List (List Value))
  | asInsert (columns : List String) (rows : List (List Value))
  | asInsertRow (pairs : List (String × Value)) (returnId : Bool)
  | asInsertQuery (columns : List String) (query : Nested)
  | asUpdate (columns : List String) (values : List Value)
  | asIncrement (column : String) (amount : Int64)
  | asDecrement (column : String) (amount : Int64)
  | asDelete
  | createTable (columns : List TableColumn)
  | createTableAs (query : Nested)
  | temporary
  | onCommitPreserveRows (preserve : Bool)
  | dropTable
  | truncateTable

/-- One call of a builder of joins. -/
inductive JoinStep where
  | condition (call : ConditionCall Nested)
  | table (name : String)
  | query (query : Nested)
  | kind (kind : JoinKind)
  | on (first : String) (operator : Operator) (second : String)
  | useIndex (index : String)
  | pushClause (clause : Clause Subquery)

/-- The construction of a subquery. -/
inductive Nested where
  /-- Begun afresh. -/
  | fresh (body : List Step)
  /-- Begun as a child of the query around it. -/
  | child (body : List Step)
  /-- The same with an alias given at the end. -/
  | aliased (query : Nested) (aliasName : String)

end

mutual

/-- Carries out a step. -/
def Step.run : Step → Query → Query
  | .fromTable name, q => q.fromTable name
  | .fromQuery sub, q => q.fromQuery (sub.build q.child)
  | .fromRaw f, q => q.fromRaw f
  | .named aliasName, q => q.named aliasName
  | .define name value, q => q.define name value
  | .child, q => q.child
  | .forEngine engine body, q => q.forEngine engine (runAll body)
  | .addComponent c k, q => q.addComponent c k
  | .replaceComponent c k, q => q.replaceComponent c k
  | .clearComponent c, q => q.clearComponent c
  | .pushClause c, q => { q with clauses := q.clauses ++ [c] }
  | .removeClauses c engine, q => { q with clauses := Clauses.remove c engine q.clauses }
  | .setMethod m, q => { q with method := m }
  | .condition call, q => (buildCall call q.child).apply q
  | .select columns, q => q.select columns
  | .selectRaw f, q => q.selectRaw f
  | .selectQuery sub aliasName, q => q.selectQuery (sub.build q.child) aliasName
  | .selectAggregate f column, q => q.selectAggregate f column
  | .selectAggregateWhere f column sub, q => q.selectAggregateWhere f column (sub.build q.child)
  | .distinctRows, q => q.distinctRows
  | .asAggregate f columns, q => q.asAggregate f columns
  | .asCount columns, q => q.asCount columns
  | .groupBy columns, q => q.groupBy columns
  | .groupByRaw f, q => q.groupByRaw f
  | .having c o v, q => q.having c o v
  | .havingRaw f, q => q.havingRaw f
  | .havingBetween c l h, q => q.havingBetween c l h
  | .havingIn c vs, q => q.havingIn c vs
  | .orderBy c ascending, q => q.orderBy c ascending
  | .orderByRaw f, q => q.orderByRaw f
  | .orderByRandom seed, q => q.orderByRandom seed
  | .limit n, q => q.limit n
  | .offset n, q => q.offset n
  | .forPage page perPage, q => q.forPage page perPage
  | .lock mode, q => q.lock mode
  | .joinTable kind table body, q => q.joinWith kind table (runJoin body)
  | .joinQuery kind sub body, q => q.joinQuery kind (sub.build q.child) (runJoin body)
  | .combine operation all sub, q => q.combine operation all (sub.build q.child)
  | .combineRaw f, q => q.combineRaw f
  | .withQuery sub, q => q.withQuery (sub.build q.child)
  | .withRaw aliasName f, q => q.withRaw aliasName f
  | .withValues aliasName columns rows, q => q.withValues aliasName columns rows
  | .asInsert columns rows, q => q.asInsert columns rows
  | .asInsertRow pairs returnId, q => q.asInsertRow pairs returnId
  | .asInsertQuery columns sub, q => q.asInsertQuery columns (sub.build q.child)
  | .asUpdate columns values, q => q.asUpdate columns values
  | .asIncrement c n, q => q.asIncrement c n
  | .asDecrement c n, q => q.asDecrement c n
  | .asDelete, q => q.asDelete
  | .createTable columns, q => q.createTable columns
  | .createTableAs sub, q => q.createTableAs (sub.build q.child)
  | .temporary, q => q.temporary
  | .onCommitPreserveRows preserve, q => q.onCommitPreserveRows preserve
  | .dropTable, q => q.dropTable
  | .truncateTable, q => q.truncateTable

/-- Carries out a list of steps. -/
def runAll : List Step → Query → Query
  | [], q => q
  | s :: ss, q => runAll ss (s.run q)

/-- Carries out a step on a join. -/
def JoinStep.run : JoinStep → JoinBuilder → JoinBuilder
  | .condition call, b => (buildCall call (ConditionBuilder.childQuery b)).apply b
  | .table name, b => b.table name
  | .query sub, b => b.query (sub.build (ConditionBuilder.childQuery b))
  | .kind k, b => b.kind k
  | .on first o second, b => b.on first o second
  | .useIndex index, b => b.useIndex index
  | .pushClause c, b => b.pushClause c

/-- Carries out a list of steps on a join. -/
def runJoin : List JoinStep → JoinBuilder → JoinBuilder
  | [], b => b
  | s :: ss, b => runJoin ss (s.run b)

/-- Builds a subquery; `child` is a fresh child of the query around it. -/
def Nested.build : Nested → Query → Query
  | .fresh body, _ => runAll body {}
  | .child body, child => runAll body child
  | .aliased sub aliasName, child => (sub.build child).named aliasName

/-- Builds the subquery of a condition. -/
def buildCall : ConditionCall Nested → Query → ConditionCall Query
  | .or, _ => .or
  | .not, _ => .not
  | .resetPending, _ => .resetPending
  | .filter c o v, _ => .filter c o v
  | .columns a o b, _ => .columns a o b
  | .null c, _ => .null c
  | .boolean c v, _ => .boolean c v
  | .pattern c m v s e, _ => .pattern c m v s e
  | .between c l h, _ => .between c l h
  | .inList c vs, _ => .inList c vs
  | .inQuery c sub, child => .inQuery c (sub.build child)
  | .queryCompare sub o v, child => .queryCompare (sub.build child) o v
  | .columnQuery c o sub, child => .columnQuery c o (sub.build child)
  | .existsIn sub, child => .existsIn (sub.build child)
  | .raw f, _ => .raw f
  | .group sub, child => .group (sub.build child)
  | .datePart p c o v, _ => .datePart p c o v

end

end SqlBuilder
