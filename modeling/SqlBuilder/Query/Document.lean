import SqlBuilder.Query.Fold
import SqlBuilder.Statement.Document
import SqlBuilder.Value.Document

/-!
# Queries as documents

A query is written as a record of its clauses, its method, whether its rows are distinct, its alias
and its variables; what it carries for its construction is not written.  Clauses, and the
conditions, sources, columns and so on in them, are members of enumerations and records of their
own.

Everything but the query itself is written and read for subqueries of any type that has documents.
`Subquery.document` folds a query into its document, and `Subquery.ofDocument?` reads it back: each
step down goes into a deeper part of the tree, so the depth of the tree bounds the recursion.
-/

namespace SqlBuilder

open Json

/-! ## Words and fragments -/

instance : Document Fragment where
  encode f := .object [("expression", encode f.expression), ("bindings", encode f.bindings)]
  decode?
    | .object fs => Fragment.mk <$> part? "expression" fs <*> part? "bindings" fs
    | _ => none

instance : Document AggregateClause where
  encode a := .object [("function", encode a.function), ("columns", encode a.columns)]
  decode? j := do
    let fs ← recordFields? ["function", "columns"] 2 j
    AggregateClause.mk <$> part? "function" fs <*> part? "columns" fs

namespace OrderBy

instance : Document OrderBy where
  encode
    | column name ascending =>
      taggedRecord "Column" [("column", encode name), ("ascending", encode ascending)]
    | random seed => taggedRecord "Random" [("seed", encode seed)]
    | raw fragment => tagged "Raw" (encode fragment)
  decode? j :=
    match j.variant? with
    | some ("Column", .object fs) => column <$> part? "column" fs <*> part? "ascending" fs
    | some ("Random", .object fs) => random <$> optionalPart? "seed" fs
    | some ("Raw", content) => (decode? content).map raw
    | _ => none

end OrderBy

namespace UpdateClause

instance : Document UpdateClause where
  encode
    | set columns values =>
      taggedRecord "Set" [("columns", encode columns), ("values", encode values)]
    | increment column amount =>
      taggedRecord "Increment" [("column", encode column), ("value", encode amount)]
  decode? j :=
    match j.variant? with
    | some ("Set", .object fs) => set <$> part? "columns" fs <*> part? "values" fs
    | some ("Increment", .object fs) => increment <$> part? "column" fs <*> part? "value" fs
    | _ => none

end UpdateClause

/-! ## Parts with subqueries -/

variable {σ : Type} [Document σ]

namespace ConditionKind

/-- Reads what a condition demands from the name of a member and its parts. -/
def ofParts? (name : String) (fs : List (String × Json)) : Option (ConditionKind σ) :=
  match name with
  | "Basic" => compare <$> part? "column" fs <*> part? "operator" fs <*> part? "value" fs
  | "BasicString" =>
    pattern <$> part? "column" fs <*> part? "matching" fs <*> part? "value" fs <*>
      part? "case_sensitive" fs <*> optionalPart? "escape" fs
  | "BasicDate" =>
    datePart <$> part? "part" fs <*> part? "column" fs <*> part? "operator" fs <*>
      part? "value" fs
  | "TwoColumns" => columns <$> part? "first" fs <*> part? "operator" fs <*> part? "second" fs
  | "Null" => null <$> part? "column" fs
  | "Boolean" => boolean <$> part? "column" fs <*> part? "value" fs
  | "Between" => between <$> part? "column" fs <*> part? "lower" fs <*> part? "higher" fs
  | "In" => inList <$> part? "column" fs <*> part? "values" fs
  | "InSubquery" => inQuery <$> part? "column" fs <*> part? "query" fs
  | "Exists" => nonempty <$> part? "query" fs
  | "Nested" => group <$> part? "query" fs
  | "Raw" => raw <$> decode? (.object fs)
  | "SubqueryComparison" =>
    queryCompare <$> part? "query" fs <*> part? "operator" fs <*> part? "value" fs
  | "ColumnSubquery" =>
    columnQuery <$> part? "column" fs <*> part? "operator" fs <*> part? "query" fs
  | _ => none

instance : Document (ConditionKind σ) where
  encode
    | compare c o v =>
      taggedRecord "Basic" [("column", encode c), ("operator", encode o), ("value", encode v)]
    | pattern c m v s e =>
      taggedRecord "BasicString"
        [("column", encode c), ("matching", encode m), ("value", encode v),
          ("case_sensitive", encode s), ("escape", encode e)]
    | datePart p c o v =>
      taggedRecord "BasicDate"
        [("part", encode p), ("column", encode c), ("operator", encode o), ("value", encode v)]
    | columns a o b =>
      taggedRecord "TwoColumns" [("first", encode a), ("operator", encode o), ("second", encode b)]
    | null c => taggedRecord "Null" [("column", encode c)]
    | boolean c b => taggedRecord "Boolean" [("column", encode c), ("value", encode b)]
    | between c l h =>
      taggedRecord "Between" [("column", encode c), ("lower", encode l), ("higher", encode h)]
    | inList c vs => taggedRecord "In" [("column", encode c), ("values", encode vs)]
    | inQuery c q => taggedRecord "InSubquery" [("column", encode c), ("query", encode q)]
    | nonempty q => taggedRecord "Exists" [("query", encode q)]
    | group q => taggedRecord "Nested" [("query", encode q)]
    | raw f => tagged "Raw" (encode f)
    | queryCompare q o v =>
      taggedRecord "SubqueryComparison"
        [("query", encode q), ("operator", encode o), ("value", encode v)]
    | columnQuery c o q =>
      taggedRecord "ColumnSubquery"
        [("column", encode c), ("operator", encode o), ("query", encode q)]
  decode? j :=
    match j.variant? with
    | some (name, .object fs) => ofParts? name fs
    | _ => none

end ConditionKind

instance : Document (Condition σ) where
  encode c := .object
    [("is_or", encode c.isOr), ("is_not", encode c.isNot), ("kind", encode c.kind)]
  decode? j := do
    let fs ← recordFields? ["is_or", "is_not", "kind"] 3 j
    Condition.mk <$> part? "is_or" fs <*> part? "is_not" fs <*> part? "kind" fs

namespace Source

instance : Document (Source σ) where
  encode
    | table name => tagged "Table" (encode name)
    | query q => tagged "Subquery" (encode q)
    | raw aliasName f =>
      taggedRecord "Raw"
        [("alias", encode aliasName), ("expression", encode f.expression),
          ("bindings", encode f.bindings)]
    | rows aliasName columns values =>
      taggedRecord "AdHoc"
        [("alias", encode aliasName), ("columns", encode columns), ("values", encode values)]
  decode? j :=
    match j.variant? with
    | some ("Table", content) => (decode? content).map table
    | some ("Subquery", content) => (decode? content).map query
    | some ("Raw", .object fs) => raw <$> optionalPart? "alias" fs <*> decode? (.object fs)
    | some ("AdHoc", .object fs) =>
      rows <$> part? "alias" fs <*> part? "columns" fs <*> part? "values" fs
    | _ => none

end Source

namespace Column

instance : Document (Column σ) where
  encode
    | named name => tagged "Named" (encode name)
    | query q => tagged "Subquery" (encode q)
    | aggregated function column filter =>
      taggedRecord "Aggregated"
        [("function", encode function), ("column", encode column), ("filter", encode filter)]
    | raw f => tagged "Raw" (encode f)
  decode? j :=
    match j.variant? with
    | some ("Named", content) => (decode? content).map named
    | some ("Subquery", content) => (decode? content).map query
    | some ("Aggregated", .object fs) =>
      aggregated <$> part? "function" fs <*> part? "column" fs <*> optionalPart? "filter" fs
    | some ("Raw", content) => (decode? content).map raw
    | _ => none

end Column

namespace Combine

instance : Document (Combine σ) where
  encode
    | query operation all q =>
      taggedRecord "Query" [("operation", encode operation), ("all", encode all),
        ("query", encode q)]
    | raw f => tagged "Raw" (encode f)
  decode? j :=
    match j.variant? with
    | some ("Query", .object fs) =>
      query <$> part? "operation" fs <*> part? "all" fs <*> part? "query" fs
    | some ("Raw", content) => (decode? content).map raw
    | _ => none

end Combine

namespace InsertClause

instance : Document (InsertClause σ) where
  encode
    | row columns values returnId =>
      taggedRecord "Values"
        [("columns", encode columns), ("values", encode values), ("return_id", encode returnId)]
    | query columns q => taggedRecord "Query" [("columns", encode columns), ("query", encode q)]
  decode? j :=
    match j.variant? with
    | some ("Values", .object fs) =>
      row <$> part? "columns" fs <*> part? "values" fs <*> part? "return_id" fs
    | some ("Query", .object fs) => query <$> part? "columns" fs <*> part? "query" fs
    | _ => none

end InsertClause

/-! ## Clauses -/

mutual

/-- The document of the content of a clause. -/
def ClauseKind.document : ClauseKind σ → Json
  | .condition c => tagged "Condition" (encode c)
  | .source s => tagged "From" (encode s)
  | .join j => tagged "Join" j.document
  | .column c => tagged "Column" (encode c)
  | .order o => tagged "Order" (encode o)
  | .limit n => tagged "Limit" (encode n)
  | .offset n => tagged "Offset" (encode n)
  | .aggregate a => tagged "Aggregate" (encode a)
  | .combine c => tagged "Combine" (encode c)
  | .insert i => tagged "Insert" (encode i)
  | .update u => tagged "Update" (encode u)
  | .lock m => tagged "Lock" (encode m)
  | .tableColumn c => tagged "TableColumn" (encode c)
  | .tableKind k => tagged "TableKind" (encode k)
  | .tableExtension e => tagged "TableExtension" (encode e)

/-- The document of a clause. -/
def Clause.document : Clause σ → Json
  | ⟨component, engine, kind⟩ =>
    .object [("component", encode component), ("engine", encode engine), ("kind", kind.document)]

/-- The document of a join. -/
def Join.document : Join σ → Json
  | ⟨kind, clauses, index, _⟩ =>
    .object
      [("kind", encode kind), ("components", .array (documentsOf clauses)),
        ("index", encode index)]

/-- The documents of a list of clauses. -/
def documentsOf : List (Clause σ) → List Json
  | [] => []
  | c :: cs => c.document :: documentsOf cs

end

/-- Reads the content of a clause that is no join from the name of a member and its content. -/
def ClauseKind.ofMember? (name : String) (content : Json) : Option (ClauseKind σ) :=
  match name with
  | "Condition" => (decode? content).map condition
  | "From" => (decode? content).map source
  | "Column" => (decode? content).map column
  | "Order" => (decode? content).map order
  | "Limit" => (decode? content).map limit
  | "Offset" => (decode? content).map offset
  | "Aggregate" => (decode? content).map aggregate
  | "Combine" => (decode? content).map combine
  | "Insert" => (decode? content).map insert
  | "Update" => (decode? content).map update
  | "Lock" => (decode? content).map lock
  | "TableColumn" => (decode? content).map tableColumn
  | "TableKind" => (decode? content).map tableKind
  | "TableExtension" => (decode? content).map tableExtension
  | _ => none

/-- Reads a join whose clauses are read by `clause?`. -/
def Join.ofDocument? (clause? : Json → Option (Clause σ)) (j : Json) : Option (Join σ) := do
  let fs ← recordFields? ["kind", "components", "index"] 2 j
  let clauses? : Json → Option (List (Clause σ))
    | .array items => items.mapM clause?
    | _ => none
  (fun kind clauses index => { kind, clauses, index }) <$>
    part? "kind" fs <*> (fs.lookup "components").bind clauses? <*> optionalPart? "index" fs

/-- Reads the content of a clause; the clauses of a join are read by `clause?`. -/
def ClauseKind.ofDocument? (clause? : Json → Option (Clause σ)) (j : Json) :
    Option (ClauseKind σ) :=
  match j.variant? with
  | some ("Join", content) => (Join.ofDocument? clause? content).map join
  | some (name, content) => ofMember? name content
  | none => none

/-- Reads a clause with at most `bound` joins around one another. -/
def Clause.ofDocument? : Nat → Json → Option (Clause σ)
  | 0, _ => none
  | bound + 1, j => do
    let fs ← recordFields? ["component", "engine", "kind"] 3 j
    Clause.mk <$> part? "component" fs <*> optionalPart? "engine" fs <*>
      (fs.lookup "kind").bind (ClauseKind.ofDocument? (Clause.ofDocument? bound))

instance : Document (Clause σ) where
  encode := Clause.document
  decode? j := Clause.ofDocument? (j.depth + 1) j

/-! ## Queries -/

/-- The variables of a query are an object with a field for each. -/
instance : Document Definitions where
  encode ds := .object (ds.map fun (name, v) => (name, encode v))
  decode?
    | .object fs => fs.mapM fun (name, j) => (decode? j).map ((name, ·))
    | _ => none

namespace QueryOver

/-- The document of one layer. -/
def document (q : QueryOver σ) : Json :=
  .object
    [("components", encode q.clauses), ("method", encode q.method), ("distinct", encode q.distinct),
      ("alias", encode q.aliasName), ("variables", encode q.definitions)]

/-- Reads one layer. -/
def ofDocument? (j : Json) : Option (QueryOver σ) := do
  let fs ← recordFields? ["components", "method", "distinct", "alias", "variables"] 5 j
  let build clauses method distinct aliasName definitions : QueryOver σ :=
    { clauses, method, distinct, aliasName, definitions }
  build <$> part? "components" fs <*> part? "method" fs <*> part? "distinct" fs <*>
    optionalPart? "alias" fs <*> part? "variables" fs

instance : Document (QueryOver σ) := ⟨document, ofDocument?⟩

end QueryOver

namespace Subquery

/-- The document of a query. -/
def document : Subquery → Json :=
  fold QueryOver.document

/-- Reads a query with at most `bound` queries around one another. -/
def ofDocumentWithin? : Nat → Json → Option Subquery
  | 0, _ => none
  | bound + 1, j =>
    letI : Document Subquery := ⟨document, ofDocumentWithin? bound⟩
    (QueryOver.ofDocument? j).map Subquery.mk

/-- Reads the document of a query. -/
def ofDocument? (j : Json) : Option Subquery :=
  ofDocumentWithin? (j.depth + 1) j

instance : Document Subquery := ⟨document, ofDocument?⟩

end Subquery

end SqlBuilder
