import SqlBuilder.Render.Cte

/-!
# Rendering mutations

Inserts, updates and deletes.  Their target is a plain table or raw SQL.  An insert of one row may
ask for the number of the row, and several rows are inserted in the style of the dialect; all rows
must have the same columns.
-/

namespace SqlBuilder

variable (t : Target) (env : Env)

/-- The target of a mutation. -/
def renderTarget (s : Sections Rendered) (method : Method) : Emit String :=
  match s.source with
  | some (.table name) => return env.wrapTable t name
  | some (.raw _ fragment) => env.raw t.dialect fragment
  | _ => Emit.fail (.noTable method)

/-- A list of columns. -/
def columnList (d : Dialect) (columns : List String) : String :=
  String.intercalate ", " (columns.map d.wrap)

/-! ## Inserts -/

/-- Rows to insert: their columns, their values, and whether the number of the row is asked for. -/
structure InsertRows where
  columns : List String
  rows : List (List Value)
  returnId : Bool

/-- The rows of a list of inserts, which must have the same columns. -/
def InsertRows.collect? {σ : Type} (columns : List String) :
    List (InsertClause σ) → Except Error InsertRows
  | [] => .ok ⟨columns, [], false⟩
  | .query _ _ :: _ => .error .mixedInsertSources
  | .row columns' values returnId :: rest =>
    if columns' = columns then
      match InsertRows.collect? columns rest with
      | .ok rows => .ok ⟨columns, values :: rows.rows, returnId || rows.returnId⟩
      | .error e => .error e
    else
      .error .mixedInsertColumns

/-- The query for the number of an inserted row, after a semicolon. -/
def lastInsertId (d : Dialect) : Except Error String :=
  match d.lastInsertId? with
  | some query => .ok (";" ++ query)
  | none => .error (.noLastInsertId d)

/-- What follows an insert of one row: the query for its number, if it is asked for. -/
def insertSuffix (d : Dialect) (returnId : Bool) : Except Error String :=
  if returnId then lastInsertId d else .ok ""

/-- An insert of several rows, in the style of the dialect. -/
def renderRowInserts (table columns : String) (rows : List (List Value)) : Emit String := do
  let lists ← rows.mapM env.placeholders
  match t.dialect.multiInsert with
  | .valuesList =>
    return "INSERT INTO " ++ table ++ " (" ++ columns ++ ") VALUES " ++
      String.intercalate ", " (lists.map fun row => "(" ++ row ++ ")")
  | .insertAll =>
    let into := lists.map fun row =>
      "INTO " ++ table ++ " (" ++ columns ++ ") VALUES (" ++ row ++ ")"
    return "INSERT ALL " ++ String.intercalate " " into ++ " SELECT 1 FROM " ++
      t.dialect.dummyTable?.getD "DUAL"
  | .unionSelect =>
    let selects := lists.map fun row => "SELECT " ++ row ++ dummySource t.dialect
    return "INSERT INTO " ++ table ++ " (" ++ columns ++ ") " ++
      String.intercalate " UNION ALL " selects

/-- An insert. -/
def renderInsert (s : Sections Rendered) : Emit String := do
  let table ← renderTarget t env s .insert
  match s.inserts with
  | [] => Emit.fail .insertWithoutValues
  | .query columns query :: _ =>
    let select ← query.select env
    return "INSERT INTO " ++ table ++ " (" ++ columnList t.dialect columns ++ ") " ++ select
  | .row columns values returnId :: rest =>
    let insert ← Emit.ofExcept (InsertRows.collect? columns (.row columns values returnId :: rest))
    let columns := columnList t.dialect insert.columns
    match insert.rows with
    | [row] =>
      let list ← env.placeholders row
      let suffix ← Emit.ofExcept (insertSuffix t.dialect insert.returnId)
      return "INSERT INTO " ++ table ++ " (" ++ columns ++ ") VALUES (" ++ list ++ ")" ++ suffix
    | rows => renderRowInserts t env table columns rows

/-! ## Updates and deletes -/

/-- The absolute value of an integer. -/
def magnitude (n : Int64) : UInt64 :=
  UInt64.ofNat n.toInt.natAbs

/-- What an update assigns. -/
def UpdateClause.render : UpdateClause → Emit String
  | .set columns values => do
    let parts ← (columns.zip values).mapM fun (column, value) => do
      let p ← env.placeholder value
      return t.dialect.wrap column ++ " = " ++ p
    return String.intercalate ", " parts
  | .increment column amount => do
    let name := t.dialect.wrap column
    let sign := if amount < 0 then "-" else "+"
    let p ← env.placeholder (Value.ofUInt64 (magnitude amount))
    return name ++ " = " ++ name ++ " " ++ sign ++ " " ++ p

/-- An update. -/
def renderUpdate (s : Sections Rendered) : Emit String := do
  let table ← renderTarget t env s .update
  match s.update with
  | none => Emit.fail .updateWithoutColumns
  | some update =>
    let assignments ← update.render t env
    let filters ← renderFilters t env s
    return joinSections ["UPDATE " ++ table ++ " SET " ++ assignments, filters]

/-- What a delete names between DELETE and FROM when it has joins. -/
def deleteTarget {σ : Type} [Aliased σ] (d : Dialect) (s : Sections σ) : Except Error String :=
  match s.source.bind Source.alias? with
  | some aliasName => .ok (d.quoteIdentifier aliasName)
  | none => .error (.noTable .delete)

/-- A delete up to its conditions, from a rendered table. -/
def renderDeleteHead (s : Sections Rendered) (table : String) : Emit String :=
  if s.hasJoins then do
    let target ← Emit.ofExcept (deleteTarget t.dialect s)
    let joins ← renderJoins t env s
    return "DELETE " ++ target ++ " FROM " ++ table ++ " " ++ joins
  else
    return "DELETE FROM " ++ table

/-- A delete. -/
def renderDelete (s : Sections Rendered) : Emit String := do
  let table ← renderTarget t env s .delete
  let head ← renderDeleteHead t env s table
  let filters ← renderFilters t env s
  return joinSections [head, filters]

end SqlBuilder
