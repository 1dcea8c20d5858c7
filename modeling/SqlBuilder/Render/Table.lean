import SqlBuilder.Dialect.Table
import SqlBuilder.Render.Select
import SqlBuilder.Text.Template

/-!
# Rendering table definitions

The statements that create, drop and empty tables.  A table is created from three blocks of lines
(`TableBlocks`): one for each column, a PRIMARY KEY for the key columns that are not declared as
such already, and a UNIQUE for the unique columns.  Each line has a separator after it, and the last
block that is not empty loses it again before the blocks are put into the template.
-/

namespace SqlBuilder

variable {σ : Type} (t : Target) (env : Env)

/-- The name of the table of a statement. -/
def tableName (s : Sections σ) : Except Error String :=
  match s.source with
  | some (.table table) =>
    let name := env.prefixed t (Text.trim table)
    .ok (t.dialect.wrap (if s.isTemporary then t.dialect.temporaryName name else name))
  | _ => .error .tableStatementWithoutTable

/-- The line of a column. -/
def columnLine (d : Dialect) (c : TableColumn) : String :=
  "    " ++ d.quoteIdentifier c.name ++ " " ++ d.typeName c.type ++
    (if c.identity then " " ++ d.identityKeyword
      else if c.nullable then " NULL"
      else " NOT NULL")

/-- The line of a key, if it has columns. -/
def keyLine (d : Dialect) (keyword : String) (columns : List TableColumn) : List String :=
  if columns.isEmpty then
    []
  else
    ["    " ++ keyword ++ " (" ++
      String.intercalate ", " (columns.map fun c => d.quoteIdentifier c.name) ++ ")"]

/-- Does the line of the column leave it to a key to make it the primary key? -/
def needsPrimaryKey (d : Dialect) (c : TableColumn) : Bool :=
  c.primaryKey && !(c.identity && d.identityIsPrimaryKey)

/-! ## Blocks -/

/-- Lines with a separator after each of them. -/
def separated (lines : List String) : String :=
  String.join (lines.map (· ++ ",\n"))

/-- Drops the separators at the end of a text that is written backwards. -/
def dropSeparators : List Char → List Char
  | '\n' :: ',' :: cs => dropSeparators cs
  | cs => cs

/-- The text without the separators at its end. -/
def trimSeparators (s : String) : String :=
  String.ofList (dropSeparators s.toList.reverse).reverse

/-- The blocks of lines that a table is created from. -/
structure TableBlocks where
  columns : String
  primary : String
  unique : String

namespace TableBlocks

/-- The blocks of the given columns. -/
def ofColumns (d : Dialect) (columns : List TableColumn) : TableBlocks where
  columns := separated (columns.map (columnLine d))
  primary := separated (keyLine d "PRIMARY KEY" (columns.filter (needsPrimaryKey d)))
  unique := separated (keyLine d "UNIQUE" (columns.filter (·.unique)))

/-- The blocks without the separator at the end of the last one that is not empty. -/
def trimmed (b : TableBlocks) : TableBlocks :=
  if !b.unique.isEmpty then { b with unique := trimSeparators b.unique }
  else if !b.primary.isEmpty then { b with primary := trimSeparators b.primary }
  else { b with columns := trimSeparators b.columns }

end TableBlocks

/-! ## Statements -/

/-- The clause after a temporary table, with the space before it. -/
def tableExtension (d : Dialect) (s : Sections σ) : String :=
  if s.isTemporary then
    match d.onCommit? s.preservesRows with
    | some clause => " " ++ clause
    | none => ""
  else
    ""

/-- The word before TABLE. -/
def temporaryWord (d : Dialect) (s : Sections σ) : String :=
  if s.isTemporary then d.temporaryKeyword else ""

/-- What is put in the slots of the template of a created table. -/
def createTableSlot (temporary table extension : String) (b : TableBlocks) :
    String → Option String
  | "temp" => some temporary
  | "table" => some table
  | "columns" => some b.columns
  | "primary" => some b.primary
  | "unique" => some b.unique
  | "extension" => some extension
  | _ => none

/-- CREATE TABLE with its columns. -/
def renderCreateTable (s : Sections σ) : Except Error String :=
  if s.tableColumns.isEmpty then
    .error .createWithoutColumns
  else if 1 < (s.tableColumns.filter (·.identity)).length then
    .error .severalIdentityColumns
  else
    match tableName t env s with
    | .error e => .error e
    | .ok table =>
      .ok (Text.fillTemplate
        (createTableSlot (temporaryWord t.dialect s) table (tableExtension t.dialect s)
          (TableBlocks.ofColumns t.dialect s.tableColumns).trimmed)
        createTableTemplate)

/-- CREATE TABLE with the rows of a select. -/
def renderCreateTableAs (s : Sections Rendered) : Emit String :=
  match s.tableSource with
  | some (.query sub) => do
    let table ← Emit.ofExcept (tableName t env s)
    let select ← sub.select env
    Emit.ofExcept (t.dialect.createAs (temporaryWord t.dialect s) table select)
  | _ => Emit.fail .createWithoutSource

/-- DROP TABLE. -/
def renderDropTable (s : Sections σ) : Except Error String :=
  match tableName t env s with
  | .ok table => .ok ("DROP TABLE " ++ table)
  | .error e => .error e

/-- The statement that empties a table. -/
def renderTruncateTable (s : Sections σ) : Except Error String :=
  match tableName t env s with
  | .ok table => .ok (t.dialect.truncate table)
  | .error e => .error e

end SqlBuilder
