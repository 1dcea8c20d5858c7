import Mathlib.Data.List.Basic
import SqlBuilder.Proofs.Text.Template
import SqlBuilder.Query.Step
import SqlBuilder.Render.Statement

/-!
# The layout of a created table

A table is created from a template (`fill_createTableTemplate`) and three blocks of lines.  Every
line has a separator after it until the last one of all loses it.  A line ends in a keyword or a
parenthesis, never in a name or a type that a user has chosen, so that nothing but this one
separator can be lost, and it does not matter which of the blocks are empty
(`TableBlocks.text_trimmed`).  What is left are the items of the table with a separator between
each two of them (`renderCreateTable_eq`), as `renderCreateTable_items` says of queries.
-/

namespace SqlBuilder

open Text

/-! ## Lines -/

/-- The text does not end in a line break. -/
def Finished (s : String) : Prop :=
  s.toList.getLast?.any (· != '\n') = true

instance (s : String) : Decidable (Finished s) :=
  inferInstanceAs (Decidable (_ = true))

theorem Finished.append {s : String} (h : Finished s) (u : String) : Finished (u ++ s) := by
  obtain ⟨c, hc⟩ : ∃ c, s.toList.getLast? = some c := by
    cases hlast : s.toList.getLast? with
    | none => exact absurd h (by simp [Finished, hlast])
    | some c => exact ⟨c, rfl⟩
  rw [Finished, hc] at h
  rw [Finished, String.toList_append, List.getLast?_append, hc]
  exact h

theorem finished_columnLine (d : Dialect) (c : TableColumn) : Finished (columnLine d c) := by
  refine Finished.append ?_ _
  split
  · refine Finished.append ?_ " "
    cases d <;> decide
  · split <;> decide

theorem finished_keyLine (d : Dialect) (keyword : String) (columns : List TableColumn) :
    ∀ line ∈ keyLine d keyword columns, Finished line := by
  have hparenthesis : Finished ")" := by decide
  unfold keyLine
  split
  · exact List.forall_mem_nil _
  · exact List.forall_mem_singleton.mpr (hparenthesis.append _)

/-! ## Separators -/

section Separators

variable {lines : List String} {last : String}

theorem separated_append (lines lines' : List String) :
    separated (lines ++ lines') = separated lines ++ separated lines' := by
  rw [separated, List.map_append, String.join_append]
  rfl

theorem separated_singleton (line : String) : separated [line] = line ++ ",\n" := by
  simp [separated]

theorem separated_isEmpty (lines : List String) : (separated lines).isEmpty = lines.isEmpty := by
  cases lines with
  | nil => rfl
  | cons line lines => simp [separated]

/-- The last line has no separator after it. -/
theorem intercalate_concat (lines : List String) (last : String) :
    String.intercalate ",\n" (lines ++ [last]) = separated lines ++ last := by
  induction lines with
  | nil => simp [separated]
  | cons line lines ih =>
    rw [List.cons_append, String.intercalate_cons_of_ne_nil (by simp), ih, ← List.singleton_append,
      separated_append, separated_singleton]
    simp only [String.append_assoc]

/-- Of a text that ends in a separator, only this one is dropped. -/
theorem trimSeparators_append {s : String} (h : Finished s) : trimSeparators (s ++ ",\n") = s := by
  have hhead : ∀ cs, s.toList.reverse ≠ '\n' :: cs := by
    intro cs hcs
    have hlast : s.toList.getLast? = some '\n' := by
      rw [← List.head?_reverse, hcs, List.head?_cons]
    rw [Finished, hlast] at h
    exact absurd h (by decide)
  have hkept : dropSeparators s.toList.reverse = s.toList.reverse := by
    cases hs : s.toList.reverse with
    | nil => rfl
    | cons c cs =>
      have hc : c ≠ '\n' := fun hc => hhead cs (by rw [hs, hc])
      unfold dropSeparators
      split
      · rename_i heq
        exact absurd (List.cons.inj heq).1 hc
      · rfl
  have hreverse : (s ++ ",\n").toList.reverse = '\n' :: ',' :: s.toList.reverse := by
    rw [String.toList_append, List.reverse_append]
    rfl
  rw [trimSeparators, hreverse, dropSeparators, hkept, List.reverse_reverse, String.ofList_toList]

/-- Lines lose the separator after the last one. -/
theorem trimSeparators_separated (lines : List String) (h : Finished last) :
    trimSeparators (separated (lines ++ [last])) = separated lines ++ last := by
  rw [separated_append, separated_singleton, ← String.append_assoc,
    trimSeparators_append (h.append _)]

end Separators

/-! ## Blocks -/

/-- What stands between the parentheses of a created table. -/
def TableBlocks.text (b : TableBlocks) : String :=
  b.columns ++ b.primary ++ b.unique

/-- Blocks of lines come to all of their lines with separators between them, whichever of them are
empty. -/
theorem TableBlocks.text_trimmed {columns primary unique : List String}
    (hcolumns : columns ≠ []) (h : ∀ line ∈ columns ++ primary ++ unique, Finished line) :
    (TableBlocks.mk (separated columns) (separated primary) (separated unique)).trimmed.text =
      String.intercalate ",\n" (columns ++ primary ++ unique) := by
  unfold trimmed
  dsimp only
  rw [separated_isEmpty, separated_isEmpty]
  -- The last line of all is that of the last block which has any.
  obtain rfl | ⟨lines, last, rfl⟩ := List.eq_nil_or_concat' unique
  case inr =>
    have hlast : Finished last := h last (by simp)
    rw [if_pos (by simp), text, trimSeparators_separated lines hlast, ← List.append_assoc,
      intercalate_concat, separated_append, separated_append]
    simp only [String.append_assoc]
  obtain rfl | ⟨lines, last, rfl⟩ := List.eq_nil_or_concat' primary
  case inr =>
    have hlast : Finished last := h last (by simp)
    rw [if_neg (by simp), if_pos (by simp), text, trimSeparators_separated lines hlast,
      List.append_nil, ← List.append_assoc, intercalate_concat, separated_append]
    simp [separated, String.append_assoc]
  obtain rfl | ⟨lines, last, rfl⟩ := List.eq_nil_or_concat' columns
  case inl => exact absurd rfl hcolumns
  case inr =>
    have hlast : Finished last := h last (by simp)
    rw [if_neg (by simp), if_neg (by simp), text, trimSeparators_separated lines hlast,
      List.append_nil, List.append_nil, intercalate_concat]
    simp [separated]

/-- The items of a created table. -/
def tableItems (d : Dialect) (columns : List TableColumn) : List String :=
  columns.map (columnLine d) ++ keyLine d "PRIMARY KEY" (columns.filter (needsPrimaryKey d)) ++
    keyLine d "UNIQUE" (columns.filter (·.unique))

/-- The blocks of columns come to the items of the table. -/
theorem TableBlocks.text_ofColumns (d : Dialect) {columns : List TableColumn} (h : columns ≠ []) :
    (ofColumns d columns).trimmed.text = String.intercalate ",\n" (tableItems d columns) := by
  refine text_trimmed (fun hnil => h (List.map_eq_nil_iff.mp hnil)) ?_
  simp only [List.forall_mem_append, List.forall_mem_map]
  exact ⟨⟨fun c _ => finished_columnLine d c, finished_keyLine d _ _⟩, finished_keyLine d _ _⟩

/-! ## The template -/

/-- The layout of a statement that creates a table, given its parts. -/
def createTableLayout (temporary table items extension : String) : String :=
  "CREATE " ++ temporary ++ "TABLE " ++ table ++ " (\n" ++ items ++ "\n)" ++ extension

/-- The template of a created table, piece by piece. -/
def createTablePieces : List TemplatePiece :=
  [.text "CREATE ", .slot "temp", .text "TABLE ", .slot "table", .text " (\n", .slot "columns",
    .slot "primary", .slot "unique", .text "\n)", .slot "extension"]

/-- The parts of a created table are put into the template as they are. -/
theorem fill_createTableTemplate (temporary table extension : String) (b : TableBlocks) :
    fillTemplate (createTableSlot temporary table extension b) createTableTemplate =
      createTableLayout temporary table b.text extension := by
  have hwritten : createTableTemplate = String.join (createTablePieces.map (·.written)) := by
    decide
  have hfits : ∀ p ∈ createTablePieces, p.Fits (createTableSlot temporary table extension b) := by
    simp only [createTablePieces, List.forall_mem_cons]
    exact ⟨.text (by decide), .slot (by decide) rfl, .text (by decide),
      .slot (by decide) rfl, .text (by decide), .slot (by decide) rfl,
      .slot (by decide) rfl, .slot (by decide) rfl, .text (by decide),
      .slot (by decide) rfl, List.forall_mem_nil _⟩
  rw [hwritten, fillTemplate_written hfits]
  simp [createTablePieces, TemplatePiece.filled, createTableSlot, createTableLayout,
    TableBlocks.text, String.append_assoc]

/-! ## Statements -/

variable {σ : Type} (t : Target) (env : Env)

/-- A table is created from its items in their layout. -/
theorem renderCreateTable_eq (s : Sections σ) :
    renderCreateTable t env s =
      if s.tableColumns.isEmpty then .error .createWithoutColumns
      else if 1 < (s.tableColumns.filter (·.identity)).length then .error .severalIdentityColumns
      else match tableName t env s with
        | .error e => .error e
        | .ok table =>
          .ok (createTableLayout (temporaryWord t.dialect s) table
            (String.intercalate ",\n" (tableItems t.dialect s.tableColumns))
            (tableExtension t.dialect s)) := by
  unfold renderCreateTable
  split
  case isTrue => rfl
  case isFalse hcolumns =>
    have hne : s.tableColumns ≠ [] := fun hnil => hcolumns (by rw [hnil]; rfl)
    refine if_congr Iff.rfl rfl ?_
    cases tableName t env s with
    | error e => rfl
    | ok table => simp only [fill_createTableTemplate, TableBlocks.text_ofColumns t.dialect hne]

/-- A temporary table says in two dialects what a commit does to its rows. -/
theorem tableExtension_eq (d : Dialect) (s : Sections σ) :
    tableExtension d s =
      if s.isTemporary ∧ (d = .oracle ∨ d = .firebird) then
        " ON COMMIT " ++ (if s.preservesRows then "PRESERVE" else "DELETE") ++ " ROWS"
      else "" := by
  unfold tableExtension
  cases s.isTemporary with
  | false => rfl
  | true => cases s.preservesRows <;> cases d <;> decide

/-- **CREATE TABLE.**  A query with a plain table name and with columns, at most one of which is
numbered by the database, always creates its table.  The items are a line for each column in their
order, then a PRIMARY KEY of the key columns that are not declared as such in their own line, if
there are any, and then a UNIQUE of the unique columns, if there are any.  There is one separator
between each two of them and none after the last one.  The table is named as in every statement, and
all names and types are copied, whatever is in them.  What follows the parentheses says what a
commit does to the rows of a temporary table, for the dialects that have it said. -/
theorem renderCreateTable_items (q : Query) {table : String}
    (hcolumns : (q.sections t).tableColumns ≠ [])
    (hidentity : ((q.sections t).tableColumns.filter (·.identity)).length ≤ 1)
    (hsource : (q.sections t).source = some (.table table)) :
    let s := q.sections t
    let d := t.dialect
    let name := env.prefixed t (Text.trim table)
    let line (c : TableColumn) : String :=
      "    " ++ d.quoteIdentifier c.name ++ " " ++ d.typeName c.type ++
        (if c.identity then " " ++ d.identityKeyword
          else if c.nullable then " NULL" else " NOT NULL")
    let key (keyword : String) (columns : List TableColumn) : List String :=
      if columns.isEmpty then [] else
        ["    " ++ keyword ++ " (" ++
          String.intercalate ", " (columns.map fun c => d.quoteIdentifier c.name) ++ ")"]
    let primary := s.tableColumns.filter fun c =>
      c.primaryKey && !(c.identity && d.identityIsPrimaryKey)
    let unique := s.tableColumns.filter (·.unique)
    renderCreateTable t env s = .ok (
      "CREATE " ++ (if s.isTemporary then d.temporaryKeyword else "") ++ "TABLE " ++
        d.wrap (if s.isTemporary then d.temporaryName name else name) ++ " (\n" ++
        String.intercalate ",\n"
          (s.tableColumns.map line ++ key "PRIMARY KEY" primary ++ key "UNIQUE" unique) ++
        "\n)" ++
        (if s.isTemporary ∧ (d = .oracle ∨ d = .firebird) then
          " ON COMMIT " ++ (if s.preservesRows then "PRESERVE" else "DELETE") ++ " ROWS"
        else "")) := by
  intro s d name line key primary unique
  have hname : tableName t env s =
      .ok (d.wrap (if s.isTemporary then d.temporaryName name else name)) := by
    rw [tableName, hsource]
  have hnonempty : ¬s.tableColumns.isEmpty := fun hnil => hcolumns (List.isEmpty_iff.mp hnil)
  rw [renderCreateTable_eq, if_neg hnonempty, if_neg (Nat.not_lt.mpr hidentity), hname,
    tableExtension_eq]
  rfl

/-- Names and types that look like slots and separators, and a temporary table that keeps its rows
where the dialect has it said. -/
theorem renderCreateTable_items_braces :
    let t : Target := { dialect := .sqlite }
    let q : Query := runAll
      [.fromTable "\x7bcolumns\x7d", .temporary,
        .createTable [⟨"id", .integer, false, true, false, true⟩,
          ⟨"\x7bunique\x7d,\n", .custom ",\n", true, true, true, false⟩]] {}
    let t' : Target := { dialect := .oracle }
    let q' : Query := runAll
      [.fromTable "s", .temporary, .onCommitPreserveRows true,
        .createTable [⟨"id", .integer, false, false, false, false⟩]] {}
    ((q.sections t).tableColumns ≠ [] ∧
      ((q.sections t).tableColumns.filter (·.identity)).length ≤ 1 ∧
      (q.sections t).source = some (.table "\x7bcolumns\x7d") ∧
      renderCreateTable t {} (q.sections t) = .ok (
        "CREATE TEMPORARY TABLE \"\x7bcolumns\x7d\" (\n" ++
          "    \"id\" INTEGER PRIMARY KEY AUTOINCREMENT,\n" ++
          "    \"\x7bunique\x7d,\n\" ,\n NULL,\n" ++
          "    PRIMARY KEY (\"\x7bunique\x7d,\n\"),\n" ++
          "    UNIQUE (\"\x7bunique\x7d,\n\")\n)")) ∧
      ((q'.sections t').tableColumns ≠ [] ∧
        ((q'.sections t').tableColumns.filter (·.identity)).length ≤ 1 ∧
        (q'.sections t').source = some (.table "s") ∧
        renderCreateTable t' {} (q'.sections t') = .ok (
          "CREATE GLOBAL TEMPORARY TABLE \"s\" (\n" ++
            "    \"id\" NUMBER(10) NOT NULL\n) ON COMMIT PRESERVE ROWS")) := by
  intro t q t' q'
  constructor
  · have hcolumns : (q.sections t).tableColumns ≠ [] := List.cons_ne_nil _ _
    have hidentity : ((q.sections t).tableColumns.filter (·.identity)).length ≤ 1 := by
      decide +kernel
    have hsource : (q.sections t).source = some (.table "\x7bcolumns\x7d") := rfl
    refine ⟨hcolumns, hidentity, hsource, ?_⟩
    rw [renderCreateTable_items t {} q hcolumns hidentity hsource]
    exact congrArg Except.ok (by decide +kernel)
  · have hcolumns : (q'.sections t').tableColumns ≠ [] := List.cons_ne_nil _ _
    have hidentity : ((q'.sections t').tableColumns.filter (·.identity)).length ≤ 1 := by
      decide +kernel
    have hsource : (q'.sections t').source = some (.table "s") := rfl
    refine ⟨hcolumns, hidentity, hsource, ?_⟩
    rw [renderCreateTable_items t' {} q' hcolumns hidentity hsource]
    exact congrArg Except.ok (by decide +kernel)

end SqlBuilder
