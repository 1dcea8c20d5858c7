import SqlBuilder.Proofs.Insert.Operands
import SqlBuilder.Proofs.Insert.Rows

/-!
# The width of rows

A value goes to a column by its place in its row, whether the row is inserted or written out in a
common table expression.  Rows have as many values as there are columns, but what is written are the
operands of the values (`Env.cells`), and a value may come to several of them, or to none.  So a row
has one operand for each column, in their order (`OneForEach`), just if every value in it comes to
one operand (`RowWidth`): as all values do, once their variables are replaced, but arrays and empty
literals.

A list of values leaves out those that come to no operands, while a select of a row has the name of
the column in their place, without a value before it (`labelled`).

`compile_row_widths` says so of every row of a compiled statement, and `not_compile_row_width` has
rows that come out too wide, too narrow and with a name for a value.
-/

namespace SqlBuilder

variable {t : Target} {env : Env}

/-! ## Cutting lists -/

/-- All pieces of a list have the full length, but for the first one, which has the rest. -/
theorem length_of_pieces_eq_cons {α : Type} {width : Nat} (hwidth : 0 < width) {as : List α}
    {p : List α} {ps : List (List α)} (h : pieces width as = p :: ps) :
    p.length = (as.length - 1) % width + 1 ∧ ∀ p' ∈ ps, p'.length = width := by
  induction as generalizing p ps with
  | nil => cases h
  | cons a as ih =>
    rw [pieces] at h
    rw [List.length_cons, Nat.add_sub_cancel]
    split at h
    case h_1 hnil =>
      obtain ⟨rfl, rfl⟩ := List.cons.inj h
      have has : as = [] := by rw [← flatten_pieces width as, hnil, List.flatten_nil]
      simp [has]
    case h_2 p' ps' hcons =>
      obtain ⟨hfirst, hrest⟩ := ih hcons
      obtain ⟨n, hn⟩ : ∃ n, as.length = n + 1 := by
        cases as with
        | nil => cases hcons
        | cons _ as => exact ⟨as.length, rfl⟩
      rw [hn, Nat.add_sub_cancel] at hfirst
      rw [hn] at h ⊢
      -- One more element fills the first piece up, or the piece was full.
      have hnext : (n % width + 1) % width = (n + 1) % width := Nat.mod_add_mod n width 1
      have hlt : n % width < width := Nat.mod_lt n hwidth
      split at h <;> obtain ⟨rfl, rfl⟩ := List.cons.inj h
      case isTrue hfull =>
        refine ⟨by rw [hfull]; rfl, List.forall_mem_cons.mpr ⟨?_, hrest⟩⟩
        by_contra hne
        rw [Nat.mod_eq_of_lt (by omega), hfull] at hnext
        exact absurd hnext (Nat.succ_ne_zero _)
      case isFalse hfull =>
        have hroom : n % width + 1 ≠ width := fun h => hfull (by rw [← hnext, h, Nat.mod_self])
        rw [Nat.mod_eq_of_lt (by omega)] at hnext
        exact ⟨by rw [List.length_cons, hfirst, hnext], hrest⟩

/-- Pieces of a list that can be cut into pieces of one length have that length. -/
theorem length_of_mem_pieces {α : Type} {width : Nat} (hwidth : 0 < width) {as : List α}
    (hdvd : as.length % width = 0) : ∀ p ∈ pieces width as, p.length = width := by
  cases hpieces : pieces width as with
  | nil => exact List.forall_mem_nil _
  | cons p ps =>
    obtain ⟨hfirst, hrest⟩ := length_of_pieces_eq_cons hwidth hpieces
    refine List.forall_mem_cons.mpr ⟨?_, hrest⟩
    have hpos : as.length ≠ 0 := by
      intro h
      rw [List.length_eq_zero_iff.mp h] at hpieces
      cases hpieces
    -- The first piece has what is left of the list without its last element, and that one.
    have hnext := Nat.mod_add_mod (as.length - 1) width 1
    have hlt : (as.length - 1) % width < width := Nat.mod_lt _ hwidth
    rw [Nat.sub_add_cancel (Nat.one_le_iff_ne_zero.mpr hpos), hdvd] at hnext
    by_contra hne
    rw [Nat.mod_eq_of_lt (by omega)] at hnext
    exact absurd hnext (Nat.succ_ne_zero _)

/-! ## Cells -/

/-- What stands between commas when a label is written after operands. -/
def labelled (label : String) : List String → List String
  | [] => if label.isEmpty then [] else [label]
  | [s] => [s ++ label]
  | s :: s' :: ss => s :: labelled label (s' :: ss)

theorem labelled_empty (ss : List String) : labelled "" ss = ss := by
  fun_induction labelled "" ss with
  | case1 => rfl
  | case2 h => exact absurd rfl h
  | case3 s => rw [String.append_empty]
  | case4 s s' ss ih => rw [ih]

theorem labelled_cons_ne_nil (label s : String) (ss : List String) :
    labelled label (s :: ss) ≠ [] := by
  cases ss <;> exact List.cons_ne_nil _ _

theorem labelled_ne_nil {label : String} (h : label ≠ "") (ss : List String) :
    labelled label ss ≠ [] := by
  cases ss with
  | nil => simp [labelled, h]
  | cons s ss => exact labelled_cons_ne_nil label s ss

theorem intercalate_labelled (label : String) (ss : List String) :
    String.intercalate ", " (labelled label ss) = String.intercalate ", " ss ++ label := by
  fun_induction labelled label ss with
  | case1 h => simp_all
  | case2 => simp
  | case3 s => simp
  | case4 s s' ss ih =>
    rw [String.intercalate_cons_of_ne_nil (labelled_cons_ne_nil label s' ss), ih,
      String.intercalate_cons_cons]
    simp only [String.append_assoc]

/-- A cell of a row: the operands that its value is written as, and what stands after them. -/
structure RowCell where
  operands : List String
  label : String

/-- What a cell is written as, between commas. -/
def RowCell.parts (c : RowCell) : List String :=
  labelled c.label c.operands

/-- There is one operand for each cell of a row, in their order, and nothing besides: what the value
of the cell is written as, with its label. -/
def OneForEach (cells : List RowCell) (parts : List String) : Prop :=
  List.Forall₂ (fun cell part => ∃ s, s ≠ "" ∧ cell.operands = [s] ∧ part = s ++ cell.label)
    cells parts

theorem OneForEach.operands {cells : List RowCell} {parts : List String}
    (h : OneForEach cells parts) : ∀ cell ∈ cells, ∃ s, cell.operands = [s] := by
  induction h with
  | nil => exact List.forall_mem_nil _
  | cons hcell _ ih =>
    obtain ⟨s, -, hs, -⟩ := hcell
    exact List.forall_mem_cons.mpr ⟨⟨s, hs⟩, ih⟩

/-- Cells are written as one operand each just if each has one. -/
theorem oneForEach_iff {cells : List RowCell} (hcells : ∀ cell ∈ cells, "" ∉ cell.operands) :
    OneForEach cells (cells.flatMap RowCell.parts) ↔ ∀ cell ∈ cells, ∃ s, cell.operands = [s] := by
  refine ⟨OneForEach.operands, fun h => ?_⟩
  induction cells with
  | nil => exact .nil
  | cons cell cells ih =>
    obtain ⟨⟨s, hs⟩, hrest⟩ := List.forall_mem_cons.mp h
    obtain ⟨hempty, hnone⟩ := List.forall_mem_cons.mp hcells
    have hne : s ≠ "" := fun h => hempty (by simp [hs, h])
    have hparts : cell.parts = [s ++ cell.label] := by
      rw [RowCell.parts, hs]
      rfl
    rw [List.flatMap_cons, hparts]
    exact .cons ⟨s, hne, hs, rfl⟩ (ih hnone hrest)

/-! ## Rows -/

namespace Env

variable (env) (label : String → String) (columns : List String) (row : List Value)

/-- The cells of a row, with a label for each column. -/
def cells : List RowCell :=
  (row.zip columns).map fun (v, column) => ⟨env.operands v, label column⟩

/-- What a row is written as, between commas. -/
def rowParts : List String :=
  (env.cells label columns row).flatMap RowCell.parts

/-- What a row is written as. -/
def rowText : String :=
  String.intercalate ", " (env.rowParts label columns row)

/-- The width of a row. -/
structure RowWidth : Prop where
  /-- There is a value for each column. -/
  length : row.length = columns.length
  /-- The row has one operand for each of its cells just if every value comes to one operand. -/
  aligned : OneForEach (env.cells label columns row) (env.rowParts label columns row) ↔
    ∀ v ∈ row, ∃ s, env.operands v = [s]
  /-- So it has if no value is an array or an empty literal when its variables are replaced. -/
  plain : (∀ v ∈ row, (∀ items, env.replaced^[env.names.length] v ≠ .array items) ∧
      env.replaced^[env.names.length] v ≠ .literal "") →
    OneForEach (env.cells label columns row) (env.rowParts label columns row)

variable {env label columns row}

theorem rowWidth (hlength : row.length = columns.length) : env.RowWidth label columns row := by
  have hvalues (P : List String → Prop) :
      (∀ cell ∈ env.cells label columns row, P cell.operands) ↔ ∀ v ∈ row, P (env.operands v) := by
    rw [cells, List.forall_mem_map, ← List.map_fst_zip (Nat.le_of_eq hlength), List.forall_mem_map,
      List.map_fst_zip (Nat.le_of_eq hlength)]
  have hempty : ∀ cell ∈ env.cells label columns row, "" ∉ cell.operands :=
    (hvalues ("" ∉ ·)).mpr fun v _ => env.empty_not_mem_operands v
  have haligned : OneForEach (env.cells label columns row) (env.rowParts label columns row) ↔
      ∀ v ∈ row, ∃ s, env.operands v = [s] :=
    (oneForEach_iff hempty).trans (hvalues fun operands => ∃ s, operands = [s])
  refine ⟨hlength, haligned, fun hplain => haligned.mpr fun v hv => ?_⟩
  exact Value.operands_eq_singleton (hplain v hv).1 (hplain v hv).2

/-- A row that is written as a list of its values. -/
theorem placeholders_rowText (hlength : row.length = columns.length) {s : String}
    (h : (env.placeholders row).outcome = .ok s) : s = env.rowText (fun _ => "") columns row := by
  have hparts : env.rowParts (fun _ => "") columns row = row.flatMap env.operands := by
    rw [rowParts, cells, List.flatMap_map]
    simp only [RowCell.parts, labelled_empty]
    rw [← List.flatMap_map (f := Prod.fst), List.map_fst_zip (Nat.le_of_eq hlength)]
  rw [placeholders_operands h, rowText, hparts]

end Env

/-! ## Rows written out -/

/-- What stands after the value of a column where rows are written out. -/
def rowLabel (d : Dialect) : String → String :=
  match d.rowsStyle with
  | .valuesTable => fun _ => ""
  | .unionAll => fun column => " " ++ d.aliasKeyword ++ d.quoteIdentifier column

/-- The layout of rows that are written out. -/
def rowsLayout (d : Dialect) (columns : List String) : RowLayout :=
  let names := String.intercalate ", " (columns.map d.quoteIdentifier)
  match d.rowsStyle with
  | .valuesTable =>
    ⟨"SELECT " ++ names ++ " FROM (VALUES ", "(", ")", ", ",
      ") " ++ d.aliasKeyword ++ "tbl (" ++ names ++ ")"⟩
  | .unionAll => ⟨"", "SELECT ", dummySource d, " UNION ALL ", ""⟩

section RowsWrittenOut

variable {columns : List String} {s : String}

theorem renderValuesTable_text {rows : List (List Value)}
    (hstyle : t.dialect.rowsStyle = .valuesTable) (hrows : ∀ row ∈ rows, row.length = columns.length)
    (h : (renderValuesTable t env columns rows).outcome = .ok s) :
    s = (rowsLayout t.dialect columns).write
      (rows.map (env.rowText (rowLabel t.dialect) columns)) := by
  have hlabel : rowLabel t.dialect = fun _ => "" := by rw [rowLabel, hstyle]
  obtain ⟨lists, hlists, h⟩ := Emit.of_bind_ok h
  have hwritten : lists =
      rows.map fun row => "(" ++ env.rowText (rowLabel t.dialect) columns row ++ ")" := by
    refine Emit.mapM_outcome (fun row hrow list hlist => ?_) hlists
    obtain ⟨text, htext, hlist⟩ := Emit.of_bind_ok hlist
    rw [hlabel, ← Env.placeholders_rowText (hrows row hrow) htext]
    exact (Except.ok.inj hlist).symm
  rw [← Except.ok.inj h, hwritten, rowsLayout, hstyle]
  simp [RowLayout.write, String.append_assoc, Function.comp_def]

theorem renderRowSelect_text {row : List Value} (hstyle : t.dialect.rowsStyle = .unionAll)
    (h : (renderRowSelect t env columns row).outcome = .ok s) :
    s = "SELECT " ++ env.rowText (rowLabel t.dialect) columns row ++ dummySource t.dialect := by
  have hlabel : rowLabel t.dialect =
      fun column => " " ++ t.dialect.aliasKeyword ++ t.dialect.quoteIdentifier column := by
    rw [rowLabel, hstyle]
  obtain ⟨cells, hcells, h⟩ := Emit.of_bind_ok h
  have hwritten : cells = ((env.cells (rowLabel t.dialect) columns row).map RowCell.parts).map
      (String.intercalate ", ") := by
    rw [Env.cells, List.map_map, List.map_map]
    refine Emit.mapM_outcome (fun cell _ text htext => ?_) hcells
    obtain ⟨p, hp, htext⟩ := Emit.of_bind_ok htext
    rw [Env.placeholder_operands hp] at htext
    rw [← Except.ok.inj htext, Function.comp_apply, Function.comp_apply, RowCell.parts,
      intercalate_labelled, hlabel]
    simp only [String.append_assoc]
  have hparts : ∀ parts ∈ (env.cells (rowLabel t.dialect) columns row).map RowCell.parts,
      parts ≠ [] := by
    rw [Env.cells, List.map_map, List.forall_mem_map]
    exact fun cell _ => labelled_ne_nil (by simp [hlabel]) _
  rw [← Except.ok.inj h, hwritten, String.intercalate_flatten hparts, Env.rowText, Env.rowParts,
    List.flatMap_def]

/-- Rows that are written out have a value for each column, and stand in their layout. -/
theorem renderRows_text {values : List Value}
    (h : (renderRows t env columns values).outcome = .ok s) :
    ∃ rows : List (List Value), rows ≠ [] ∧ rows.flatten = values ∧
      (∀ row ∈ rows, row.length = columns.length) ∧
      s = (rowsLayout t.dialect columns).write
        (rows.map (env.rowText (rowLabel t.dialect) columns)) := by
  unfold renderRows at h
  split at h
  case isTrue => cases h
  case isFalse hcomplete =>
    obtain ⟨hcolumns, hvalues, hdvd⟩ :
        columns ≠ [] ∧ values ≠ [] ∧ values.length % columns.length = 0 := by
      simpa [not_or] using hcomplete
    have hrows : ∀ row ∈ pieces columns.length values, row.length = columns.length :=
      length_of_mem_pieces (List.length_pos_iff.mpr hcolumns) hdvd
    have hflatten := flatten_pieces columns.length values
    refine ⟨pieces columns.length values, fun hnil => hvalues ?_, hflatten, hrows, ?_⟩
    · rw [← hflatten, hnil, List.flatten_nil]
    cases hstyle : t.dialect.rowsStyle with
    | valuesTable =>
      rw [hstyle] at h
      exact renderValuesTable_text hstyle hrows h
    | unionAll =>
      rw [hstyle] at h
      obtain ⟨selects, hselects, h⟩ := Emit.of_bind_ok h
      have hwritten : selects = (pieces columns.length values).map fun row =>
          "SELECT " ++ env.rowText (rowLabel t.dialect) columns row ++ dummySource t.dialect :=
        Emit.mapM_outcome (fun _ _ _ => renderRowSelect_text hstyle) hselects
      rw [← Except.ok.inj h, hwritten, rowsLayout, hstyle]
      simp [RowLayout.write, Function.comp_def]

end RowsWrittenOut

/-! ## Inserted rows -/

/-- Full rows that are inserted stand in the layout of their insert. -/
theorem renderInsert_text {s : Sections Rendered} {columns : List String} {values : List Value}
    {returnId : Bool} {rest : List (InsertClause Rendered)} (hfull : ∀ i ∈ s.inserts, i.Full)
    (hinserts : s.inserts = .row columns values returnId :: rest) {body : String}
    (h : (renderInsert t env s).outcome = .ok body) :
    ∃ (table suffix : String) (insert : InsertRows),
      (renderTarget t env s .insert).outcome = .ok table ∧
      InsertRows.collect? columns s.inserts = .ok insert ∧ insert.suffix t.dialect = .ok suffix ∧
      (∀ row ∈ insert.rows, row.length = columns.length) ∧
      body = (insertLayout t.dialect insert.rows.length table (columnList t.dialect columns)).write
        (insert.rows.map (env.rowText (fun _ => "") columns)) ++ suffix := by
  rw [renderInsert_rows hinserts] at h
  obtain ⟨table, htable, h⟩ := Emit.of_bind_ok h
  obtain ⟨insert, hinsert, h⟩ := Emit.of_bind_ok h
  obtain ⟨lists, hlists, h⟩ := Emit.of_bind_ok h
  obtain ⟨suffix, hsuffix, h⟩ := Emit.of_bind_ok h
  obtain ⟨hcolumns, hmem⟩ := InsertRows.of_collect? hinsert
  have hlength : ∀ row ∈ insert.rows, row.length = columns.length := by
    intro row hrow
    obtain ⟨returnId', hclause⟩ := hmem row hrow
    exact hfull _ hclause
  have hwritten : lists = insert.rows.map (env.rowText (fun _ => "") columns) :=
    Emit.mapM_outcome (fun row hrow _ => Env.placeholders_rowText (hlength row hrow)) hlists
  refine ⟨table, suffix, insert, htable, hinsert, hsuffix, hlength, ?_⟩
  rw [← Except.ok.inj h, hwritten, hcolumns]

/-! ## Compiled statements -/

/-- **Widths of rows.**  Rows that are written out in a common table expression of a compiled
statement, and rows that it inserts, have a value for each column.  They are written as the operands
of their values, so that there is one for each column, in their order, just if every value comes to
one operand; as it does unless it is an array or an empty literal when its variables are
replaced. -/
theorem compile_row_widths {ss : List Step} (hss : ∀ i ∈ insertsHandedIn ss, i.Full)
    (hdata : (runAll ss {}).method.isDdl = false) {c : Compiled}
    (hc : compile t (runAll ss {}) = .ok c) :
    let q : Query := runAll ss {}
    let env := q.statementEnv t
    ∃ (defs : List CteDefinition) (body : Written), IsPrologue t q defs ∧
      c.rawSql = withClause t.dialect defs ++ body.text ∧
      (∀ e ∈ defs, ∀ aliasName columns values,
        e.declared.source = .rows aliasName columns values →
        ∃ rows : List (List Value), rows ≠ [] ∧ rows.flatten = values ∧
          e.body.text = (rowsLayout t.dialect columns).write
            (rows.map (env.rowText (rowLabel t.dialect) columns)) ∧
          ∀ row ∈ rows, env.RowWidth (rowLabel t.dialect) columns row) ∧
      ∀ columns values returnId rest, q.method = .insert →
        (q.sections t).inserts = .row columns values returnId :: rest →
        ∃ (table suffix : String) (insert : InsertRows),
          (renderTarget t env (q.sections t) .insert).outcome = .ok table ∧
          InsertRows.collect? columns (q.sections t).inserts = .ok insert ∧
          insert.suffix t.dialect = .ok suffix ∧
          body.text = (insertLayout t.dialect insert.rows.length table
            (columnList t.dialect columns)).write
              (insert.rows.map (env.rowText (fun _ => "") columns)) ++ suffix ∧
          ∀ row ∈ insert.rows, env.RowWidth (fun _ => "") columns row := by
  intro q env
  obtain ⟨defs, body, hdefs, hbody, hsql, -⟩ := compile_prologue hdata hc
  refine ⟨defs, body, hdefs, hsql, ?definitions, ?inserted⟩
  case definitions =>
    intro e he aliasName columns values hsource
    have hrendered := congrArg Emit.outcome (hdefs.body e he)
    rw [hsource] at hrendered
    obtain ⟨rows, hrows, hvalues, hlength, htext⟩ := renderRows_text hrendered
    exact ⟨rows, hrows, hvalues, htext, fun row hrow => Env.rowWidth (hlength row hrow)⟩
  case inserted =>
    intro columns values returnId rest hmethod hinserts
    have hfull : ∀ i ∈ (q.sections t).inserts, i.Full :=
      Query.inserts_full (runAll_full (q := {}) hss .empty) t
    have hrendered : (renderInsert t env (q.sections t)).outcome = .ok body.text := by
      have hdata : renderData t env (q.sections t) = renderInsert t env (q.sections t) := by
        have hsections : (q.sections t).method = .insert := hmethod
        rw [renderData, hsections]
      rw [← hdata]
      exact congrArg Emit.outcome hbody
    obtain ⟨table, suffix, insert, htable, hinsert, hsuffix, hlength, htext⟩ :=
      renderInsert_text hfull hinserts hrendered
    exact ⟨table, suffix, insert, htable, hinsert, hsuffix, htext,
      fun row hrow => Env.rowWidth (hlength row hrow)⟩

/-- Rows that hold variables, literals and a null. -/
theorem compile_row_widths_defined :
    let t : Target := { dialect := .mySql }
    let rows : List (List Value) := [[.reference "y", .literal "now()"], [.text "s", .null]]
    let ss : List Step :=
      [.define "x" (.reference "y"), .define "y" (.int 7),
        .withValues "v" ["a", "b"] [[.int 1, .reference "x"]], .fromTable "t",
        .asInsert ["p", "q"] rows]
    let q : Query := runAll ss {}
    let env := q.statementEnv t
    (∀ i ∈ insertsHandedIn ss, i.Full) ∧ q.method.isDdl = false ∧
      (∀ row ∈ rows, OneForEach (env.cells (fun _ => "") ["p", "q"] row)
        (env.rowParts (fun _ => "") ["p", "q"] row)) ∧
      ∃ c, compile t q = .ok c ∧
        c.rawSql = "WITH `v` AS (SELECT ? AS `a`, ? AS `b`) " ++
          "INSERT INTO `t` (`p`, `q`) VALUES (?, now()), (?, ?)" := by
  intro t rows ss q env
  have hss : ∀ i ∈ insertsHandedIn ss, i.Full := List.forall_mem_nil _
  have hsql : (compile t q).toOption.map (·.rawSql) =
      some ("WITH `v` AS (SELECT ? AS `a`, ? AS `b`) " ++
        "INSERT INTO `t` (`p`, `q`) VALUES (?, now()), (?, ?)") := by
    decide +kernel
  cases hc : compile t q with
  | error e =>
    rw [hc] at hsql
    exact absurd hsql (by simp [Except.toOption])
  | ok c =>
    rw [hc] at hsql
    have hdata : q.method.isDdl = false := rfl
    obtain ⟨_, _, -, -, -, hinserted⟩ := compile_row_widths hss hdata hc
    obtain ⟨_, _, insert, -, hinsert, -, -, hwidth⟩ := hinserted _ _ _ _ rfl rfl
    obtain rfl := Except.ok.inj hinsert
    have hvalues : ∀ row ∈ rows, ∀ v ∈ row, (env.operands v).length = 1 := by decide +kernel
    exact ⟨hss, hdata, fun row hrow => (hwidth row hrow).aligned.mpr fun v hv =>
      List.length_eq_one_iff.mp (hvalues row hrow v hv), c, rfl, Option.some.inj hsql⟩

/-- A row with an array comes out too wide, and one with an empty array too narrow or with nothing
but the name of a column for a value. -/
theorem not_compile_row_width :
    let t : Target := { dialect := .generic }
    let insertOf (row : List Value) : Query :=
      runAll [.fromTable "t", .asInsert ["a", "b"] [row]] {}
    let tableOf (row : List Value) : Query :=
      runAll [.fromTable "v", .withValues "v" ["a", "b"] [row]] {}
    let wide : List Value := [.array [.int 1, .int 2], .int 3]
    let narrow : List Value := [.array [], .int 3]
    ¬OneForEach (((insertOf wide).statementEnv t).cells (fun _ => "") ["a", "b"] wide)
        (((insertOf wide).statementEnv t).rowParts (fun _ => "") ["a", "b"] wide) ∧
      (compile t (insertOf wide)).toOption.map (·.rawSql) =
        some "INSERT INTO \"t\" (\"a\", \"b\") VALUES (?, ?, ?)" ∧
      (compile t (insertOf narrow)).toOption.map (·.rawSql) =
        some "INSERT INTO \"t\" (\"a\", \"b\") VALUES (?)" ∧
      (compile t (tableOf narrow)).toOption.map (·.rawSql) =
        some "WITH \"v\" AS (SELECT  AS \"a\", ? AS \"b\") SELECT * FROM \"v\"" := by
  intro t insertOf tableOf wide narrow
  refine ⟨fun h => ?_, by decide +kernel, by decide +kernel, by decide +kernel⟩
  have hlength := List.Forall₂.length_eq h
  exact absurd hlength (by decide +kernel)

end SqlBuilder
