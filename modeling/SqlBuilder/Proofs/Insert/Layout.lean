import Mathlib.Algebra.GroupWithZero.Nat
import SqlBuilder.Proofs.Cte.Prologue
import SqlBuilder.Proofs.Markup.Value
import SqlBuilder.Proofs.Text.Placeholder
import SqlBuilder.Query.Step

/-!
# Inserted rows

An insert of rows is written in one of three layouts: as a list of values, of which there may be one
row only, as one INTO for each row, or as a union of selects.  A `RowLayout` is what stands around
and between the rows, `insertLayout` the one that a dialect uses for a number of rows, and
`renderInsert_rows` says that an insert is its layout with the list of values of each row.

Placeholders are counted part by part, since none can come up or get lost where the parts meet
(`RowLayout.countMarks_write`).  Names are written as they are, question marks and all, so that an
insert has a placeholder too many for each one in the names, and cannot be bound then.  If there is
none, it is bound to its values, row by row (`compile_inserted_rows`).
-/

namespace SqlBuilder

variable {t : Target} {env : Env}

/-! ## Counting placeholders -/

theorem Plain.head?_ne {s : String} (h : Plain s) : s.toList.head? ≠ some '?' :=
  fun hhead => h (List.mem_of_mem_head? hhead)

theorem Divider.getLast?_ne {s : String} (h : Divider s) : s.toList.getLast? ≠ some '\\' := by
  intro hlast
  have hany := h.2
  rw [hlast] at hany
  exact absurd hany (by decide)

theorem Divider.getLast?_append_ne {s : String} (h : Divider s) (u : String) :
    (u ++ s).toList.getLast? ≠ some '\\' := by
  obtain ⟨c, hc⟩ : ∃ c, s.toList.getLast? = some c := by
    cases hlast : s.toList.getLast? with
    | none => exact absurd h.2 (by rw [hlast]; decide)
    | some c => exact ⟨c, rfl⟩
  have hne := h.getLast?_ne
  rw [hc] at hne
  rw [String.toList_append, List.getLast?_append, hc]
  exact hne

theorem countMarks_intercalate {divider : String} (h : Divider divider) (parts : List String) :
    countMarks (String.intercalate divider parts) = (parts.map countMarks).sum := by
  induction parts with
  | nil => rfl
  | cons s parts ih =>
    cases parts with
    | nil =>
      simp only [String.intercalate_singleton, List.map_cons, List.map_nil, List.sum_cons,
        List.sum_nil, Nat.add_zero]
    | cons s' parts =>
      rw [String.intercalate_cons_cons, countMarks_append_of_last (h.getLast?_append_ne s),
        countMarks_append_of_head s h.1.head?_ne, countMarks_of_plain h.1, ih]
      rfl

/-! ## Layouts -/

/-- What stands around rows and between them. -/
structure RowLayout where
  /-- Before the first row. -/
  head : String
  /-- Before the values of each row. -/
  opening : String
  /-- After the values of each row. -/
  closing : String
  /-- Between two rows. -/
  divider : String
  /-- After the last row. -/
  tail : String

namespace RowLayout

/-- Rows in a layout, each given by the text of its values. -/
def write (l : RowLayout) (rows : List String) : String :=
  l.head ++ String.intercalate l.divider (rows.map fun row => l.opening ++ row ++ l.closing) ++
    l.tail

/-- No placeholder comes up or gets lost where the parts of the layout meet. -/
structure Separates (l : RowLayout) : Prop where
  head : l.head.toList.getLast? ≠ some '\\'
  opening : l.opening.toList.getLast? ≠ some '\\'
  closing : Plain l.closing
  divider : Divider l.divider
  tail : Plain l.tail

/-- The placeholders of rows in a layout are those of the rows, besides those of what stands before
the first row and before each one. -/
theorem countMarks_write {l : RowLayout} (h : l.Separates) (rows : List String) :
    countMarks (l.write rows) =
      countMarks l.head + rows.length * countMarks l.opening + (rows.map countMarks).sum := by
  have hrow (row : String) : countMarks (l.opening ++ row ++ l.closing) =
      countMarks l.opening + countMarks row := by
    rw [countMarks_append_of_head _ h.closing.head?_ne, countMarks_append_of_last h.opening,
      countMarks_of_plain h.closing, Nat.add_zero]
  have hrows : (rows.map fun row => countMarks l.opening + countMarks row).sum =
      rows.length * countMarks l.opening + (rows.map countMarks).sum := by
    induction rows with
    | nil => simp only [List.map_nil, List.sum_nil, List.length_nil, Nat.zero_mul, Nat.add_zero]
    | cons row rows ih =>
      simp only [List.map_cons, List.sum_cons, List.length_cons, ih, Nat.succ_mul]
      omega
  rw [write, countMarks_append_of_head _ h.tail.head?_ne, countMarks_of_plain h.tail,
    countMarks_append_of_last h.head, countMarks_intercalate h.divider, List.map_map,
    Nat.add_zero, Nat.add_assoc, ← hrows]
  exact congrArg (_ + ·) (congrArg List.sum (List.map_congr_left fun row _ => hrow row))

end RowLayout

/-- The layout of an insert of a number of rows into columns of a table: VALUES for a single row,
and for several rows what the dialect uses for them. -/
def insertLayout (d : Dialect) (rows : Nat) (table columns : String) : RowLayout :=
  match if rows = 1 then .valuesList else d.multiInsert with
  | .valuesList =>
    ⟨"INSERT INTO " ++ table ++ " (" ++ columns ++ ") VALUES ", "(", ")", ", ", ""⟩
  | .insertAll =>
    ⟨"INSERT ALL ", "INTO " ++ table ++ " (" ++ columns ++ ") VALUES (", ")", " ",
      " SELECT 1 FROM " ++ d.dummyTable?.getD "DUAL"⟩
  | .unionSelect =>
    ⟨"INSERT INTO " ++ table ++ " (" ++ columns ++ ") ", "SELECT ", dummySource d,
      " UNION ALL ", ""⟩

section Marks

variable {before after : String} (table columns : String)

/-- What names a table and its columns has the placeholders that are in the names. -/
theorem countMarks_names (hbefore : Divider before) (hafter : Divider after) :
    countMarks (before ++ table ++ " (" ++ columns ++ after) =
      countMarks table + countMarks columns := by
  have hparenthesis : Divider " (" := by decide
  rw [countMarks_append_of_head _ hafter.1.head?_ne,
    countMarks_append_of_last (hparenthesis.getLast?_append_ne _),
    countMarks_append_of_head _ hparenthesis.1.head?_ne,
    countMarks_append_of_last hbefore.getLast?_ne, countMarks_of_plain hbefore.1,
    countMarks_of_plain hparenthesis.1, countMarks_of_plain hafter.1]
  omega

theorem insertLayout_separates (d : Dialect) (rows : Nat) :
    (insertLayout d rows table columns).Separates := by
  have hdummy : Plain (dummySource d) := by cases d <;> decide
  have htail : Plain (" SELECT 1 FROM " ++ d.dummyTable?.getD "DUAL") := by cases d <;> decide
  have hparenthesis : "(".toList.getLast? ≠ some '\\' := by decide
  have hselect : "SELECT ".toList.getLast? ≠ some '\\' := by decide
  have hall : "INSERT ALL ".toList.getLast? ≠ some '\\' := by decide
  have hclosing : Plain ")" := by decide
  have hcomma : Divider ", " := by decide
  have hblank : Divider " " := by decide
  have hunion : Divider " UNION ALL " := by decide
  have hnames {after : String} (hafter : Divider after) (before : String) :
      (before ++ after).toList.getLast? ≠ some '\\' := hafter.getLast?_append_ne before
  have hnone : Plain "" := by decide
  unfold insertLayout
  split
  · exact ⟨hnames (by decide) _, hparenthesis, hclosing, hcomma, hnone⟩
  · exact ⟨hall, hnames (by decide) _, hclosing, hblank, htail⟩
  · exact ⟨hnames (by decide) _, hselect, hdummy, hunion, hnone⟩

/-- The layout of at least one row has no placeholders just if there are none in the names. -/
theorem countMarks_insertLayout (d : Dialect) {rows : Nat} (hrows : 0 < rows) :
    countMarks (insertLayout d rows table columns).head +
        rows * countMarks (insertLayout d rows table columns).opening = 0 ↔
      countMarks table = 0 ∧ countMarks columns = 0 := by
  have hinto : countMarks ("INSERT INTO " ++ table ++ " (" ++ columns ++ ") VALUES ") =
      countMarks table + countMarks columns := countMarks_names _ _ (by decide) (by decide)
  have heach : countMarks ("INTO " ++ table ++ " (" ++ columns ++ ") VALUES (") =
      countMarks table + countMarks columns := countMarks_names _ _ (by decide) (by decide)
  have hselect : countMarks ("INSERT INTO " ++ table ++ " (" ++ columns ++ ") ") =
      countMarks table + countMarks columns := countMarks_names _ _ (by decide) (by decide)
  have hopening : countMarks "(" = 0 := by decide
  have hall : countMarks "INSERT ALL " = 0 := by decide
  have hword : countMarks "SELECT " = 0 := by decide
  unfold insertLayout
  split
  · rw [hinto, hopening]
    omega
  · rw [hall, heach, Nat.zero_add, Nat.mul_eq_zero]
    omega
  · rw [hselect, hword]
    omega

end Marks

/-! ## Inserts in their layout -/

/-- What follows the rows of an insert: the query for the number of a single row. -/
def InsertRows.suffix (d : Dialect) (i : InsertRows) : Except Error String :=
  if i.rows.length = 1 then insertSuffix d i.returnId else .ok ""

theorem renderRowInserts_layout {rows : List (List Value)} (h : rows.length ≠ 1)
    (table columns : String) :
    renderRowInserts t env table columns rows = do
      let lists ← rows.mapM env.placeholders
      return (insertLayout t.dialect rows.length table columns).write lists := by
  unfold renderRowInserts
  refine bind_congr fun lists => ?_
  unfold insertLayout
  rw [if_neg h]
  cases t.dialect.multiInsert <;> simp [RowLayout.write, String.append_assoc]

/-- **Layout.**  An insert of rows is its layout with the list of values of each row. -/
theorem renderInsert_rows {s : Sections Rendered} {columns : List String} {values : List Value}
    {returnId : Bool} {rest : List (InsertClause Rendered)}
    (hinserts : s.inserts = .row columns values returnId :: rest) :
    renderInsert t env s = do
      let table ← renderTarget t env s .insert
      let insert ← Emit.ofExcept (InsertRows.collect? columns s.inserts)
      let lists ← insert.rows.mapM env.placeholders
      let suffix ← Emit.ofExcept (insert.suffix t.dialect)
      return (insertLayout t.dialect insert.rows.length table
        (columnList t.dialect insert.columns)).write lists ++ suffix := by
  unfold renderInsert
  rw [hinserts]
  refine bind_congr fun table => bind_congr fun insert => ?_
  obtain ⟨columns, rows, returnId⟩ := insert
  have hseveral (hrows : rows.length ≠ 1) :
      renderRowInserts t env table (columnList t.dialect columns) rows = do
        let lists ← rows.mapM env.placeholders
        let suffix ← Emit.ofExcept (InsertRows.suffix t.dialect ⟨columns, rows, returnId⟩)
        return (insertLayout t.dialect rows.length table (columnList t.dialect columns)).write
          lists ++ suffix := by
    have hsuffix : InsertRows.suffix t.dialect ⟨columns, rows, returnId⟩ = .ok "" := if_neg hrows
    rw [renderRowInserts_layout hrows, hsuffix]
    simp only [Emit.ofExcept_ok_bind, String.append_empty]
  match rows with
  | [row] =>
    have hwrite (list : String) : (insertLayout t.dialect 1 table
        (columnList t.dialect columns)).write [list] =
          "INSERT INTO " ++ table ++ " (" ++ columnList t.dialect columns ++ ") VALUES (" ++ list ++
            ")" := by
      apply String.toList_injective
      simp [insertLayout, RowLayout.write]
    simp only [List.mapM_cons, List.mapM_nil, bind_assoc, pure_bind, List.length_singleton, hwrite]
    rfl
  | [] => exact hseveral (by simp)
  | row :: row' :: rows => exact hseveral (by simp)

/-! ## Inserts of values that are bound as they are -/

/-- A placeholder for each of a number of values. -/
def rowMarks (values : Nat) : String :=
  String.intercalate ", " (List.replicate values "?")

theorem countMarks_rowMarks (values : Nat) : countMarks (rowMarks values) = values := by
  have hmark : countMarks "?" = 1 := by decide
  rw [rowMarks, countMarks_intercalate (by decide), List.map_replicate, hmark,
    List.sum_replicate_nat, Nat.mul_one]

/-- Parts that all have a result have the list of their results, and bind one after another. -/
theorem Emit.mapM_of_forall {α β : Type} {f : α → Emit β} {bindings : α → List Value} {g : α → β}
    {xs : List α} (h : ∀ x ∈ xs, f x = ⟨bindings x, .ok (g x)⟩) :
    xs.mapM f = ⟨xs.flatMap bindings, .ok (xs.map g)⟩ := by
  induction xs with
  | nil => rfl
  | cons x xs ih =>
    obtain ⟨hx, hxs⟩ := List.forall_mem_cons.mp h
    rw [List.mapM_cons, hx, ih hxs]
    simp only [bind_mk, bindings_pure, outcome_pure, List.append_nil, List.flatMap_cons,
      List.map_cons]

theorem Env.placeholders_scalars {row : List Value} (h : ∀ v ∈ row, v.IsScalar) :
    env.placeholders row = ⟨row, .ok (rowMarks row.length)⟩ := by
  have hmarks : row.mapM env.placeholder = ⟨row, .ok (List.replicate row.length "?")⟩ := by
    rw [Emit.mapM_of_forall fun v hv => placeholder_scalar (h v hv)]
    simp
  have hlist : commaList (List.replicate row.length "?") = rowMarks row.length := by
    rw [commaList, rowMarks, List.filter_replicate_of_pos (by decide)]
  rw [placeholders, hmarks]
  simp only [Emit.bind_mk, Emit.bindings_pure, Emit.outcome_pure, List.append_nil, hlist]

theorem InsertRows.collect?_rows {σ : Type} (columns : List String) (rows : List (List Value)) :
    collect? columns (rows.map fun row => (.row columns row false : InsertClause σ)) =
      .ok ⟨columns, rows, false⟩ := by
  induction rows with
  | nil => rfl
  | cons row rows ih => simp [collect?, ih]

/-- An insert of values that are bound as they are binds them row by row. -/
theorem renderInsert_scalars {s : Sections Rendered} {table : String} {columns : List String}
    {rows : List (List Value)} (hsource : s.source = some (.table table))
    (hinserts : s.inserts = rows.map fun row => .row columns row false) (hrows : rows ≠ [])
    (hscalar : ∀ row ∈ rows, ∀ v ∈ row, v.IsScalar) :
    renderInsert t env s = ⟨rows.flatten,
      .ok ((insertLayout t.dialect rows.length (env.wrapTable t table)
        (columnList t.dialect columns)).write (rows.map fun row => rowMarks row.length))⟩ := by
  obtain ⟨row, rest, rfl⟩ := List.exists_cons_of_ne_nil hrows
  have htarget : renderTarget t env s .insert = pure (env.wrapTable t table) := by
    rw [renderTarget, hsource]
  have hlists : (row :: rest).mapM env.placeholders =
      ⟨(row :: rest).flatten, .ok ((row :: rest).map fun row => rowMarks row.length)⟩ := by
    rw [Emit.mapM_of_forall fun row hrow => Env.placeholders_scalars (hscalar row hrow),
      List.flatMap_id']
  have hsuffix : InsertRows.suffix t.dialect ⟨columns, row :: rest, false⟩ = .ok "" := by
    unfold InsertRows.suffix
    split <;> rfl
  rw [renderInsert_rows hinserts, hinserts, InsertRows.collect?_rows, htarget]
  simp only [pure_bind, Emit.ofExcept_ok_bind, hlists, hsuffix, Emit.bind_mk]
  simp

/-! ## Compiled inserts -/

/-- Without common table expressions an insert is compiled as it is rendered. -/
theorem renderMethod_insert {s : Sections Rendered} {body : String} {bindings : List Value}
    (hmethod : s.method = .insert) (hctes : s.ctes = [])
    (hbody : renderInsert t (Env.enterStatement t {} s) s = ⟨bindings, .ok body⟩) :
    renderMethod t {} s = ⟨bindings, .ok body⟩ := by
  have hhoisted : s.hoistedCtes t = [] := by
    rw [Sections.hoistedCtes, Sections.allCtes, hctes]
    rfl
  have hdata (env : Env) : renderData t env s = renderInsert t env s := by
    unfold renderData
    rw [hmethod]
  have hstatement : renderMethod t {} s = renderStatement t {} s := by
    unfold renderMethod
    rw [hmethod]
  have hprologue (env : Env) : renderPrologue t env (s.hoistedCtes t) = pure "" := by
    rw [hhoisted]
    rfl
  have hdata' : (renderData t (Env.enterStatement t {} s) s).outcome = .ok body := by
    rw [hdata, hbody]
  have hjoined : joinSections ["", body] = body := by
    simp [joinSections, isEmpty_of_begins (renderData_begins _ body hdata')]
  rw [hstatement, renderStatement, hprologue, pure_bind, hdata, hbody]
  simp only [Emit.bind_mk, Emit.bindings_pure, Emit.outcome_pure, List.append_nil, hjoined]

/-- **Inserted rows.**  An insert of rows for the same columns, of values that are bound as they
are, into a table and without common table expressions, compiles just if it has no error of its own
and there is no placeholder in the names of the table and of the columns.  It then binds the values
row by row, and has every row once, in order, with a placeholder for each of its values: in the
layout of the dialect for as many rows. -/
theorem compile_inserted_rows {q : Query} {table : String} {columns : List String}
    {rows : List (List Value)} (hmethod : q.method = .insert)
    (hsource : (q.sections t).source = some (.table table)) (hctes : (q.sections t).ctes = [])
    (hinserts : (q.sections t).inserts = rows.map fun row => .row columns row false)
    (hrows : rows ≠ []) (hscalar : ∀ row ∈ rows, ∀ v ∈ row, v.IsScalar) :
    let reference := (q.statementEnv t).wrapTable t table
    let names := columnList t.dialect columns
    ((∃ c, compile t q = .ok c) ↔
      q.error = none ∧ countMarks reference = 0 ∧ countMarks names = 0) ∧
    ∀ c, compile t q = .ok c → c.bindings = rows.flatten ∧
      c.rawSql = (insertLayout t.dialect rows.length reference names).write
        (rows.map fun row => rowMarks row.length) := by
  intro reference names
  let layout := insertLayout t.dialect rows.length reference names
  let texts := rows.map fun row => rowMarks row.length
  have hrendered : renderMethod t {} (q.sections t) = ⟨rows.flatten, .ok (layout.write texts)⟩ :=
    renderMethod_insert hmethod hctes (renderInsert_scalars hsource hinserts hrows hscalar)
  have hmarks : countMarks (layout.write texts) = rows.flatten.length ↔
      countMarks reference = 0 ∧ countMarks names = 0 := by
    have htexts : (texts.map countMarks).sum = rows.flatten.length := by
      rw [List.map_map, List.length_flatten]
      exact congrArg List.sum (List.map_congr_left fun row _ => countMarks_rowMarks row.length)
    have hlength : texts.length = rows.length := List.length_map _
    rw [← countMarks_insertLayout _ _ t.dialect (List.length_pos_iff.mpr hrows),
      RowLayout.countMarks_write (insertLayout_separates ..), htexts, hlength]
    omega
  refine ⟨?_, fun c hc => ?_⟩
  · rw [exists_compile_iff hrendered, hmarks]
  · obtain ⟨-, houtcome, hbindings, -⟩ := compile_eq_ok hc
    rw [hrendered] at houtcome hbindings
    exact ⟨hbindings.symm, (Except.ok.inj houtcome).symm⟩

/-- Two rows as a union of selects. -/
theorem compile_inserted_rows_union :
    let t : Target := { dialect := .firebird }
    let rows : List (List Value) := [[.int 1, .null], [.text "b", .int 2]]
    let q : Query := runAll [.fromTable "t", .asInsert ["x", "y"] rows] {}
    q.method = .insert ∧ (q.sections t).source = some (.table "t") ∧ (q.sections t).ctes = [] ∧
      (q.sections t).inserts = rows.map (fun row => .row ["x", "y"] row false) ∧
      (∀ row ∈ rows, ∀ v ∈ row, v.IsScalar) ∧
      ∃ c, compile t q = .ok c ∧ c.bindings = [.int 1, .null, .text "b", .int 2] ∧
        c.rawSql = "INSERT INTO \"T\" (\"X\", \"Y\") SELECT ?, ? FROM RDB$DATABASE " ++
          "UNION ALL SELECT ?, ? FROM RDB$DATABASE" := by
  intro t rows q
  have hsource : (q.sections t).source = some (.table "t") := rfl
  have hinserts : (q.sections t).inserts = rows.map fun row => .row ["x", "y"] row false := rfl
  have hscalar : ∀ row ∈ rows, ∀ v ∈ row, v.IsScalar := by simp [rows, Value.IsScalar]
  obtain ⟨hiff, htext⟩ :=
    compile_inserted_rows (t := t) rfl hsource rfl hinserts (List.cons_ne_nil _ _) hscalar
  obtain ⟨c, hc⟩ := hiff.mpr (by decide +kernel)
  obtain ⟨hbindings, hsql⟩ := htext c hc
  refine ⟨rfl, hsource, rfl, hinserts, hscalar, c, hc, hbindings, hsql.trans ?_⟩
  decide +kernel

/-- A question mark in the name of a column is one placeholder too many. -/
theorem not_compile_inserted_mark :
    let t : Target := { dialect := .generic }
    let q : Query := runAll [.fromTable "t", .asInsert ["a?"] [[.int 1]]] {}
    q.method = .insert ∧ (q.sections t).source = some (.table "t") ∧ (q.sections t).ctes = [] ∧
      (q.sections t).inserts = [.row ["a?"] [.int 1] false] ∧
      compile t q = .error (.bindingCount 2 1) := by
  intro t q
  exact ⟨rfl, rfl, rfl, rfl, compile_of_failure? (by decide +kernel)⟩

end SqlBuilder
