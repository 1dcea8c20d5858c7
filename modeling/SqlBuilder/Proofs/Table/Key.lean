import Mathlib.Data.List.Infix
import SqlBuilder.Compiler
import SqlBuilder.Proofs.Markup.Table
import SqlBuilder.Proofs.Table.Layout
import SqlBuilder.Proofs.Text.Placeholder

/-!
# The keys of a created table

A created table is a list of items (`TableItem`): its columns, each with a constraint after its
type, and keys on the whole table.  `tableDefinition` are the items that columns come to, and what
is written is their text (`text_tableDefinition`).  A key is declared by an item of its own or by a
keyword in the constraint of a column (`TableItem.keys`), which only a column that is numbered by
the database has, and only if the dialect makes it the primary key (`keys_columnItem`).

So the flags of the columns come to at most three keys (`tableKeys_eq`): a primary key on the
numbered column, a primary key on all other columns that are to be in it, and a UNIQUE on all unique
columns.  Nothing keeps the first two apart (`countP_primary_le_one_iff`), and the last one is on a
single column only if no other column is unique (`exists_key_iff`).
-/

namespace SqlBuilder

/-! ## Items -/

/-- The kinds of keys. -/
inductive KeyKind where
  | primary
  | unique
deriving DecidableEq

namespace KeyKind

/-- The keyword that declares a key. -/
def keyword : KeyKind → String
  | primary => "PRIMARY KEY"
  | unique => "UNIQUE"

/-- The kinds whose keyword is in a text. -/
def declaredIn (s : String) : List KeyKind :=
  [primary, unique].filter fun kind => kind.keyword.toList <:+: s.toList

end KeyKind

/-- A key of a table: no two rows have the same values in all of its columns, which are named as
they are written. -/
structure TableKey where
  kind : KeyKind
  columns : List String
deriving DecidableEq

/-- An item of a created table. -/
inductive TableItem where
  /-- A column with its type and the constraint after the type. -/
  | column (name type constraint : String)
  | key (key : TableKey)

namespace TableItem

/-- An item as it is written. -/
def text : TableItem → String
  | column name type constraint => "    " ++ name ++ " " ++ type ++ " " ++ constraint
  | key k => "    " ++ k.kind.keyword ++ " (" ++ String.intercalate ", " k.columns ++ ")"

/-- The keys that an item declares.  A keyword in the constraint of a column declares a key on this
column alone. -/
def keys : TableItem → List TableKey
  | column name _ constraint => (KeyKind.declaredIn constraint).map fun kind => ⟨kind, [name]⟩
  | key k => [k]

end TableItem

/-! ## Definitions of tables -/

/-- What follows the type of a column. -/
def columnConstraint (d : Dialect) (c : TableColumn) : String :=
  if c.identity then d.identityKeyword else if c.nullable then "NULL" else "NOT NULL"

/-- The item of a column. -/
def columnItem (d : Dialect) (c : TableColumn) : TableItem :=
  .column (d.quoteIdentifier c.name) (d.typeName c.type) (columnConstraint d c)

/-- The key on all of the columns, if there are any. -/
def keyOn (d : Dialect) (kind : KeyKind) (columns : List TableColumn) : List TableKey :=
  if columns.isEmpty then [] else [⟨kind, columns.map fun c => d.quoteIdentifier c.name⟩]

/-- The items that columns come to. -/
def tableDefinition (d : Dialect) (columns : List TableColumn) : List TableItem :=
  columns.map (columnItem d) ++
    (keyOn d .primary (columns.filter (needsPrimaryKey d))).map .key ++
    (keyOn d .unique (columns.filter (·.unique))).map .key

section

variable (d : Dialect) (columns : List TableColumn)

theorem text_columnItem (c : TableColumn) : (columnItem d c).text = columnLine d c := by
  have hconstraint : " " ++ columnConstraint d c =
      if c.identity then " " ++ d.identityKeyword
      else if c.nullable then " NULL"
      else " NOT NULL" := by
    unfold columnConstraint
    split
    · rfl
    · split <;> rfl
  rw [columnItem, TableItem.text, columnLine, ← hconstraint, String.append_assoc]

theorem text_keyOn (kind : KeyKind) :
    (keyOn d kind columns).map (fun k => (TableItem.key k).text) =
      keyLine d kind.keyword columns := by
  unfold keyOn keyLine
  split
  · rfl
  · rfl

/-- The items of a definition are what is written. -/
theorem text_tableDefinition :
    (tableDefinition d columns).map TableItem.text = tableItems d columns := by
  simp only [tableDefinition, tableItems, List.map_append, List.map_map]
  refine congrArg₂ _ (congrArg₂ _ ?_ (text_keyOn d _ .primary)) (text_keyOn d _ .unique)
  exact List.map_congr_left fun c _ => text_columnItem d c

/-! ## Keys -/

/-- The keys that a created table has. -/
def tableKeys : List TableKey :=
  (tableDefinition d columns).flatMap TableItem.keys

/-- A dialect that calls its numbered columns primary keys says so after their type. -/
theorem declaredIn_identityKeyword :
    KeyKind.declaredIn d.identityKeyword = if d.identityIsPrimaryKey then [.primary] else [] := by
  cases d <;> decide +kernel

/-- No other constraint of a column declares a key. -/
theorem declaredIn_columnConstraint (c : TableColumn) :
    KeyKind.declaredIn (columnConstraint d c) =
      if c.identity && d.identityIsPrimaryKey then [.primary] else [] := by
  rw [columnConstraint, apply_ite KeyKind.declaredIn, declaredIn_identityKeyword]
  cases c.identity with
  | true => rw [if_pos rfl, Bool.true_and]
  | false =>
    rw [if_neg Bool.false_ne_true, Bool.false_and, if_neg Bool.false_ne_true]
    cases c.nullable <;> decide +kernel

theorem keys_columnItem (c : TableColumn) :
    (columnItem d c).keys =
      if c.identity && d.identityIsPrimaryKey then
        [⟨.primary, [d.quoteIdentifier c.name]⟩]
      else
        [] := by
  rw [columnItem, TableItem.keys, declaredIn_columnConstraint]
  split <;> rfl

/-- The keys that the flags of the columns come to. -/
theorem tableKeys_eq :
    tableKeys d columns =
      (columns.filter fun c => c.identity && d.identityIsPrimaryKey).map
          (fun c => ⟨.primary, [d.quoteIdentifier c.name]⟩) ++
        keyOn d .primary (columns.filter (needsPrimaryKey d)) ++
        keyOn d .unique (columns.filter (·.unique)) := by
  have hcolumns : (columns.map (columnItem d)).flatMap TableItem.keys =
      (columns.filter fun c => c.identity && d.identityIsPrimaryKey).map
        fun c => ⟨.primary, [d.quoteIdentifier c.name]⟩ := by
    induction columns with
    | nil => rfl
    | cons c columns ih =>
      rw [List.map_cons, List.flatMap_cons, keys_columnItem, ih, List.filter_cons]
      split <;> rfl
  have hkeys (keys : List TableKey) : (keys.map .key).flatMap TableItem.keys = keys := by
    rw [List.flatMap_map]
    exact List.flatMap_singleton' keys
  rw [tableKeys, tableDefinition, List.flatMap_append, List.flatMap_append, hcolumns, hkeys, hkeys]

variable {d columns}

theorem mem_keyOn {kind : KeyKind} {k : TableKey} :
    k ∈ keyOn d kind columns ↔
      columns ≠ [] ∧ k = ⟨kind, columns.map fun c => d.quoteIdentifier c.name⟩ := by
  cases columns <;> simp [keyOn]

/-- How many primary keys the columns come to. -/
theorem countP_primary :
    (tableKeys d columns).countP (·.kind = .primary) =
      (columns.filter fun c => c.identity && d.identityIsPrimaryKey).length +
        if columns.filter (needsPrimaryKey d) = [] then 0 else 1 := by
  have hnumbered (numbered : List TableColumn) :
      (numbered.map fun c => TableKey.mk .primary [d.quoteIdentifier c.name]).countP
        (·.kind = .primary) = numbered.length := by
    rw [List.countP_map]
    exact List.countP_eq_length.mpr fun _ _ => rfl
  have hprimary (keyed : List TableColumn) :
      (keyOn d .primary keyed).countP (·.kind = .primary) = if keyed = [] then 0 else 1 := by
    cases keyed <;> rfl
  have hunique (keyed : List TableColumn) :
      (keyOn d .unique keyed).countP (·.kind = .primary) = 0 := by
    cases keyed <;> rfl
  rw [tableKeys_eq, List.countP_append, List.countP_append, hnumbered, hprimary, hunique,
    Nat.add_zero]

/-- A table has more than one primary key just if one column is made a primary key for being
numbered and another one by its own flag. -/
theorem countP_primary_le_one_iff (hidentity : (columns.filter (·.identity)).length ≤ 1) :
    (tableKeys d columns).countP (·.kind = .primary) ≤ 1 ↔
      ¬(d.identityIsPrimaryKey ∧ (∃ c ∈ columns, c.identity) ∧
        ∃ c ∈ columns, c.primaryKey ∧ ¬c.identity) := by
  rw [countP_primary]
  cases hd : d.identityIsPrimaryKey with
  | false =>
    simp only [Bool.and_false, List.filter_false, List.length_nil, Bool.false_eq_true, false_and,
      not_false_iff, iff_true]
    split <;> omega
  | true =>
    have hneeds : columns.filter (needsPrimaryKey d) = [] ↔
        ¬∃ c ∈ columns, c.primaryKey ∧ ¬c.identity := by
      simp [needsPrimaryKey, hd]
    have hnumbered : (columns.filter (·.identity)).length = 0 ↔ ¬∃ c ∈ columns, c.identity := by
      simp
    simp only [Bool.and_true, true_and, not_and_or]
    rw [← hneeds, ← hnumbered]
    split
    case isTrue hnone => exact iff_of_true hidentity (.inr hnone)
    case isFalse hsome =>
      rw [or_iff_left hsome]
      omega

/-- The only UNIQUE of a table is on all of its unique columns. -/
theorem unique_mem_tableKeys {names : List String} :
    ⟨.unique, names⟩ ∈ tableKeys d columns ↔
      columns.filter (·.unique) ≠ [] ∧
        names = (columns.filter (·.unique)).map fun c => d.quoteIdentifier c.name := by
  simp [tableKeys_eq, mem_keyOn]

/-- A unique column has a key of its own just if it is the only unique one, or is a primary key by
itself. -/
theorem exists_key_iff {c : TableColumn} (hc : c ∈ columns) (hunique : c.unique) :
    (∃ k ∈ tableKeys d columns, k.columns = [d.quoteIdentifier c.name]) ↔
      (columns.filter (·.unique)).length = 1 ∨
        ⟨.primary, [d.quoteIdentifier c.name]⟩ ∈ tableKeys d columns := by
  have hmem : c ∈ columns.filter (·.unique) := List.mem_filter.mpr ⟨hc, hunique⟩
  constructor
  · rintro ⟨⟨kind, names⟩, hk, rfl : names = _⟩
    cases kind with
    | primary => exact .inr hk
    | unique =>
      obtain ⟨-, hnames⟩ := unique_mem_tableKeys.mp hk
      exact .inl (by simpa using (congrArg List.length hnames).symm)
  · rintro (hone | hprimary)
    · obtain ⟨c', hc'⟩ := List.length_eq_one_iff.mp hone
      obtain rfl : c = c' := by simpa [hc'] using hmem
      refine ⟨⟨.unique, [d.quoteIdentifier c.name]⟩, ?_, rfl⟩
      rw [unique_mem_tableKeys, hc']
      exact ⟨List.cons_ne_nil _ _, rfl⟩
    · exact ⟨_, hprimary, rfl⟩

end

/-! ## Statements -/

/-- A query that creates a table compiles to its definition, as long as the names in it, and the
types that are spelled out, have no question marks. -/
theorem rawSql_of_renderCreateTable {t : Target} (ht : t.PlainPrefix) {q : Query}
    {name sql : String} (herror : q.error = none)
    (hmethod : (q.sections t).method = .createTable)
    (hsource : (q.sections t).source = some (.table name)) (hname : Plain name)
    (hcolumns : ∀ c ∈ (q.sections t).tableColumns, c.Plain)
    (hcreate : (renderCreateTable t {} (q.sections t)).toOption = some sql) :
    (compile t q).toOption.map (·.rawSql) = some sql := by
  have hsql : renderCreateTable t {} (q.sections t) = .ok sql := by
    cases hresult : renderCreateTable t {} (q.sections t) with
    | error e => exact absurd (hresult ▸ hcreate) nofun
    | ok created =>
      rw [hresult] at hcreate
      exact congrArg Except.ok (Option.some.inj hcreate)
  have htable : (q.sections t).PlainTable := by
    intro table htable
    obtain rfl : name = table := Source.table.inj (Option.some.inj (hsource.symm.trans htable))
    exact hname
  have hplain : Plain sql := by
    have hyields := renderCreateTable_yields ht {} htable hcolumns
    rwa [hsql] at hyields
  have hrender : renderMethod t {} (q.sections t) = ⟨[], .ok sql⟩ := by
    unfold renderMethod
    rw [hmethod]
    exact congrArg Emit.ofExcept hsql
  obtain ⟨c, hc⟩ := (exists_compile_iff hrender).mpr ⟨herror, countMarks_of_plain hplain⟩
  obtain ⟨-, houtcome, -⟩ := compile_eq_ok hc
  rw [hrender] at houtcome
  rw [hc]
  exact congrArg some (Except.ok.inj houtcome).symm

variable {σ : Type} (t : Target) (env : Env)

/-- **Keys.**  A query with columns, at most one of which is numbered by the database, creates its
table from the definition that the columns come to, whenever its table has a name.  The table has a
primary key on the numbered column if the dialect makes it one, as SQLite does, a primary key on all
other columns that are to be in it, and a UNIQUE on all unique columns.  So it has at most one
primary key just if no column is a primary key for being numbered while another one is to be in a
primary key, and a unique column has a key of its own just if no other column is unique, or if it is
a primary key by itself. -/
theorem renderCreateTable_keys (q : Query)
    (hcolumns : (q.sections t).tableColumns ≠ [])
    (hidentity : ((q.sections t).tableColumns.filter (·.identity)).length ≤ 1) :
    let s := q.sections t
    let d := t.dialect
    let columns := s.tableColumns
    let keys := tableKeys d columns
    renderCreateTable t env s = (tableName t env s).map (fun name =>
      createTableLayout (temporaryWord d s) name
        (String.intercalate ",\n" ((tableDefinition d columns).map TableItem.text))
        (tableExtension d s)) ∧
    keys =
      (columns.filter fun c => c.identity && d.identityIsPrimaryKey).map
          (fun c => ⟨.primary, [d.quoteIdentifier c.name]⟩) ++
        keyOn d .primary (columns.filter (needsPrimaryKey d)) ++
        keyOn d .unique (columns.filter (·.unique)) ∧
    (keys.countP (·.kind = .primary) ≤ 1 ↔
      ¬(d.identityIsPrimaryKey ∧ (∃ c ∈ columns, c.identity) ∧
        ∃ c ∈ columns, c.primaryKey ∧ ¬c.identity)) ∧
    ∀ c ∈ columns, c.unique →
      ((∃ k ∈ keys, k.columns = [d.quoteIdentifier c.name]) ↔
        (columns.filter (·.unique)).length = 1 ∨
          ⟨.primary, [d.quoteIdentifier c.name]⟩ ∈ keys) := by
  intro s d columns keys
  refine ⟨?_, tableKeys_eq d columns, countP_primary_le_one_iff hidentity, fun c hc =>
    exists_key_iff hc⟩
  have hnonempty : ¬columns.isEmpty := fun hnil => hcolumns (List.isEmpty_iff.mp hnil)
  rw [renderCreateTable_eq, if_neg hnonempty, if_neg (Nat.not_lt.mpr hidentity),
    text_tableDefinition]
  cases tableName t env s with
  | error e => rfl
  | ok name => rfl

/-- A table with one primary key, in the line of its column, and with one unique column. -/
theorem renderCreateTable_keys_users :
    let t : Target := { dialect := .sqlite }
    let q : Query := runAll
      [.fromTable "users", .createTable [⟨"id", .bigInt, false, true, false, true⟩,
        ⟨"email", .varchar 255, false, false, true, false⟩]] {}
    let keys := tableKeys t.dialect (q.sections t).tableColumns
    (q.sections t).tableColumns ≠ [] ∧
      ((q.sections t).tableColumns.filter (·.identity)).length ≤ 1 ∧
      keys.countP (·.kind = .primary) ≤ 1 ∧ ∃ k ∈ keys, k.columns = ["\"email\""] := by
  intro t q keys
  have hcolumns : (q.sections t).tableColumns ≠ [] := List.cons_ne_nil _ _
  have hidentity : ((q.sections t).tableColumns.filter (·.identity)).length ≤ 1 := by
    decide +kernel
  obtain ⟨-, -, hprimary, hunique⟩ := renderCreateTable_keys t {} q hcolumns hidentity
  refine ⟨hcolumns, hidentity, hprimary.mpr (by decide +kernel), ?_⟩
  obtain ⟨k, hk, hname⟩ := (hunique ⟨"email", .varchar 255, false, false, true, false⟩
    (by decide +kernel) rfl).mpr (.inl (by decide +kernel))
  exact ⟨k, hk, hname.trans (by decide +kernel)⟩

/-- Flags that do not become the keys they ask for.  SQLite gets a table with two primary keys, and
two columns that are unique come to a table in which only pairs of their values are. -/
theorem not_createTable_keys :
    let create (columns : List TableColumn) : Query :=
      runAll [.fromTable "t", .createTable columns] {}
    let numbered : List TableColumn :=
      [⟨"id", .integer, false, false, false, true⟩, ⟨"code", .text, false, true, false, false⟩]
    let paired : List TableColumn :=
      [⟨"a", .integer, false, false, true, false⟩, ⟨"b", .integer, false, false, true, false⟩]
    ((compile ⟨.sqlite, {}⟩ (create numbered)).toOption.map (·.rawSql) = some
        ("CREATE TABLE \"t\" (\n    \"id\" INTEGER PRIMARY KEY AUTOINCREMENT,\n" ++
          "    \"code\" TEXT NOT NULL,\n    PRIMARY KEY (\"code\")\n)") ∧
      (tableKeys .sqlite numbered).countP (·.kind = .primary) = 2) ∧
    (compile ⟨.generic, {}⟩ (create paired)).toOption.map (·.rawSql) = some
        ("CREATE TABLE \"t\" (\n    \"a\" INTEGER NOT NULL,\n    \"b\" INTEGER NOT NULL,\n" ++
          "    UNIQUE (\"a\", \"b\")\n)") ∧
      ∀ c ∈ paired, c.unique ∧
        ∀ k ∈ tableKeys .generic paired, k.columns ≠ [Dialect.generic.quoteIdentifier c.name] := by
  intro create numbered paired
  -- a whole statement is slow to read back, so only the text of the table is evaluated
  have hbare (d : Dialect) : Target.PlainPrefix ⟨d, {}⟩ := by
    intro p hp
    exact absurd hp (Option.not_mem_none p)
  have hname : Plain "t" := by decide
  have hpair {c c' : TableColumn} (hc : c.Plain) (hc' : c'.Plain) : ∀ x ∈ [c, c'], x.Plain :=
    List.forall_mem_cons.mpr ⟨hc, List.forall_mem_singleton.mpr hc'⟩
  have hnumbered : ∀ c ∈ numbered, c.Plain := hpair ⟨by decide, trivial⟩ ⟨by decide, trivial⟩
  have hpaired : ∀ c ∈ paired, c.Plain := hpair ⟨by decide, trivial⟩ ⟨by decide, trivial⟩
  refine ⟨⟨rawSql_of_renderCreateTable (hbare _) rfl rfl rfl hname hnumbered ?_, by decide +kernel⟩,
    rawSql_of_renderCreateTable (hbare _) rfl rfl rfl hname hpaired ?_, by decide +kernel⟩
  · rw [renderCreateTable_eq]
    decide +kernel
  · rw [renderCreateTable_eq]
    decide +kernel

end SqlBuilder
