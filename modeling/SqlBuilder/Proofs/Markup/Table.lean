import SqlBuilder.Proofs.Markup.Relation
import SqlBuilder.Proofs.Query.Sections
import SqlBuilder.Proofs.Table.Layout

/-!
# Table definitions have no values

The statements that create, drop and empty tables are texts without placeholders, as long as the
names in them and the types that the user spells out have no question marks
(`renderCreateTable_yields`, `renderDropTable_yields`, `renderTruncateTable_yields`).  They do not
look at subqueries.
-/

namespace SqlBuilder

open Number Text

/-! ## Column types -/

theorem plain_natText (n : Nat) : Plain (natText n) := by
  refine plain_ofList.mpr fun hmark => ?_
  have hdigit : '?'.isDigit = true := Nat.isDigit_of_mem_toDigits (by decide) (by decide) hmark
  exact absurd hdigit (by decide)

theorem plain_applied {name : String} (h : Plain name) (arguments : List Nat) :
    Plain (DataType.applied name arguments) := by
  have hlist : Plain (String.intercalate ", " (arguments.map natText)) := by
    refine plain_intercalate (by decide) fun text htext => ?_
    obtain ⟨n, -, rfl⟩ := List.mem_map.mp htext
    exact plain_natText n
  exact ((h.append (by decide)).append hlist).append (by decide)

/-- The type is one of the portable ones, or its own text has no question mark. -/
def DataType.Plain : DataType → Prop
  | custom name => SqlBuilder.Plain name
  | _ => True

theorem plain_standardName {type : DataType} (h : type.Plain) : Plain type.standardName := by
  cases type
  case custom name => exact h
  case decimal precision scale => exact plain_applied (by decide) _
  case char length => exact plain_applied (by decide) _
  case varchar length => exact plain_applied (by decide) _
  all_goals decide

theorem plain_typeName (d : Dialect) {type : DataType} (h : type.Plain) :
    Plain (d.typeName type) := by
  have hstandard := plain_standardName h
  cases type
  case custom name => cases d <;> exact h
  case decimal precision scale =>
    cases d
    case sqlite => exact (by decide : Plain "NUMERIC")
    case postgres => exact plain_applied (by decide : Plain "NUMERIC") _
    case oracle => exact plain_applied (by decide : Plain "NUMBER") _
    all_goals exact hstandard
  case char length =>
    cases d
    case sqlite => exact (by decide : Plain "TEXT")
    case sqlServer => exact plain_applied (by decide : Plain "NCHAR") _
    all_goals exact hstandard
  case varchar length =>
    cases d
    case sqlite => exact (by decide : Plain "TEXT")
    case sqlServer => exact plain_applied (by decide : Plain "NVARCHAR") _
    case oracle => exact plain_applied (by decide : Plain "VARCHAR2") _
    all_goals exact hstandard
  all_goals cases d <;> decide

/-! ## Lines of a created table -/

/-- The name of the column, and its type if it is spelled out, have no question mark. -/
def TableColumn.Plain (c : TableColumn) : Prop :=
  SqlBuilder.Plain c.name ∧ c.type.Plain

theorem plain_columnLine (d : Dialect) {c : TableColumn} (h : c.Plain) :
    Plain (columnLine d c) := by
  have hindent : Plain "    " := by decide
  have hkeyword : Plain d.identityKeyword := by cases d <;> decide
  have hnull : Plain (if c.identity then " " ++ d.identityKeyword
      else if c.nullable then " NULL" else " NOT NULL") := by
    split
    · exact (by decide : Plain " ").append hkeyword
    · split <;> decide
  exact ((((hindent.append (h.1.quoteIdentifier d)).append (by decide)).append
    (plain_typeName d h.2)).append hnull)

theorem plain_keyLine (d : Dialect) {keyword : String} (hkeyword : Plain keyword)
    {columns : List TableColumn} (h : ∀ c ∈ columns, c.Plain) :
    ∀ line ∈ keyLine d keyword columns, Plain line := by
  have hnames : Plain (String.intercalate ", " (columns.map fun c => d.quoteIdentifier c.name)) := by
    refine plain_intercalate (by decide) fun name hname => ?_
    obtain ⟨c, hc, rfl⟩ := List.mem_map.mp hname
    exact (h c hc).1.quoteIdentifier d
  have hindent : Plain "    " := by decide
  intro line hline
  unfold keyLine at hline
  split at hline
  · exact absurd hline List.not_mem_nil
  · obtain rfl := List.mem_singleton.mp hline
    exact ((((hindent.append hkeyword).append (by decide)).append hnames).append (by decide))

theorem plain_tableItems (d : Dialect) {columns : List TableColumn} (h : ∀ c ∈ columns, c.Plain) :
    ∀ item ∈ tableItems d columns, Plain item := by
  have hfilter : ∀ p : TableColumn → Bool, ∀ c ∈ columns.filter p, c.Plain :=
    fun p c hc => h c (List.mem_of_mem_filter hc)
  intro item hitem
  rcases List.mem_append.mp hitem with hitem | hitem
  · rcases List.mem_append.mp hitem with hitem | hitem
    · obtain ⟨c, hc, rfl⟩ := List.mem_map.mp hitem
      exact plain_columnLine d (h c hc)
    · exact plain_keyLine d (by decide) (hfilter _) item hitem
  · exact plain_keyLine d (by decide) (hfilter _) item hitem

/-! ## Statements -/

variable {σ τ : Type} {t : Target} {strict : Prop}

theorem plain_temporaryWord (d : Dialect) (s : Sections σ) : Plain (temporaryWord d s) := by
  unfold temporaryWord
  split
  · cases d <;> decide
  · decide

theorem plain_tableExtension (d : Dialect) (s : Sections σ) : Plain (tableExtension d s) := by
  have hblank : Plain " " := by decide
  unfold tableExtension
  split
  · cases d <;> cases s.preservesRows <;> decide
  · decide

theorem Plain.temporaryName {name : String} (h : Plain name) (d : Dialect) :
    Plain (d.temporaryName name) := by
  have hsign : Plain "#" := by decide
  cases d
  case sqlServer =>
    rw [Dialect.temporaryName]
    split
    case h_1 schema table hsplit =>
      obtain ⟨hschema, htable⟩ := h.splitLast? hsplit
      exact (hschema.append (by decide)).append htable
    case h_2 => exact hsign.append h
  all_goals exact h

/-- A source is a plain table name, if it is a table. -/
def Sections.PlainTable (s : Sections σ) : Prop :=
  ∀ name, s.source = some (.table name) → Plain name

theorem tableName_yields (ht : t.PlainPrefix) (env : Env) {s : Sections σ} (hs : s.PlainTable) :
    Emit.Yields Plain (tableName t env s) := by
  unfold tableName
  split
  case h_1 table hsource =>
    have hname : Plain (env.prefixed t (Text.trim table)) := (hs table hsource).trim.prefixed ht env
    refine Plain.wrap ?_ t.dialect
    split
    · exact hname.temporaryName t.dialect
    · exact hname
  case h_2 => exact rfl

theorem renderCreateTable_yields (ht : t.PlainPrefix) (env : Env) {s : Sections σ}
    (hs : s.PlainTable) (hcolumns : ∀ c ∈ s.tableColumns, c.Plain) :
    Emit.Yields Plain (renderCreateTable t env s) := by
  have hname := tableName_yields ht env hs
  rw [renderCreateTable_eq]
  split
  · exact rfl
  · split
    · exact rfl
    · cases htable : tableName t env s with
      | error e =>
        rw [htable] at hname
        exact hname
      | ok table =>
        rw [htable] at hname
        have htable : Plain table := hname
        have hitems : Plain (String.intercalate ",\n" (tableItems t.dialect s.tableColumns)) :=
          plain_intercalate (by decide) (plain_tableItems t.dialect hcolumns)
        have hcreate : Plain "CREATE " := by decide
        exact (((((((hcreate.append (plain_temporaryWord t.dialect s)).append (by decide)).append
          htable).append (by decide)).append hitems).append (by decide)).append
          (plain_tableExtension t.dialect s))

theorem renderDropTable_yields (ht : t.PlainPrefix) (env : Env) {s : Sections σ}
    (hs : s.PlainTable) : Emit.Yields Plain (renderDropTable t env s) := by
  have hname := tableName_yields ht env hs
  unfold renderDropTable
  split
  case h_1 table htable =>
    rw [htable] at hname
    have hdrop : Plain "DROP TABLE " := by decide
    exact hdrop.append hname
  case h_2 e herror =>
    rw [herror] at hname
    exact hname

theorem renderTruncateTable_yields (ht : t.PlainPrefix) (env : Env) {s : Sections σ}
    (hs : s.PlainTable) : Emit.Yields Plain (renderTruncateTable t env s) := by
  have hname := tableName_yields ht env hs
  unfold renderTruncateTable
  split
  case h_1 table htable =>
    rw [htable] at hname
    have hdelete : Plain "DELETE FROM " := by decide
    have htruncate : Plain "TRUNCATE TABLE " := by decide
    cases t.dialect
    case sqlite => exact hdelete.append hname
    all_goals exact htruncate.append hname
  case h_2 e herror =>
    rw [herror] at hname
    exact hname

/-! ## Subqueries -/

section Subqueries

variable (t) (f : σ → τ) (env : Env) (s : Sections σ)

theorem tableName_map : tableName t env (s.map f) = tableName t env s := by
  unfold tableName
  simp only [Sections.map]
  cases s.source with
  | none => rfl
  | some source => cases source <;> rfl

theorem renderCreateTable_map : renderCreateTable t env (s.map f) = renderCreateTable t env s := by
  unfold renderCreateTable
  rw [tableName_map]
  rfl

theorem renderDropTable_map : renderDropTable t env (s.map f) = renderDropTable t env s := by
  unfold renderDropTable
  rw [tableName_map]

theorem renderTruncateTable_map :
    renderTruncateTable t env (s.map f) = renderTruncateTable t env s := by
  unfold renderTruncateTable
  rw [tableName_map]

end Subqueries

end SqlBuilder
