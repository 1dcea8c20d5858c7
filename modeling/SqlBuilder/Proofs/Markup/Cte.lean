import SqlBuilder.Proofs.Markup.Select
import SqlBuilder.Render.Cte

/-!
# Common table expressions as markup

The counterparts of the bodies of common table expressions and of the WITH before a statement.  Both
sides keep the same common table expressions of those with one name, since they look at the names
alone (`distinctCtes_marks`), and a body is written alike wherever it lands (`Sections.ctes_marks`).
-/

namespace SqlBuilder

open Markup

variable (t : Target) (env : Env)

/-! ## Bodies with their values in place -/

/-- Rows as a table of values, with the names of its columns. -/
def valuesTableMarkup (columns : List String) (rows : List (List Value)) :
    Except Error Markup := do
  let names := String.intercalate ", " (columns.map t.dialect.quoteIdentifier)
  let rows ← rows.mapM fun row => do
    let list ← env.valueMarkups row
    return "(" ++ list ++ ")"
  return "SELECT " ++ names ++ " FROM (VALUES " ++ Markup.intercalate ", " rows ++ ") " ++
    t.dialect.aliasKeyword ++ "tbl (" ++ names ++ ")"

/-- One row as a select of its cells. -/
def rowSelectMarkup (columns : List String) (row : List Value) : Except Error Markup := do
  let cells ← (row.zip columns).mapM fun (value, column) => do
    let p ← env.valueMarkup value
    return p ++ " " ++ t.dialect.aliasKeyword ++ t.dialect.quoteIdentifier column
  return "SELECT " ++ Markup.intercalate ", " cells ++ dummySource t.dialect

/-- Rows written out, in the style of the dialect. -/
def rowsMarkup (columns : List String) (values : List Value) : Except Error Markup :=
  if columns.isEmpty ∨ values.isEmpty ∨ values.length % columns.length ≠ 0 then
    .error .incompleteRows
  else
    let rows := pieces columns.length values
    match t.dialect.rowsStyle with
    | .valuesTable => valuesTableMarkup t env columns rows
    | .unionAll => do
      let selects ← rows.mapM (rowSelectMarkup t env columns)
      return Markup.intercalate " UNION ALL " selects

/-- The body of a common table expression. -/
def Source.bodyMarkup : Source Marked → Except Error Markup
  | .table name => return "SELECT * FROM " ++ env.wrapTable t name
  | .query sub => sub.select env
  | .raw _ fragment => env.rawMarkup t.dialect fragment
  | .rows _ columns values => rowsMarkup t env columns values

/-- The common table expressions that a source brings along: those of its query, and itself. -/
def Source.markedCtes (s : Source Marked) : List MarkedCte :=
  let inner := match s with
    | .query sub => sub.ctes
    | _ => []
  inner ++ [⟨s.alias?, fun env => s.bodyMarkup t env⟩]

/-- The common table expressions of a statement and of their bodies, the inner ones first. -/
def Sections.markedCtes (s : Sections Marked) : List MarkedCte :=
  s.ctes.flatMap (Source.markedCtes t)

/-- A common table expression with its name. -/
def MarkedCte.markup (c : MarkedCte) : Except Error Markup :=
  match c.aliasName with
  | none => .error .cteWithoutAlias
  | some a => do
    let body ← c.body env
    return t.dialect.quoteIdentifier a ++ " AS (" ++ body ++ ")"

/-- The WITH of a statement, or nothing without common table expressions. -/
def prologueMarkup (cs : List MarkedCte) : Except Error Markup := do
  let parts ← cs.mapM (MarkedCte.markup t env)
  return keywordMarkups "WITH " ", " parts

/-! ## Rendering rows -/

variable {t env} {strict : Prop}

theorem plain_dummySource (d : Dialect) : Plain (dummySource d) := by
  cases d <;> decide

/-- The pieces of a list make up the list. -/
theorem flatten_pieces {α : Type} (width : Nat) (as : List α) :
    (pieces width as).flatten = as := by
  induction as with
  | nil => rfl
  | cons a as ih =>
    rw [pieces]
    cases hpieces : pieces width as with
    | nil =>
      rw [hpieces] at ih
      rw [← ih]
      rfl
    | cons p ps =>
      rw [hpieces] at ih
      dsimp only
      split
      · exact congrArg (a :: ·) ih
      · exact congrArg (a :: ·) ih

/-- Rows written out come to the same on both sides. -/
theorem renderRows_renders (henv : env.Unmarked) {columns : List String}
    (hcolumns : ∀ c ∈ columns, Plain c) {values : List Value} (hvalues : ∀ v ∈ values, v.Unmarked) :
    Emit.Renders (Spells strict) (rowsMarkup t env columns values)
      (renderRows t env columns values) := by
  have hpieces : ∀ row ∈ pieces columns.length values, ∀ v ∈ row, v.Unmarked :=
    fun row hrow v hv => hvalues v (by
      rw [← flatten_pieces columns.length values]
      exact List.mem_flatten.mpr ⟨row, hrow, hv⟩)
  have hnames : Plain (String.intercalate ", " (columns.map t.dialect.quoteIdentifier)) := by
    refine plain_intercalate (by decide) fun name hname => ?_
    obtain ⟨c, hc, rfl⟩ := List.mem_map.mp hname
    exact (hcolumns c hc).quoteIdentifier t.dialect
  have hrow : ∀ row ∈ pieces columns.length values, Emit.Renders (Spells strict)
      (do let list ← env.valueMarkups row; return "(" ++ list ++ ")")
      (do let list ← env.placeholders row; return "(" ++ list ++ ")") := by
    intro row hrow
    refine .map (Env.placeholders_renders strict henv (hpieces row hrow)) fun m s bs hm => ?_
    exact ((spells_divider (by decide)).append hm.toSpells).add (by decide)
  have hselect : ∀ row ∈ pieces columns.length values, Emit.Renders (Spells strict)
      (rowSelectMarkup t env columns row) (renderRowSelect t env columns row) := by
    intro row hrow
    unfold rowSelectMarkup renderRowSelect
    refine .map (.mapM_same (R := Spells strict) fun cell hcell => ?_) fun ms ss bs hms => ?_
    · obtain ⟨value, column⟩ := cell
      obtain ⟨hvalue, hcolumn⟩ := List.of_mem_zip hcell
      refine .map (Env.placeholder_renders strict henv (hpieces row hrow value hvalue))
        fun m p bs hp => ?_
      exact (((hp.toSpells.add (by decide)).add (plain_aliasKeyword t.dialect)).add
        ((hcolumns column hcolumn).quoteIdentifier t.dialect))
    · exact ((spells_divider (by decide)).append (hms.intercalate (by decide))).add
        (plain_dummySource t.dialect)
  unfold rowsMarkup renderRows
  split
  · exact .fail rfl
  · dsimp only
    cases t.dialect.rowsStyle with
    | valuesTable =>
      refine .map (.mapM_same hrow) fun ms ss bs hms => ?_
      have hrows : Spells strict _ _ bs := hms.intercalate (by decide : Divider ", ")
      exact ((((((((spells_text (by decide)).add hnames).divide (by decide)).append hrows).add
        (by decide)).add (plain_aliasKeyword t.dialect)).add (by decide)).add hnames).add
        (by decide)
    | unionAll => exact .map (.mapM_same hselect) fun ms ss bs hms => hms.intercalate (by decide)

/-! ## Rendering bodies -/

/-- The prologue is written alike on both sides when the common table expressions are. -/
theorem renderPrologue_renders (henv : env.Unmarked) {cs : List Cte} {ms : List MarkedCte}
    (h : List.Forall₂ (Cte.Marks strict) cs ms) :
    Emit.Renders (Spells strict) (prologueMarkup t env ms) (renderPrologue t env cs) := by
  have hcte : ∀ {c : Cte} {m : MarkedCte}, c.Marks strict m →
      Emit.Renders (Spells strict) (m.markup t env) (c.render t env) := by
    intro c m hm
    unfold MarkedCte.markup Cte.render
    rw [hm.aliasName]
    cases ha : c.aliasName with
    | none => exact .fail rfl
    | some a =>
      have hname : Plain (t.dialect.quoteIdentifier a) := (hm.plain a ha).quoteIdentifier t.dialect
      refine .map (hm.body env henv) fun body sql bs hbody => ?_
      exact (((spells_text hname).divide (by decide)).append hbody).add (by decide)
  refine .map (.mapM_forall₂ (h.flip.imp fun m c hm => hcte hm)) fun ms ss bs hms => ?_
  exact hms.keywordList (by decide) (by decide)

/-- Both sides keep the same common table expressions of those with one name. -/
theorem distinctCtes_marks {cs : List Cte} {ms : List MarkedCte}
    (h : List.Forall₂ (Cte.Marks strict) cs ms) (names : List String) :
    List.Forall₂ (Cte.Marks strict) (distinctCtes names cs) (distinctCtes names ms) := by
  induction h generalizing names with
  | nil => exact .nil
  | @cons c m cs ms hm _ ih =>
    have halias : Aliased.alias? m = Aliased.alias? c := hm.aliasName
    rw [distinctCtes, distinctCtes, halias]
    cases Aliased.alias? c with
    | none => exact .cons hm (ih names)
    | some a =>
      dsimp only
      split
      · exact ih names
      · exact .cons hm (ih (a :: names))

/-- Both sides have the same names. -/
theorem cteNames_marks {cs : List Cte} {ms : List MarkedCte}
    (h : List.Forall₂ (Cte.Marks strict) cs ms) : cteNames ms = cteNames cs := by
  induction h with
  | nil => rfl
  | @cons c m cs ms hm _ ih =>
    have halias : Aliased.alias? m = Aliased.alias? c := hm.aliasName
    unfold cteNames at ih ⊢
    rw [List.filterMap_cons, List.filterMap_cons, halias, ih]

section Bodies

variable {γ : Type} {u : γ → Prop} {f : γ → Rendered} {g : γ → Marked}

/-- The body of a common table expression is written alike on both sides. -/
theorem Source.renderBody_renders (hsub : ∀ x, u x → (f x).Marks strict (g x))
    (ht : t.PlainPrefix) (henv : env.Unmarked) (s : Source γ) (hs : (s.map u).Unmarked) :
    Emit.Renders (Spells strict) ((s.map g).bodyMarkup t env) ((s.map f).renderBody t env) := by
  cases s with
  | table name =>
    have hname : Plain name := hs
    exact .pure ((spells_text (by decide)).add (hname.wrapTable ht env))
  | query q => exact (hsub q hs).select env henv
  | raw aliasName fragment => exact Env.raw_renders strict henv t.dialect fragment hs.2
  | rows aliasName columns values => exact renderRows_renders henv hs.2.1 hs.2.2

/-- A source has the same plain name on both sides. -/
theorem Source.alias_marks (hsub : ∀ x, u x → (f x).Marks strict (g x)) (s : Source γ)
    (hs : (s.map u).Unmarked) :
    (s.map g).alias? = (s.map f).alias? ∧ ∀ a ∈ (s.map f).alias?, Plain a := by
  cases s with
  | table name =>
    have hname : Plain name := hs
    refine ⟨rfl, fun a ha => ?_⟩
    obtain rfl := Option.some.inj ha
    cases hsplit : Text.splitAlias? name with
    | none => exact hname
    | some parts => exact (hname.splitAlias? hsplit).2
  | query q => exact ⟨(hsub q hs).aliasName, (hsub q hs).plain⟩
  | raw aliasName fragment => exact ⟨rfl, hs.1⟩
  | rows aliasName columns values =>
    refine ⟨rfl, fun a ha => ?_⟩
    obtain rfl := Option.some.inj ha
    exact hs.1

/-- The common table expressions that a source brings along are written alike on both sides. -/
theorem Source.ctes_marks (hsub : ∀ x, u x → (f x).Marks strict (g x)) (ht : t.PlainPrefix)
    (s : Source γ) (hs : (s.map u).Unmarked) :
    List.Forall₂ (Cte.Marks strict) ((s.map f).ctes t) ((s.map g).markedCtes t) := by
  obtain ⟨halias, hplain⟩ := Source.alias_marks hsub s hs
  have hbody : Cte.Marks strict ⟨(s.map f).alias?, fun env => (s.map f).renderBody t env⟩
      ⟨(s.map g).alias?, fun env => (s.map g).bodyMarkup t env⟩ :=
    { aliasName := halias
      plain := hplain
      body := fun env henv => Source.renderBody_renders hsub ht henv s hs }
  cases s with
  | query q => exact List.rel_append (hsub q hs).ctes (.cons hbody .nil)
  | _ => exact .cons hbody .nil

/-- The common table expressions that several sources bring along are written alike on both
sides. -/
theorem Source.allCtes_marks (hsub : ∀ x, u x → (f x).Marks strict (g x)) (ht : t.PlainPrefix)
    (xs : List (Source γ)) (hxs : ∀ x ∈ xs.map (Source.map u), x.Unmarked) :
    List.Forall₂ (Cte.Marks strict) ((xs.map (Source.map f)).flatMap (Source.ctes t))
      ((xs.map (Source.map g)).flatMap (Source.markedCtes t)) := by
  induction xs with
  | nil => exact .nil
  | cons x xs ih =>
    obtain ⟨hx, hxs⟩ := List.forall_mem_cons.mp hxs
    exact List.rel_append (Source.ctes_marks hsub ht x hx) (ih hxs)

/-- The common table expressions of a statement are written alike on both sides. -/
theorem Sections.ctes_marks (hsub : ∀ x, u x → (f x).Marks strict (g x)) (ht : t.PlainPrefix)
    (s : Sections γ) (hs : ∀ x ∈ (s.map u).ctes, x.Unmarked) :
    List.Forall₂ (Cte.Marks strict) ((s.map f).allCtes t) ((s.map g).markedCtes t) :=
  Source.allCtes_marks hsub ht s.ctes hs

end Bodies

end SqlBuilder
