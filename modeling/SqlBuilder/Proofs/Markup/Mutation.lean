import SqlBuilder.Proofs.Markup.Cte
import SqlBuilder.Render.Mutation

/-!
# Mutations as markup

The counterparts of the renderers of inserts, updates and deletes, which are written alike on both
sides (`renderInsert_renders`, `renderUpdate_renders`, `renderDelete_renders`).

An INSERT ALL repeats its target for every row, but binds the values of the target once.  Its markup
keeps them in the first copy, and the later copies have places for values that are bound elsewhere
(`intoMarkups`).  A strict relation asks a target that is repeated to have no values, as a table is
(`Sections.RepeatsTarget`).
-/

namespace SqlBuilder

open Markup

variable (t : Target) (env : Env)

/-! ## Mutations with their values in place -/

/-- The target of a mutation. -/
def targetMarkup (s : Sections Marked) (method : Method) : Except Error Markup :=
  match s.source with
  | some (.table name) => return env.wrapTable t name
  | some (.raw _ fragment) => env.rawMarkup t.dialect fragment
  | _ => .error (.noTable method)

/-- The parts of an INSERT ALL.  The values of the table stand in the first one. -/
def intoMarkups (table : Markup) (columns : String) : List Markup → List Markup
  | [] => []
  | row :: rows =>
    ("INTO " ++ table ++ " (" ++ columns ++ ") VALUES (" ++ row ++ ")") ::
      rows.map fun row =>
        "INTO " ++ table.repeated ++ " (" ++ columns ++ ") VALUES (" ++ row ++ ")"

/-- An insert of several rows, in the style of the dialect. -/
def rowInsertsMarkup (table : Markup) (columns : String) (rows : List (List Value)) :
    Except Error Markup := do
  let lists ← rows.mapM env.valueMarkups
  match t.dialect.multiInsert with
  | .valuesList =>
    return "INSERT INTO " ++ table ++ " (" ++ columns ++ ") VALUES " ++
      Markup.intercalate ", " (lists.map fun row => "(" ++ row ++ ")")
  | .insertAll =>
    return "INSERT ALL " ++ Markup.intercalate " " (intoMarkups table columns lists) ++
      " SELECT 1 FROM " ++ t.dialect.dummyTable?.getD "DUAL"
  | .unionSelect =>
    return "INSERT INTO " ++ table ++ " (" ++ columns ++ ") " ++
      Markup.intercalate " UNION ALL "
        (lists.map fun row => "SELECT " ++ row ++ dummySource t.dialect)

/-- An insert. -/
def insertMarkup (s : Sections Marked) : Except Error Markup := do
  let table ← targetMarkup t env s .insert
  match s.inserts with
  | [] => .error .insertWithoutValues
  | .query columns query :: _ =>
    let select ← query.select env
    return "INSERT INTO " ++ table ++ " (" ++ columnList t.dialect columns ++ ") " ++ select
  | .row columns values returnId :: rest =>
    let insert ← InsertRows.collect? columns (.row columns values returnId :: rest)
    let columns := columnList t.dialect insert.columns
    match insert.rows with
    | [row] =>
      let list ← env.valueMarkups row
      let suffix ← insertSuffix t.dialect insert.returnId
      return "INSERT INTO " ++ table ++ " (" ++ columns ++ ") VALUES (" ++ list ++ ")" ++ suffix
    | rows => rowInsertsMarkup t env table columns rows

/-- What an update assigns. -/
def UpdateClause.markup : UpdateClause → Except Error Markup
  | .set columns values => do
    let parts ← (columns.zip values).mapM fun (column, value) => do
      let p ← env.valueMarkup value
      return t.dialect.wrap column ++ " = " ++ p
    return Markup.intercalate ", " parts
  | .increment column amount => do
    let name := t.dialect.wrap column
    let sign := if amount < 0 then "-" else "+"
    let p ← env.valueMarkup (Value.ofUInt64 (magnitude amount))
    return name ++ " = " ++ name ++ " " ++ sign ++ " " ++ p

/-- An update. -/
def updateMarkup (s : Sections Marked) : Except Error Markup := do
  let table ← targetMarkup t env s .update
  match s.update with
  | none => .error .updateWithoutColumns
  | some update =>
    let assignments ← update.markup t env
    let filters ← filtersMarkup t env s
    return joinMarkups ["UPDATE " ++ table ++ " SET " ++ assignments, filters]

/-- A delete up to its conditions. -/
def deleteHeadMarkup (s : Sections Marked) (table : Markup) : Except Error Markup :=
  if s.hasJoins then do
    let target ← deleteTarget t.dialect s
    let joins ← joinsMarkup t env s
    return "DELETE " ++ target ++ " FROM " ++ table ++ " " ++ joins
  else
    return "DELETE FROM " ++ table

/-- A delete. -/
def deleteMarkup (s : Sections Marked) : Except Error Markup := do
  let table ← targetMarkup t env s .delete
  let head ← deleteHeadMarkup t env s table
  let filters ← filtersMarkup t env s
  return joinMarkups [head, filters]

/-! ## Words without question marks -/

variable {t env}

theorem plain_columnList (d : Dialect) {columns : List String} (h : ∀ c ∈ columns, Plain c) :
    Plain (columnList d columns) := by
  refine plain_intercalate (by decide) fun column hcolumn => ?_
  obtain ⟨c, hc, rfl⟩ := List.mem_map.mp hcolumn
  exact (h c hc).wrap d

theorem insertSuffix_yields (d : Dialect) (returnId : Bool) :
    Emit.Yields Plain (insertSuffix d returnId) := by
  have hok : ∀ {s : String}, Plain s → Emit.Yields Plain (.ok s) := id
  have herror : Emit.Yields Plain (.error (.noLastInsertId d)) := rfl
  cases returnId with
  | false => exact hok (by decide)
  | true => cases d <;> first | exact herror | exact hok (by decide)

/-! ## Inserted rows -/

section Rows

variable {strict : Prop} {σ τ : Type}

/-- The rows of a list of inserts do not depend on the subqueries in it. -/
theorem InsertRows.collect?_map (f : σ → τ) (columns : List String)
    (clauses : List (InsertClause σ)) :
    InsertRows.collect? columns (clauses.map (InsertClause.map f)) =
      InsertRows.collect? columns clauses := by
  induction clauses with
  | nil => rfl
  | cons clause clauses ih =>
    cases clause with
    | query columns' q => rfl
    | row columns' values returnId =>
      rw [List.map_cons, InsertClause.map, InsertRows.collect?, InsertRows.collect?, ih]

/-- The rows that are collected have the values of the inserts, and there is one for each. -/
theorem InsertRows.collect?_yields (d : Dialect) {columns : List String}
    (hcolumns : ∀ c ∈ columns, Plain c) (u : σ → Prop) (clauses : List (InsertClause σ))
    (h : ∀ c ∈ clauses.map (InsertClause.map u), c.Unmarked) :
    Emit.Yields
      (fun insert => Plain (columnList d insert.columns) ∧ insert.rows.length = clauses.length ∧
        ∀ row ∈ insert.rows, ∀ v ∈ row, v.Unmarked)
      (InsertRows.collect? columns clauses) := by
  have hlist : Plain (columnList d columns) := plain_columnList d hcolumns
  induction clauses with
  | nil => exact ⟨hlist, rfl, by simp⟩
  | cons clause clauses ih =>
    obtain ⟨hclause, hclauses⟩ := List.forall_mem_cons.mp h
    cases clause with
    | query columns' q => exact rfl
    | row columns' values returnId =>
      have hrest := ih hclauses
      rw [InsertRows.collect?]
      split
      · cases hcollect : InsertRows.collect? columns clauses with
        | error e =>
          rw [hcollect] at hrest
          exact hrest
        | ok insert =>
          rw [hcollect] at hrest
          obtain ⟨-, hlength, hrows⟩ := hrest
          refine ⟨hlist, congrArg (· + 1) hlength, ?_⟩
          exact List.forall_mem_cons.mpr ⟨hclause.2, hrows⟩
      · exact rfl

variable {table : Markup} {sql : String} {bs cs : List Value}

/-- A part of an INSERT ALL has the values of its table before those of its row. -/
theorem into_spells (htable : Spells strict table sql bs) {columns : String}
    (hcolumns : Plain columns) {m : Markup} {row : String} (hm : SpellsClosed strict m row cs) :
    Spells strict ("INTO " ++ table ++ " (" ++ columns ++ ") VALUES (" ++ m ++ ")")
      ("INTO " ++ sql ++ " (" ++ columns ++ ") VALUES (" ++ row ++ ")") (bs ++ cs) :=
  ((((((spells_divider (by decide)).append htable).add (by decide)).add hcolumns).divide
    (by decide)).append hm.toSpells).add (by decide)

/-- The parts of an INSERT ALL have the values of the table in the first one. -/
theorem intoMarkups_spells (htable : Spells strict table sql bs) (hdirect : strict → bs = [])
    {columns : String} (hcolumns : Plain columns) {ms : List Markup} {ss : List String}
    (h : Sequence (SpellsClosed strict) ms ss cs) (hne : ss ≠ []) :
    Sequence (Spells strict) (intoMarkups table columns ms)
      (ss.map fun row => "INTO " ++ sql ++ " (" ++ columns ++ ") VALUES (" ++ row ++ ")")
      (bs ++ cs) := by
  cases h with
  | nil => exact absurd rfl hne
  | cons hm hms =>
    rw [← List.append_assoc]
    refine .cons (into_spells htable hcolumns hm) (hms.map fun m s ws hm => ?_)
    exact into_spells (htable.repeat hdirect) hcolumns hm

/-- The parts of an INSERT ALL have places for the values of the table in each of them. -/
theorem intoTexts_count (htable : Spells True table sql bs) {columns : String}
    (hcolumns : Plain columns) {ms : List Markup} {ss : List String}
    (h : Sequence (SpellsClosed True) ms ss cs) :
    ∃ ns vs, vs.length = ss.length * bs.length + cs.length ∧
      Sequence (Spells True) ns
        (ss.map fun row => "INTO " ++ sql ++ " (" ++ columns ++ ") VALUES (" ++ row ++ ")") vs := by
  induction h with
  | nil => exact ⟨[], [], by simp, .nil⟩
  | cons hm _ ih =>
    obtain ⟨ns, vs, hlength, hns⟩ := ih
    refine ⟨_, _, ?_, .cons (into_spells htable hcolumns hm) hns⟩
    simp only [List.length_append, List.length_cons, Nat.add_mul, hlength]
    omega

/-- The lists of values of rows, one for each row. -/
theorem rowLists_renders (strict : Prop) (henv : env.Unmarked) {rows : List (List Value)}
    (hrows : ∀ row ∈ rows, ∀ v ∈ row, v.Unmarked) :
    Emit.Renders
      (fun ms ss cs => Sequence (SpellsClosed strict) ms ss cs ∧ ss.length = rows.length)
      (rows.mapM env.valueMarkups) (rows.mapM env.placeholders) :=
  .mapM_length fun row hrow => Env.placeholders_renders strict henv (hrows row hrow)

/-- An insert of several rows is written alike on both sides. -/
theorem renderRowInserts_renders (henv : env.Unmarked) (htable : Spells strict table sql bs)
    (hdirect : strict → t.dialect.multiInsert = .insertAll → bs = []) {columns : String}
    (hcolumns : Plain columns) {rows : List (List Value)}
    (hrows : ∀ row ∈ rows, ∀ v ∈ row, v.Unmarked) (hne : rows ≠ []) :
    Emit.Renders (fun m s cs => Spells strict m s (bs ++ cs))
      (rowInsertsMarkup t env table columns rows) (renderRowInserts t env sql columns rows) := by
  have hinsert : ∀ {opening : String}, Divider opening →
      SpellsClosed strict ("INSERT INTO " ++ table ++ " (" ++ columns ++ opening)
        ("INSERT INTO " ++ sql ++ " (" ++ columns ++ opening) bs := fun hopening =>
    ((((spells_divider (by decide)).append htable).add (by decide)).add hcolumns).divide hopening
  refine .bind (rowLists_renders strict henv hrows) fun ms ss cs hms => ?_
  obtain ⟨hms, hlength⟩ := hms
  dsimp only
  cases hstyle : t.dialect.multiInsert with
  | valuesList =>
    have hvalues : Sequence (Spells strict) (ms.map fun row => "(" ++ row ++ ")")
        (ss.map fun row => "(" ++ row ++ ")") cs :=
      hms.map fun m s vs hm => ((spells_divider (by decide)).append hm.toSpells).add (by decide)
    refine .pure ?_
    rw [List.append_nil]
    exact (hinsert (by decide)).append (hvalues.intercalate (by decide))
  | insertAll =>
    have hss : ss ≠ [] := by
      intro hss
      rw [hss] at hlength
      exact hne (List.length_eq_zero_iff.mp hlength.symm)
    have hinto : Spells strict _ _ (bs ++ cs) :=
      (intoMarkups_spells htable (hdirect · hstyle) hcolumns hms hss).intercalate (by decide : Divider " ")
    have hdummy : Plain (t.dialect.dummyTable?.getD "DUAL") := by
      cases t.dialect <;> decide
    refine .pure ?_
    rw [List.append_nil]
    exact (((spells_divider (by decide)).append hinto).add (by decide)).add hdummy
  | unionSelect =>
    have hselects : Sequence (Spells strict)
        (ms.map fun row => "SELECT " ++ row ++ dummySource t.dialect)
        (ss.map fun row => "SELECT " ++ row ++ dummySource t.dialect) cs :=
      hms.map fun m s vs hm =>
        ((spells_divider (by decide)).append hm.toSpells).add (plain_dummySource t.dialect)
    refine .pure ?_
    rw [List.append_nil]
    exact (hinsert (by decide)).append (hselects.intercalate (by decide))

/-- An INSERT ALL has a placeholder for each value of its table in every row. -/
theorem renderRowInserts_count (henv : env.Unmarked) (htable : Spells True table sql bs)
    (hstyle : t.dialect.multiInsert = .insertAll) {columns : String} (hcolumns : Plain columns)
    {rows : List (List Value)} (hrows : ∀ row ∈ rows, ∀ v ∈ row, v.Unmarked) :
    Emit.Renders (fun _ s cs => countMarks s = rows.length * bs.length + cs.length)
      (rowInsertsMarkup t env table columns rows) (renderRowInserts t env sql columns rows) := by
  have hdummy : Plain (t.dialect.dummyTable?.getD "DUAL") := by
    cases t.dialect <;> decide
  unfold rowInsertsMarkup renderRowInserts
  refine .bind (rowLists_renders True henv hrows) fun ms ss cs hms => ?_
  obtain ⟨hms, hlength⟩ := hms
  obtain ⟨ns, vs, hvs, hns⟩ := intoTexts_count htable hcolumns hms
  have hinto := hns.intercalate (by decide : Divider " ")
  have hinsert : SpellsClosed True (ofString "INSERT ALL ") "INSERT ALL " [] :=
    spells_divider (by decide)
  have htext := ((hinsert.append hinto).add (by decide : Plain " SELECT 1 FROM ")).add hdummy
  have hcount := htext.countMarks_eq
  dsimp only
  rw [hstyle]
  refine .pure ?_
  rw [List.append_nil, hcount, List.nil_append, hvs, hlength]

end Rows

/-! ## Rendering mutations -/

section Rendering

variable {strict : Prop} {γ : Type} {u : γ → Prop} {f : γ → Rendered} {g : γ → Marked}

/-- Does an insert write its target once for each of several rows? -/
def Sections.RepeatsTarget {σ : Type} (d : Dialect) (s : Sections σ) : Prop :=
  d.multiInsert = .insertAll ∧ ∃ columns values returnId clause rest,
    s.inserts = .row columns values returnId :: clause :: rest

/-- The target of a mutation is written alike on both sides. -/
theorem renderTarget_renders (ht : t.PlainPrefix) (henv : env.Unmarked) (s : Sections γ)
    (hs : (s.map u).Unmarked strict) (method : Method) :
    Emit.Renders (Spells strict) (targetMarkup t env (s.map g) method)
      (renderTarget t env (s.map f) method) := by
  unfold targetMarkup renderTarget
  simp only [Sections.map]
  cases hsource : s.source with
  | none => exact .fail rfl
  | some source =>
    have hmap : (s.map u).source = some (source.map u) := congrArg (Option.map _) hsource
    have hunmarked : (source.map u).Unmarked := hs.source _ hmap
    cases source with
    | table name =>
      have hname : Plain name := hunmarked
      exact .pure (spells_text (hname.wrapTable ht env))
    | raw aliasName fragment => exact Env.raw_renders strict henv t.dialect fragment hunmarked.2
    | query q => exact .fail rfl
    | rows aliasName columns values => exact .fail rfl

/-- A table has no values. -/
theorem renderTarget_bindings {s : Sections γ} {name : String}
    (hsource : s.source = some (.table name)) (method : Method) :
    (renderTarget t env (s.map f) method).bindings = [] := by
  have hmap : (s.map f).source = some (.table name) := congrArg (Option.map _) hsource
  rw [renderTarget, hmap]
  rfl

/-- An insert is written alike on both sides.  A strict relation asks a target that is repeated to
have no values. -/
theorem renderInsert_renders (hsub : ∀ x, u x → (f x).Marks strict (g x)) (ht : t.PlainPrefix)
    (henv : env.Unmarked) (s : Sections γ) (hs : (s.map u).Unmarked strict)
    (hrepeat : strict → s.RepeatsTarget t.dialect →
      (renderTarget t env (s.map f) .insert).bindings = []) :
    Emit.Renders (Spells strict) (insertMarkup t env (s.map g))
      (renderInsert t env (s.map f)) := by
  unfold insertMarkup renderInsert
  refine .bind (renderTarget_renders ht henv s hs .insert).self fun table sql bs htarget => ?_
  obtain ⟨htarget, hbs⟩ := htarget
  rw [← hbs] at hrepeat
  have hinsert : ∀ {columns opening : String}, Plain columns → Divider opening →
      SpellsClosed strict ("INSERT INTO " ++ table ++ " (" ++ columns ++ opening)
        ("INSERT INTO " ++ sql ++ " (" ++ columns ++ opening) bs := fun hcolumns hopening =>
    ((((spells_divider (by decide)).append htarget).add (by decide)).add hcolumns).divide hopening
  simp only [Sections.map]
  cases hclauses : s.inserts with
  | nil => exact .fail rfl
  | cons clause rest =>
    have hunmarked : ∀ c ∈ (clause :: rest).map (InsertClause.map u), c.Unmarked := by
      rw [← hclauses]
      exact hs.inserts
    obtain ⟨hclause, -⟩ := List.forall_mem_cons.mp hunmarked
    cases clause with
    | query columns q =>
      obtain ⟨hcolumns, hq⟩ := hclause
      refine .map ((hsub q hq).select env henv) fun m select cs hm => ?_
      exact (hinsert (plain_columnList t.dialect hcolumns) (by decide)).append hm
    | row columns values returnId =>
      have hcollect := InsertRows.collect?_yields t.dialect hclause.1 u _ hunmarked
      have hmarked := InsertRows.collect?_map g columns (.row columns values returnId :: rest)
      have hrendered := InsertRows.collect?_map f columns (.row columns values returnId :: rest)
      simp only [List.map_cons, InsertClause.map] at hmarked hrendered ⊢
      rw [hmarked, hrendered]
      refine .bind (.ofExcept hcollect) fun insert _ _ hrows => ?_
      obtain ⟨rfl, ⟨hlist, hlength, hrows⟩, rfl⟩ := hrows
      cases hinserted : insert.rows with
      | nil => simp [hinserted] at hlength
      | cons row rows =>
        rw [hinserted] at hrows hlength
        cases rows with
        | nil =>
          have hvalues : ∀ v ∈ row, v.Unmarked := hrows row (by simp)
          refine .bind (Env.placeholders_renders strict henv hvalues) fun m s cs hm => ?_
          refine .map (.ofExcept (insertSuffix_yields t.dialect insert.returnId))
            fun suffix _ _ hsuffix => ?_
          obtain ⟨rfl, hsuffix, rfl⟩ := hsuffix
          rw [List.nil_append, List.append_nil]
          exact (((hinsert hlist (by decide)).append hm.toSpells).add (by decide)).add hsuffix
        | cons row' rows =>
          have hdirect : strict → t.dialect.multiInsert = .insertAll → bs = [] := by
            intro hstrict hstyle
            cases rest with
            | nil => simp at hlength
            | cons clause rest =>
              exact hrepeat hstrict ⟨hstyle, columns, values, returnId, clause, rest, hclauses⟩
          exact renderRowInserts_renders henv htarget hdirect hlist hrows (List.cons_ne_nil _ _)

/-- An insert has a placeholder for each value just when it does not repeat the values of its
target. -/
theorem renderInsert_count (hsub : ∀ x, u x → (f x).Marks True (g x)) (ht : t.PlainPrefix)
    (henv : env.Unmarked) (s : Sections γ) (hs : (s.map u).Unmarked True) :
    Emit.Renders
      (fun _ sql cs => countMarks sql = cs.length ↔
        (s.RepeatsTarget t.dialect → (renderTarget t env (s.map f) .insert).bindings = []))
      (insertMarkup t env (s.map g)) (renderInsert t env (s.map f)) := by
  by_cases hbalanced :
      s.RepeatsTarget t.dialect → (renderTarget t env (s.map f) .insert).bindings = []
  · refine (renderInsert_renders hsub ht henv s hs fun _ => hbalanced).mono fun m sql cs hm => ?_
    exact iff_of_true hm.countMarks_eq hbalanced
  · obtain ⟨⟨hstyle, columns, values, returnId, clause, rest, hclauses⟩, hvalues⟩ :=
      Classical.not_imp.mp hbalanced
    refine .mono (R := fun _ sql cs => countMarks sql ≠ cs.length) ?_ fun m sql cs hne =>
      iff_of_false hne hbalanced
    unfold insertMarkup renderInsert
    refine .bind (renderTarget_renders ht henv s hs .insert).self fun table sql bs htarget => ?_
    obtain ⟨htarget, hbs⟩ := htarget
    rw [← hbs] at hvalues
    have hunmarked : ∀ c ∈ (InsertClause.row columns values returnId :: clause :: rest).map
        (InsertClause.map u), c.Unmarked := by
      rw [← hclauses]
      exact hs.inserts
    have hcollect := InsertRows.collect?_yields t.dialect
      (List.forall_mem_cons.mp hunmarked).1.1 u _ hunmarked
    have hmarked :=
      InsertRows.collect?_map g columns (.row columns values returnId :: clause :: rest)
    have hrendered :=
      InsertRows.collect?_map f columns (.row columns values returnId :: clause :: rest)
    simp only [Sections.map, hclauses]
    simp only [List.map_cons, InsertClause.map] at hmarked hrendered ⊢
    rw [hmarked, hrendered]
    refine .bind (.ofExcept hcollect) fun insert _ _ hrows => ?_
    obtain ⟨rfl, ⟨hlist, hlength, hrows⟩, rfl⟩ := hrows
    cases hinserted : insert.rows with
    | nil => simp [hinserted] at hlength
    | cons row rows =>
      rw [hinserted] at hrows hlength
      cases rows with
      | nil => simp at hlength
      | cons row' rows =>
        refine (renderRowInserts_count henv htarget hstyle hlist hrows).mono fun m sql cs hm => ?_
        have hpositive : 0 < bs.length := List.length_pos_iff.mpr hvalues
        have hrepeated : 1 * bs.length < (row :: row' :: rows).length * bs.length :=
          Nat.mul_lt_mul_of_pos_right (by simp) hpositive
        rw [hm, List.length_append, List.nil_append]
        omega

theorem unmarked_ofUInt64 (n : UInt64) : (Value.ofUInt64 n).Unmarked := by
  rw [Value.ofUInt64]
  split <;> trivial

/-- What an update assigns is written alike on both sides. -/
theorem UpdateClause.renders (strict : Prop) (henv : env.Unmarked) {update : UpdateClause}
    (h : update.Unmarked) :
    Emit.Renders (Spells strict) (update.markup t env) (update.render t env) := by
  cases update with
  | set columns values =>
    obtain ⟨hcolumns, hvalues⟩ := h
    unfold UpdateClause.markup UpdateClause.render
    refine .map (.mapM_same (R := Spells strict) fun cell hcell => ?_)
      fun ms ss bs hms => hms.intercalate (by decide)
    obtain ⟨column, value⟩ := cell
    obtain ⟨hcolumn, hvalue⟩ := List.of_mem_zip hcell
    refine .map (Env.placeholder_renders strict henv (hvalues value hvalue)) fun m p bs hp => ?_
    exact ((spells_text ((hcolumns column hcolumn).wrap t.dialect)).divide (by decide)).append
      hp.toSpells
  | increment column amount =>
    have hcolumn : Plain column := h
    have hname : Plain (t.dialect.wrap column) := hcolumn.wrap t.dialect
    have hsign : Plain (if amount < 0 then "-" else "+") := by split <;> decide
    have hvalue := Env.placeholder_renders strict henv (unmarked_ofUInt64 (magnitude amount))
    refine .map hvalue fun m p bs hp => ?_
    exact ((((((spells_text hname).add (by decide)).add hname).add (by decide)).add hsign).divide
      (by decide)).append hp.toSpells

/-- An update is written alike on both sides. -/
theorem renderUpdate_renders (hsub : ∀ x, u x → (f x).Marks strict (g x)) (ht : t.PlainPrefix)
    (henv : env.Unmarked) (s : Sections γ) (hs : (s.map u).Unmarked strict) :
    Emit.Renders (Spells strict) (updateMarkup t env (s.map g))
      (renderUpdate t env (s.map f)) := by
  unfold updateMarkup renderUpdate
  refine .bind (renderTarget_renders ht henv s hs .update) fun table sql bs htarget => ?_
  have hfilters := filters_renders (t := t) hsub henv s hs
  have hupdate : (s.map g).update = s.update ∧ (s.map f).update = s.update := ⟨rfl, rfl⟩
  simp only [hupdate.1, hupdate.2]
  cases hclause : s.update with
  | none => exact .fail rfl
  | some update =>
    have hunmarked : update.Unmarked := hs.update update hclause
    refine .bind (UpdateClause.renders strict henv hunmarked) fun m assignments cs hm => ?_
    refine .map hfilters fun filters filters' ds hwhere => ?_
    have hset : Spells strict ("UPDATE " ++ table ++ " SET " ++ m)
        ("UPDATE " ++ sql ++ " SET " ++ assignments) (bs ++ cs) :=
      (((spells_divider (by decide)).append htarget).divide (by decide)).append hm
    have hparts : Sequence (Spells strict) _ _ _ := .cons hset (.cons hwhere .nil)
    rw [List.append_nil] at hparts
    rw [← List.append_assoc]
    exact hparts.joinSections

/-- What a delete names is the same on both sides. -/
theorem deleteTarget_marks (hsub : ∀ x, u x → (f x).Marks strict (g x)) (d : Dialect)
    (s : Sections γ) (hs : (s.map u).Unmarked strict) :
    deleteTarget d (s.map g) = deleteTarget d (s.map f) ∧
      Emit.Yields Plain (deleteTarget d (s.map f)) := by
  have halias : (s.source.map (Source.map g)).bind Source.alias? =
        (s.source.map (Source.map f)).bind Source.alias? ∧
      ∀ a ∈ (s.source.map (Source.map f)).bind Source.alias?, Plain a := by
    cases hsource : s.source with
    | none => exact ⟨rfl, by simp⟩
    | some source =>
      have hmap : (s.map u).source = some (source.map u) := congrArg (Option.map _) hsource
      exact Source.alias_marks hsub source (hs.source _ hmap)
  unfold deleteTarget
  simp only [Sections.map]
  rw [halias.1]
  refine ⟨rfl, ?_⟩
  cases hname : (s.source.map (Source.map f)).bind Source.alias? with
  | none => exact rfl
  | some a => exact (halias.2 a hname).quoteIdentifier d

/-- A delete up to its conditions is written alike on both sides, after its table. -/
theorem renderDeleteHead_renders (hsub : ∀ x, u x → (f x).Marks strict (g x))
    (ht : t.PlainPrefix) (henv : env.Unmarked) (s : Sections γ) (hs : (s.map u).Unmarked strict)
    {table : Markup} {sql : String} {bs : List Value} (htable : Spells strict table sql bs) :
    Emit.Renders (fun m head cs => Spells strict m head (bs ++ cs))
      (deleteHeadMarkup t env (s.map g) table) (renderDeleteHead t env (s.map f) sql) := by
  have hjoins := joins_renders (t := t) hsub henv s hs ht
  obtain ⟨htarget, hplain⟩ := deleteTarget_marks hsub t.dialect s hs
  unfold deleteHeadMarkup renderDeleteHead
  refine .ite (c := s.hasJoins = true) (fun _ => ?_) fun _ => ?_
  · rw [htarget]
    refine .bind (.ofExcept hplain) fun target _ _ htarget => ?_
    obtain ⟨rfl, htarget, rfl⟩ := htarget
    refine .map hjoins fun m joins cs hm => ?_
    exact ((((((spells_text (by decide)).add htarget).divide (by decide)).append htable).divide
      (by decide)).append hm)
  · refine .pure ?_
    rw [List.append_nil]
    exact (spells_divider (by decide)).append htable

/-- A delete is written alike on both sides. -/
theorem renderDelete_renders (hsub : ∀ x, u x → (f x).Marks strict (g x)) (ht : t.PlainPrefix)
    (henv : env.Unmarked) (s : Sections γ) (hs : (s.map u).Unmarked strict) :
    Emit.Renders (Spells strict) (deleteMarkup t env (s.map g))
      (renderDelete t env (s.map f)) := by
  unfold deleteMarkup renderDelete
  refine .bind (renderTarget_renders ht henv s hs .delete) fun table sql bs htarget => ?_
  have hhead := renderDeleteHead_renders hsub ht henv s hs htarget
  refine .bind hhead fun m head cs hm => ?_
  refine .map (filters_renders hsub henv s hs) fun filters filters' ds hwhere => ?_
  have hparts : Sequence (Spells strict) _ _ _ := .cons hm (.cons hwhere .nil)
  rw [List.append_nil] at hparts
  rw [← List.append_assoc]
  exact hparts.joinSections

end Rendering

end SqlBuilder
