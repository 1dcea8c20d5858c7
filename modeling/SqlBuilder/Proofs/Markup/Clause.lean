import SqlBuilder.Proofs.Markup.Condition
import SqlBuilder.Proofs.Markup.Paging
import SqlBuilder.Render.Select

/-!
# Clauses as markup

The counterparts of the renderers of the single clauses of a select: columns, sources, joins, orders
and set operations.  Each is written alike on both sides as soon as its subqueries are
(`Column.renders`, `Source.renders`, `JoinSections.renders`, `OrderBy.renders`, `Combine.renders`).

A cross join is written without its constraints, whose values are bound all the same.  Its markup
keeps them as values that are not written (`Markup.silenced`), which a strict relation rules out.
-/

namespace SqlBuilder

open Markup

variable (t : Target) (env : Env)

/-! ## Clauses with their values in place -/

/-- A function over the rows that fulfil the conditions, if there are any. -/
def filteredCallMarkup (d : Dialect) (function : AggregateFunc) (argument : String)
    (conditions : Markup) : Markup :=
  if List.isEmpty conditions then
    function.text ++ "(" ++ argument ++ ")"
  else if d.hasFilterClause then
    function.text ++ "(" ++ argument ++ ") FILTER (WHERE " ++ conditions ++ ")"
  else
    function.text ++ "(CASE WHEN " ++ conditions ++ " THEN " ++ argument ++ " END)"

/-- The conditions on the rows of an aggregated column. -/
def columnFilterMarkup : Option Marked → Except Error Markup
  | some sub => sub.filter env
  | none => return []

/-- A column with its values in place. -/
def Column.markup : Column Marked → Except Error Markup
  | .named name => return t.dialect.wrap name
  | .raw fragment => env.rawMarkup t.dialect fragment
  | .query sub => do
    let sql ← sub.select env
    return "(" ++ sql ++ ")" ++ aliasSuffix t.dialect sub.aliasName
  | .aggregated function column filter => do
    let (name, aliasName) := columnParts column
    let conditions ← columnFilterMarkup env filter
    return filteredCallMarkup t.dialect function (t.dialect.wrap name) conditions ++
      aliasSuffix t.dialect aliasName

/-- A source of rows with its values in place. -/
def Source.markup (hints : List TableHint) : Source Marked → Except Error Markup
  | .table name => return env.wrapTable t name ++ t.dialect.tableHints hints
  | .query sub => do
    let sql ← sub.select env
    return "(" ++ sql ++ ")" ++ aliasSuffix t.dialect sub.aliasName
  | .raw _ fragment => env.rawMarkup t.dialect fragment
  | .rows aliasName _ _ => .error (.rowsOutsideCte aliasName)

/-- The markup of a join.  The constraints of a cross join are not written. -/
def joinMarkup (kind : JoinKind) (table constraints : Markup) : Markup :=
  if List.isEmpty constraints then
    kind.keyword ++ " " ++ table
  else if kind = .cross then
    kind.keyword ++ " " ++ table ++ constraints.silenced
  else
    kind.keyword ++ " " ++ table ++ " ON " ++ constraints

/-- A join with its values in place. -/
def JoinSections.markup (j : JoinSections Marked) : Except Error Markup :=
  match j.target with
  | none => .error .joinWithoutTable
  | some source => do
    let hints := (if t.options.noLock then [TableHint.noLock] else []) ++
      j.index.toList.map TableHint.index
    let table ← source.markup t env hints
    let constraints ← markupConditions t env j.constraints
    return joinMarkup j.kind table constraints

/-- An order with its values in place. -/
def OrderBy.markup : OrderBy → Except Error Markup
  | .column name ascending =>
    return t.dialect.wrap name ++ (if ascending then "" else " DESC")
  | .random seed => return t.dialect.randomOrder seed
  | .raw fragment => env.rawMarkup t.dialect fragment

/-- A set operation with its values in place. -/
def Combine.markup : Combine Marked → Except Error Markup
  | .query operation all sub => do
    let sql ← sub.select env
    return operation.keyword ++ " " ++ (if all then "ALL " else "") ++ sql
  | .raw fragment => env.rawMarkup t.dialect fragment

/-! ## Words without question marks -/

variable {t env}

theorem plain_aliasSuffix (d : Dialect) {aliasName : Option String}
    (h : ∀ a ∈ aliasName, Plain a) : Plain (aliasSuffix d aliasName) := by
  cases aliasName with
  | none => exact (by decide : Plain "")
  | some a =>
    have hblank : Plain " " := by decide
    have ha : Plain (d.quoteIdentifier a) := (h a rfl).quoteIdentifier d
    exact (hblank.append (plain_aliasKeyword d)).append ha

/-- A column and its alias have their characters from one text. -/
theorem plain_columnParts {column : String} (h : Plain column) :
    Plain (columnParts column).1 ∧ ∀ a ∈ (columnParts column).2, Plain a := by
  unfold columnParts
  split
  case h_1 name aliasName hsplit =>
    obtain ⟨hname, halias⟩ := h.splitAlias? hsplit
    exact ⟨hname, by simpa using halias⟩
  case h_2 => exact ⟨h, by simp⟩

theorem plain_text (f : AggregateFunc) : Plain f.text := by
  cases f <;> decide

theorem plain_resultName (f : AggregateFunc) : Plain f.resultName := by
  cases f <;> decide

theorem plain_aggregateColumn (d : Dialect) (f : AggregateFunc) {column : String}
    (h : Plain column) : Plain (aggregateColumn d f column) := by
  have hopen : Plain (f.text ++ "(") := (plain_text f).append (by decide)
  have hcall : Plain (f.text ++ "(" ++ d.wrap column ++ ") ") :=
    (hopen.append (h.wrap d)).append (by decide)
  exact (hcall.append (plain_aliasKeyword d)).append ((plain_resultName f).quoteIdentifier d)

theorem plain_hintWord (d : Dialect) {hint : TableHint}
    (h : ∀ name, hint = .index name → Plain name) : Plain (d.hintWord hint) := by
  cases hint with
  | noLock => exact (by decide : Plain "NOLOCK")
  | index name =>
    have hopen : Plain "INDEX(" := by decide
    exact (hopen.append ((h name rfl).quoteIdentifier d)).append (by decide)
  | lock mode =>
    cases mode with
    | update => exact (by decide : Plain "UPDLOCK, ROWLOCK")
    | share => exact (by decide : Plain "HOLDLOCK, ROWLOCK")

theorem plain_tableHints (d : Dialect) {hints : List TableHint}
    (h : ∀ name, TableHint.index name ∈ hints → Plain name) : Plain (d.tableHints hints) := by
  have hnone : Plain "" := by decide
  have hwords : ∀ word ∈ hints.map d.hintWord, Plain word := by
    intro word hword
    obtain ⟨hint, hhint, rfl⟩ := List.mem_map.mp hword
    exact plain_hintWord d fun name hname => h name (hname ▸ hhint)
  have huse : ∀ word ∈ (hints.filterMap Dialect.indexOf?).map
      fun name => " USE INDEX (" ++ d.quoteIdentifier name ++ ")", Plain word := by
    intro word hword
    obtain ⟨name, hname, rfl⟩ := List.mem_map.mp hword
    obtain ⟨hint, hhint, hindex⟩ := List.mem_filterMap.mp hname
    have hopen : Plain " USE INDEX (" := by decide
    cases hint <;> simp only [Dialect.indexOf?, reduceCtorEq, Option.some.injEq] at hindex
    subst hindex
    exact (hopen.append ((h _ hhint).quoteIdentifier d)).append (by decide)
  cases d
  case sqlServer =>
    change Plain (if hints.isEmpty then "" else _)
    split
    · exact hnone
    · have hopen : Plain " WITH (" := by decide
      exact (hopen.append (plain_intercalate (by decide) hwords)).append (by decide)
  case mySql => exact plain_join huse
  all_goals exact hnone

theorem plain_randomOrder (d : Dialect) {seed : Option String} (h : ∀ s ∈ seed, Plain s) :
    Plain (d.randomOrder seed) := by
  cases seed with
  | none => cases d <;> decide
  | some s =>
    have hopen : Plain "RAND(" := by decide
    cases d
    case mySql => exact (hopen.append (h s rfl)).append (by decide)
    case sqlServer => exact (by decide : Plain "NEWID()")
    case oracle => exact (by decide : Plain "DBMS_RANDOM.VALUE")
    case firebird => exact (by decide : Plain "RAND()")
    all_goals exact (by decide : Plain "RANDOM()")

theorem plain_joinKeyword (kind : JoinKind) : Plain kind.keyword := by
  cases kind <;> decide

theorem plain_setKeyword (operation : SetOp) : Plain operation.keyword := by
  cases operation <;> decide

/-! ## Rendering clauses -/

section Rendering

variable {strict : Prop} {γ : Type} {u : γ → Prop} {f : γ → Rendered} {g : γ → Marked}

/-- A derived table or a scalar subquery, with its alias. -/
theorem subquery_renders (hsub : ∀ x, u x → (f x).Marks strict (g x)) (henv : env.Unmarked)
    {q : γ} (hq : u q) :
    Emit.Renders (Spells strict)
      (do
        let sql ← (g q).select env
        return "(" ++ sql ++ ")" ++ aliasSuffix t.dialect (g q).aliasName)
      (do
        let sql ← (f q).select env
        return "(" ++ sql ++ ")" ++ aliasSuffix t.dialect (f q).aliasName) := by
  have hmarks : (f q).Marks strict (g q) := hsub q hq
  have halias : Plain (aliasSuffix t.dialect (f q).aliasName) :=
    plain_aliasSuffix t.dialect hmarks.plain
  refine .map (hmarks.select env henv) fun m s bs hm => ?_
  rw [hmarks.aliasName]
  exact (((spells_divider (by decide)).append hm).add (by decide)).add halias

/-- A function over filtered rows is called with the same values in the same places. -/
theorem filteredCall_spells (d : Dialect) (function : AggregateFunc) {argument : String}
    (hargument : Plain argument) {m : Markup} {s : String} {bs : List Value}
    (h : Spells strict m s bs) :
    Spells strict (filteredCallMarkup d function argument m)
      (filteredCall d function argument s) bs := by
  have hfunction : Spells strict (ofString function.text) function.text [] :=
    spells_text (plain_text function)
  unfold filteredCallMarkup filteredCall
  rw [h.isEmpty_eq]
  cases hs : s.isEmpty with
  | true =>
    obtain rfl : s = "" := String.isEmpty_iff.mp hs
    obtain rfl : bs = [] := h.bindings_eq_nil
    exact ((hfunction.add (by decide)).add hargument).add (by decide)
  | false =>
    simp only [Bool.false_eq_true, if_false]
    split
    · exact ((((hfunction.add (by decide)).add hargument).divide (by decide)).append h).add
        (by decide)
    · exact (((((hfunction.divide (by decide)).append h).add (by decide)).add hargument).add
        (by decide))

/-- A column is written alike on both sides when its subqueries are. -/
theorem Column.renders (hsub : ∀ x, u x → (f x).Marks strict (g x)) (henv : env.Unmarked)
    (c : Column γ) (hc : (c.map u).Unmarked) :
    Emit.Renders (Spells strict) ((c.map g).markup t env) ((c.map f).render t env) := by
  cases c with
  | named name =>
    have hname : Plain name := hc
    exact .pure (spells_text (hname.wrap t.dialect))
  | raw fragment => exact Env.raw_renders strict henv t.dialect fragment hc
  | query q => exact subquery_renders hsub henv hc
  | aggregated function column filter =>
    obtain ⟨hcolumn, hfilter⟩ := hc
    obtain ⟨hname, halias⟩ := plain_columnParts hcolumn
    have hconditions : Emit.Renders (Spells strict) (columnFilterMarkup env (filter.map g))
        (renderColumnFilter env (filter.map f)) := by
      cases filter with
      | none => exact .pure spells_nil.toSpells
      | some q => exact (hsub q (hfilter (u q) rfl)).filter env henv
    refine .map hconditions fun m s bs hm => ?_
    exact (filteredCall_spells t.dialect function (hname.wrap t.dialect) hm).add
      (plain_aliasSuffix t.dialect halias)

/-- A source is written alike on both sides when its subquery is. -/
theorem Source.renders (hsub : ∀ x, u x → (f x).Marks strict (g x)) (ht : t.PlainPrefix)
    (henv : env.Unmarked) {hints : List TableHint}
    (hhints : ∀ name, TableHint.index name ∈ hints → Plain name) (s : Source γ)
    (hs : (s.map u).Unmarked) :
    Emit.Renders (Spells strict) ((s.map g).markup t env hints)
      ((s.map f).render t env hints) := by
  cases s with
  | table name =>
    have hname : Plain name := hs
    exact .pure ((spells_text (hname.wrapTable ht env)).add (plain_tableHints t.dialect hhints))
  | query q => exact subquery_renders hsub henv hs
  | raw aliasName fragment => exact Env.raw_renders strict henv t.dialect fragment hs.2
  | rows aliasName columns values => exact .fail rfl

/-- A join up to its constraints. -/
theorem joined_spells (kind : JoinKind) {m : Markup} {s : String} {bs : List Value}
    (h : Spells strict m s bs) :
    Spells strict (kind.keyword ++ " " ++ m) (kind.keyword ++ " " ++ s) bs :=
  ((spells_text (plain_joinKeyword kind)).divide (by decide)).append h

/-- A join with constraints is written with the same values in the same places, unless it is a cross
join, whose constraints are not written. -/
theorem join_spells (kind : JoinKind) {m n : Markup} {s c : String} {bs cs : List Value}
    (h : Spells strict m s bs) (hn : Spells strict n c cs)
    (hcross : strict → kind = .cross → cs = []) :
    Spells strict (joinMarkup kind m n) (joinText kind s c) (bs ++ cs) := by
  have hjoined := joined_spells kind h
  unfold joinMarkup joinText
  rw [hn.isEmpty_eq]
  by_cases hempty : c = ""
  · subst hempty
    obtain rfl : cs = [] := hn.bindings_eq_nil
    rw [List.append_nil]
    exact hjoined
  · have hc : ¬ c.isEmpty := by simpa using hempty
    rw [if_neg hc]
    by_cases hkind : kind = .cross
    · have hne : kind.keyword ++ " " ++ s ≠ "" := by simp
      rw [if_pos hkind, if_pos (Or.inr hkind)]
      exact hjoined.silence hne (hcross · hkind) hn
    · rw [if_neg hkind, if_neg (not_or.mpr ⟨hc, hkind⟩)]
      exact (hjoined.divide (by decide)).append hn

/-- A join comes to what its table and its constraints come to. -/
theorem JoinSections.renders_parts {weak : Prop} {R : Markup → String → List Value → Prop}
    (hsub : ∀ x, u x → (f x).Marks strict (g x)) (ht : t.PlainPrefix) (henv : env.Unmarked)
    (j : JoinSections γ) (hj : (j.map u).Unmarked weak)
    (hR : ∀ {m n s c bs cs}, Spells strict m s bs → Spells strict n c cs →
      cs = (renderConditions t env (j.constraints.map (Condition.map f))).bindings →
        R (joinMarkup j.kind m n) (joinText j.kind s c) (bs ++ cs)) :
    Emit.Renders R ((j.map g).markup t env) ((j.map f).render t env) := by
  obtain ⟨kind, target, constraints, index⟩ := j
  cases target with
  | none => exact .fail rfl
  | some source =>
    have hhints : ∀ name, TableHint.index name ∈
        (if t.options.noLock then [TableHint.noLock] else []) ++
          index.toList.map TableHint.index → Plain name := by
      intro name hname
      rcases List.mem_append.mp hname with hname | hname
      · split at hname <;> simp at hname
      · obtain ⟨name', hindex, hname⟩ := List.mem_map.mp hname
        obtain rfl : name' = name := TableHint.index.inj hname
        exact hj.index name' (Option.mem_toList.mp hindex)
    have htable := Source.renders hsub ht henv hhints source (hj.target _ rfl)
    have hconstraints := renderConditions_renders (t := t) hsub henv constraints hj.constraints
    refine .bind htable fun m s bs hm => ?_
    refine .map hconstraints.self fun n c cs hn => ?_
    exact hR hm hn.1 hn.2

/-- A join is written alike on both sides when its subqueries are. -/
theorem JoinSections.renders (hsub : ∀ x, u x → (f x).Marks strict (g x)) (ht : t.PlainPrefix)
    (henv : env.Unmarked) (j : JoinSections γ) (hj : (j.map u).Unmarked strict) :
    Emit.Renders (Spells strict) ((j.map g).markup t env) ((j.map f).render t env) := by
  refine JoinSections.renders_parts hsub ht henv j hj fun {m n s c bs cs} hm hn hcs => ?_
  refine join_spells j.kind hm hn fun hstrict hkind => ?_
  -- Without constraints there is nothing that a cross join could leave unwritten.
  have hnone : j.constraints = [] := List.map_eq_nil_iff.mp (hj.written hstrict hkind)
  rw [hcs, hnone]
  rfl

/-- A join has a placeholder for each value, but for those of the constraints of a cross join. -/
theorem JoinSections.render_count {weak : Prop} (hsub : ∀ x, u x → (f x).Marks True (g x))
    (ht : t.PlainPrefix) (henv : env.Unmarked) (j : JoinSections γ)
    (hj : (j.map u).Unmarked weak) :
    Emit.Renders
      (fun _ sql bs => countMarks sql + (if j.kind = .cross then
        (renderConditions t env (j.constraints.map (Condition.map f))).bindings.length else 0) =
          bs.length)
      ((j.map g).markup t env) ((j.map f).render t env) := by
  refine JoinSections.renders_parts hsub ht henv j hj fun {m n s c bs cs} hm hn hcs => ?_
  rw [← hcs, List.length_append]
  by_cases hkind : j.kind = .cross
  · have htext : joinText j.kind s c = j.kind.keyword ++ " " ++ s := if_pos (Or.inr hkind)
    rw [htext, (joined_spells j.kind hm).countMarks_eq, if_pos hkind]
  · have hjoin := join_spells j.kind hm hn fun _ h => absurd h hkind
    rw [hjoin.countMarks_eq, if_neg hkind, List.length_append, Nat.add_zero]

/-- An order is written alike on both sides. -/
theorem OrderBy.renders (strict : Prop) (henv : env.Unmarked) (o : OrderBy) (ho : o.Unmarked) :
    Emit.Renders (Spells strict) (o.markup t env) (o.render t env) := by
  cases o with
  | column name ascending =>
    have hname : Plain name := ho
    have hdirection : Plain (if ascending then "" else " DESC") := by
      cases ascending <;> decide
    exact .pure ((spells_text (hname.wrap t.dialect)).add hdirection)
  | random seed => exact .pure (spells_text (plain_randomOrder t.dialect ho))
  | raw fragment => exact Env.raw_renders strict henv t.dialect fragment ho

/-- A set operation is written alike on both sides when its subquery is. -/
theorem Combine.renders (hsub : ∀ x, u x → (f x).Marks strict (g x)) (henv : env.Unmarked)
    (c : Combine γ) (hc : (c.map u).Unmarked) :
    Emit.Renders (Spells strict) ((c.map g).markup t env) ((c.map f).render t env) := by
  cases c with
  | query operation all q =>
    have hkeyword : SpellsClosed strict (operation.keyword ++ " ") (operation.keyword ++ " ") [] :=
      (spells_text (plain_setKeyword operation)).divide (by decide)
    have hall : SpellsClosed strict (ofString (if all then "ALL " else ""))
        (if all then "ALL " else "") [] := by
      cases all with
      | false => exact spells_nil
      | true => exact spells_divider (by decide)
    refine .map ((hsub q hc).select env henv) fun m s bs hm => ?_
    exact (hkeyword.appendClosed hall).append hm
  | raw fragment => exact Env.raw_renders strict henv t.dialect fragment hc

end Rendering

end SqlBuilder
