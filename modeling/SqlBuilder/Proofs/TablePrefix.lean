import SqlBuilder.Proofs.Rewrite.Statement
import SqlBuilder.Proofs.Text.Alias

/-!
# The table prefix as a rewriting

The prefix of the options is put before the last part of the name of every table, but not before the
name of a common table expression.  A select, an insert or an update comes to the same when the
prefix is written into the query instead (`compile_tablePrefix`): into the text of every table, in
front of its alias, where the name is none of the common table expressions of the statement
(`Rewriting.prefixing`).

Names are trimmed before the prefix is put, and the text of a table is not, so the prefix goes in
front of the first character of the last part that is not blank (`trimList_insertPrefix`).
-/

namespace SqlBuilder

open Text

/-! ## Putting a text before a name -/

/-- Puts a text before the last part of a dotted name; blanks at the front stay in front. -/
def insertPrefix (p cs : List Char) : List Char :=
  match splitLastList? '.' cs with
  | some (schema, table) => schema ++ '.' :: (p ++ table)
  | none => cs.takeWhile isBlank ++ (p ++ trimStartList cs)

/-- Trimming before or after comes to the same. -/
theorem trimList_insertPrefix {p : List Char} (hp : ∀ c ∈ p, isBlank c = false) (cs : List Char) :
    trimList (insertPrefix p cs) = insertPrefix p (trimList cs) := by
  have hdot : isBlank '.' = false := by decide
  cases hsplit : splitLastList? '.' cs with
  | some parts =>
    obtain ⟨schema, table⟩ := parts
    obtain ⟨rfl, htable⟩ := splitLastList?_eq_some hsplit
    have htrimmed : '.' ∉ trimEndList table := fun hmem =>
      htable ((trimEndList_sublist table).subset hmem)
    simp only [insertPrefix, hsplit]
    rw [trimList_append_cons hdot, trimList_append_cons hdot, splitLastList?_append htrimmed,
      trimEndList_append_of_nonblank hp]
  | none =>
    have htrimmed : splitLastList? '.' (trimList cs) = none :=
      splitLastList?_eq_none.mpr fun hmem =>
        splitLastList?_eq_none.mp hsplit ((trimList_sublist cs).subset hmem)
    have hblank : ∀ c ∈ cs.takeWhile isBlank, isBlank c := fun c hc => List.mem_takeWhile_imp hc
    have hstart : trimStartList (trimStartList cs) = trimStartList cs := by
      simp only [trimStartList, List.dropWhile_idempotent]
    simp only [insertPrefix, hsplit, htrimmed]
    rw [takeWhile_trimList, trimStartList_trimList, trimList, trimStartList_append_of_blank hblank,
      trimStartList_append_of_nonblank hp hstart, trimEndList_append_of_nonblank hp]
    rfl

theorem insertPrefix_ne_nil {p cs : List Char} (h : cs ≠ []) : insertPrefix p cs ≠ [] := by
  rw [insertPrefix]
  split
  · simp
  · intro hnil
    rw [List.append_eq_nil_iff, List.append_eq_nil_iff] at hnil
    have hwhole := List.takeWhile_append_dropWhile (p := isBlank) (l := cs)
    rw [hnil.1, List.nil_append] at hwhole
    exact h (hwhole.symm.trans hnil.2.2)

/-! ## The text of a table -/

/-- What stands before the alias in the text of a table; all of a text without an alias. -/
def beforeAlias (cs : List Char) : List Char :=
  match splitAliasList? cs, cutLast? atAliasMark 4 cs with
  | some _, some (front, _) => front
  | _, _ => cs

/-- The name in the text of a table, without its alias. -/
def tableNameIn (table : String) : String :=
  String.ofList (trimList (beforeAlias table.toList))

/-- Writes a prefix into the text of a table, unless its name is one of a list of names. -/
def prefixTable (p : String) (names : List String) (table : String) : String :=
  let front := beforeAlias table.toList
  if tableNameIn table ∈ names then
    table
  else
    String.ofList (insertPrefix p.toList front ++ table.toList.drop front.length)

/-- Writes a prefix into all tables of a query but those with certain names. -/
def Rewriting.prefixing (p : String) (names : List String) : Rewriting where
  table := prefixTable p names

theorem Rewriting.scope_prefixing (p : String) (names : List String) (scope : Scope) :
    Rewriting.scope (.prefixing p names) scope = scope :=
  List.map_id scope

/-- The query with a prefix written into every table that is none of its common table
expressions. -/
def Query.withPrefix (d : Dialect) (p : String) (q : Query) : Query :=
  Query.rewrite (.prefixing p (cteNames (Query.definedCtes d q))) q

/-! ## Wrapping -/

/-- An alias is wrapped on its own, after what stands before it. -/
theorem Dialect.wrap_of_splitAliasList? (d : Dialect) {cs name aliasName : List Char}
    (h : splitAliasList? cs = some (name, aliasName)) :
    d.wrap (String.ofList cs) = d.wrap (String.ofList name) ++ " " ++ d.aliasKeyword ++
      d.quoteIdentifier (String.ofList aliasName) := by
  have hsplit : Identifier.splitAliases cs =
      ((Identifier.splitAliases name).1, (Identifier.splitAliases name).2 ++ [aliasName]) := by
    rw [Identifier.splitAliases]
    split
    · next name' aliasName' h' =>
      obtain ⟨rfl, rfl⟩ := Prod.mk.inj (Option.some.inj (h.symm.trans h'))
      rfl
    · next h' => simp [h'] at h
  simp only [Dialect.wrap, Identifier.ofText, String.toList_ofList, hsplit, Identifier.text,
    List.map_append, List.map_cons, List.map_nil, List.foldl_append, List.foldl_cons,
    List.foldl_nil]

section Wrap

variable {t : Target} {env : Env}

theorem Env.prefixed_of_none (h : t.options.tablePrefix = none) (name : String) :
    env.prefixed t name = name := by
  simp only [Env.prefixed, h, ite_self]

theorem Env.prefixed_of_mem {name : String} (h : name ∈ env.ctes) :
    env.prefixed t name = name :=
  if_pos h

theorem Env.prefixed_of_not_mem {p : String} (hp : t.options.tablePrefix = some p)
    {cs : List Char} (hname : String.ofList (trimList cs) ∉ env.ctes) :
    env.prefixed t (String.ofList (trimList cs)) =
      String.ofList (insertPrefix p.toList (trimList cs)) := by
  rw [Env.prefixed, if_neg hname, hp]
  simp only [splitLast?, String.toList_ofList, insertPrefix]
  cases splitLastList? '.' (trimList cs) with
  | none =>
    rw [takeWhile_trimList, trimStartList_trimList]
    exact String.toList_injective (by simp)
  | some parts => exact String.toList_injective (by simp)

/-- Without a prefix, the text of a table is wrapped like any other identifier. -/
theorem Env.wrapTable_of_none (h : t.options.tablePrefix = none) (table : String) :
    env.wrapTable t table = t.dialect.wrap (Text.trim table) := by
  rw [Env.wrapTable]
  cases hsplit : splitAliasList? table.toList with
  | none =>
    simp only [splitAlias?, hsplit, Option.map_none, Env.prefixed_of_none h]
  | some parts =>
    obtain ⟨name, aliasName⟩ := parts
    simp only [splitAlias?, hsplit, Option.map_some, Env.prefixed_of_none h, Text.trim,
      t.dialect.wrap_of_splitAliasList? (splitAliasList?_trimList hsplit)]

/-- **Tables.** Without the prefix, the text of a table that the prefix is written into is wrapped
as the text itself is with the prefix. -/
theorem Env.wrapTable_prefixTable {p : String} (hp : ∀ c ∈ p.toList, isBlank c = false)
    (hoption : t.options.tablePrefix = some p) {t' : Target} (hdialect : t'.dialect = t.dialect)
    (hoption' : t'.options.tablePrefix = none) (env' : Env) (table : String) :
    env'.wrapTable t' (prefixTable p env.ctes table) = env.wrapTable t table := by
  cases hsplit : splitAliasList? table.toList with
  | none =>
    have hfront : beforeAlias table.toList = table.toList := by simp only [beforeAlias, hsplit]
    have hname : tableNameIn table = Text.trim table := by
      rw [tableNameIn, hfront]
      rfl
    have hwrap : env.wrapTable t table = t.dialect.wrap (env.prefixed t (Text.trim table)) := by
      simp only [Env.wrapTable, splitAlias?, hsplit, Option.map_none]
    rw [Env.wrapTable_of_none hoption', hwrap, hdialect]
    by_cases hmem : tableNameIn table ∈ env.ctes
    · rw [prefixTable, if_pos hmem, Env.prefixed_of_mem (hname ▸ hmem)]
    · rw [prefixTable, if_neg hmem, hfront, Text.trim, Text.trim,
        Env.prefixed_of_not_mem hoption (by rwa [← Text.trim, ← hname])]
      simp only [List.drop_length, List.append_nil, String.toList_ofList,
        trimList_insertPrefix hp]
  | some parts =>
    obtain ⟨name, aliasName⟩ := parts
    obtain ⟨front, rest, after, hcut, hwhole, rfl, hreplace⟩ := splitAliasList?_replace hsplit
    have hfront : beforeAlias table.toList = front := by
      simp only [beforeAlias, hsplit, hcut]
    have hname : tableNameIn table = String.ofList (trimList front) := by
      rw [tableNameIn, hfront]
    have hwrap : env.wrapTable t table =
        t.dialect.wrap (env.prefixed t (String.ofList (trimList front))) ++ " " ++
          t.dialect.aliasKeyword ++ t.dialect.quoteIdentifier (String.ofList aliasName) := by
      simp only [Env.wrapTable, splitAlias?, hsplit, Option.map_some]
    by_cases hmem : tableNameIn table ∈ env.ctes
    · rw [prefixTable, if_pos hmem, hwrap, Env.prefixed_of_mem (hname ▸ hmem)]
      simp only [Env.wrapTable, splitAlias?, hsplit, Option.map_some,
        Env.prefixed_of_none hoption', hdialect]
    · have hnonempty : trimList (insertPrefix p.toList front) ≠ [] := by
        rw [trimList_insertPrefix hp]
        obtain ⟨-, -, -, -, -, hfilled, -⟩ := splitAliasList?_eq_some.mp hsplit
        exact insertPrefix_ne_nil hfilled
      have hsplit' := hreplace _ hnonempty
      rw [hwrap, Env.prefixed_of_not_mem hoption (hname ▸ hmem), prefixTable, if_neg hmem, hfront,
        hwhole, List.drop_left]
      simp only [Env.wrapTable, splitAlias?, String.toList_ofList, hsplit', Option.map_some,
        Env.prefixed_of_none hoption', hdialect, trimList_insertPrefix hp]

end Wrap

/-! ## Statements -/

/-- **Table prefix.** A select, an aggregate, an insert or an update whose common table expressions
are not tables is compiled with a table prefix as the query that the prefix is written into is
without one. -/
theorem compile_tablePrefix {t : Target} {p : String} (hp : ∀ c ∈ p.toList, isBlank c = false)
    (hoption : t.options.tablePrefix = some p) {q : Query}
    (hmethod : q.method ∈ [.select, .aggregate, .insert, .update])
    (hctes : ∀ c ∈ Query.declaredCtes t.dialect q, ∀ name, c.source ≠ .table name) :
    compile t q = compile { t with options := { t.options with tablePrefix := none } }
      (q.withPrefix t.dialect p) := by
  let t' : Target := { t with options := { t.options with tablePrefix := none } }
  let names := cteNames (Query.definedCtes t.dialect q)
  have hsound : Rewriting.Sound (.prefixing p names) t t' (fun _ => True)
      (fun env env' => env' = env ∧ env.ctes = names) := by
    refine ⟨⟨rfl, rfl, fun _ => rfl, rfl⟩, ?agrees, ?enter⟩
    case agrees =>
      rintro _ env ⟨rfl, hnames⟩
      have hvalue (v : Value) : env.resolveValue v = (env.resolveValue v).map id :=
        (congrFun Except.map_id _).symm
      have hdialect : t'.dialect = t.dialect := rfl
      have hwrap (table : String) :
          env.wrapTable t' (prefixTable p env.ctes table) = env.wrapTable t table :=
        Env.wrapTable_prefixTable hp hoption hdialect rfl env table
      rw [← hnames]
      exact ⟨fun _ => rfl, hvalue, fun _ _ _ => rfl, fun _ _ => rfl, hwrap⟩
    case enter =>
      rintro _ env q - ⟨rfl, hnames⟩
      rw [Rewriting.scope_prefixing]
      exact ⟨rfl, hnames⟩
  have hrender := hsound.method (.of_forall (fun _ => trivial) _)
    (fun c hc => DeclaredCte.alias?_rewrite (.inl (hctes c hc)))
    (by rw [Rewriting.scope_prefixing]; exact ⟨rfl, rfl⟩) (.inl hmethod)
  have herror : (q.withPrefix t.dialect p).error = q.error := rfl
  simp only [compile, hrender, herror]
  rfl

/-- A table with a schema and an alias, joined with a common table expression that has a table of its
own. -/
theorem compile_tablePrefix_join :
    let t : Target := { dialect := .generic, options := { tablePrefix := some "p_" } }
    let body : Query :=
      { clauses := [⟨.source, none, .source (.table "t")⟩]
        aliasName := some "w"
        parent := [[]] }
    let test : Condition Subquery := { kind := .columns "u.id" .eq "w.id" }
    let join : Join Subquery :=
      { kind := .inner
        clauses := [⟨.source, none, .source (.table "w")⟩, ⟨.filter, none, .condition test⟩]
        index := none }
    let q : Query :=
      { clauses :=
          [⟨.cte, none, .source (.query ⟨body⟩)⟩, ⟨.source, none, .source (.table "db.users as u")⟩,
            ⟨.join, none, .join join⟩] }
    (∀ c ∈ Query.declaredCtes t.dialect q, ∀ name, c.source ≠ .table name) ∧
      compile t q = compile { dialect := .generic } (q.withPrefix t.dialect "p_") ∧
        (compile t q).toOption.map (·.sql) =
          some ("WITH \"w\" AS (SELECT * FROM \"p_t\") " ++
            "SELECT * FROM \"db\".\"p_users\" AS \"u\" " ++
            "INNER JOIN \"w\" ON \"u\".\"id\" = \"w\".\"id\"") := by
  intro t body test join q
  have hctes : ∀ c ∈ Query.declaredCtes t.dialect q, ∀ name, c.source ≠ .table name := by
    intro c hc name
    rw [Query.declaredCtes, Subquery.declaredCtes_mk] at hc
    obtain ⟨source, hsource, hc⟩ := List.mem_flatMap.mp hc
    obtain rfl : source = .query ⟨body⟩ := List.mem_singleton.mp hsource
    have hinner : DeclaredCte.inner t.dialect ⟨q.scope, .query ⟨body⟩⟩ = [] := by
      rw [DeclaredCte.inner, Source.subqueries, List.flatMap_singleton, Subquery.declaredCtes_mk]
      rfl
    rw [hinner] at hc
    obtain rfl := List.mem_singleton.mp hc
    rintro ⟨⟩
  have hblanks : ∀ c ∈ ("p_" : String).toList, isBlank c = false := by
    have htext : ("p_" : String).toList = ['p', '_'] := rfl
    rw [htext, List.forall_mem_cons, List.forall_mem_singleton]
    exact ⟨rfl, rfl⟩
  exact ⟨hctes, compile_tablePrefix hblanks rfl (by decide) hctes, by decide +kernel⟩

end SqlBuilder
