import SqlBuilder.Proofs.Compile
import SqlBuilder.Proofs.Cte.Hoist
import SqlBuilder.Proofs.Cte.Keyword

/-!
# The WITH of a statement

A compiled select or mutation is its own text, with a WITH before it just when it brings along
common table expressions (`compile_prologue`).  The WITH defines every name that is declared at any
depth, and each of them once: the first of its name, in the order of their declaration, innermost
first.  So whatever a body refers to is defined before it, and no body needs a WITH of its own
(`IsPrologue`).
-/

namespace SqlBuilder

variable {t : Target} {q : Query}

/-! ## Definitions -/

/-- A common table expression as a WITH defines it: its name, its declaration and its body. -/
structure CteDefinition where
  name : String
  declared : DeclaredCte
  body : Written

/-- A definition in SQL. -/
def CteDefinition.text (d : Dialect) (e : CteDefinition) : String :=
  d.quoteIdentifier e.name ++ " AS (" ++ e.body.text ++ ")"

/-- The WITH before a statement, with the space after it. -/
def withClause (d : Dialect) (defs : List CteDefinition) : String :=
  if defs.isEmpty then "" else "WITH " ++ String.intercalate ", " (defs.map (·.text d)) ++ " "

/-- The surroundings of everything in a statement. -/
def Query.statementEnv (t : Target) (q : Query) : Env :=
  Env.enterStatement t {} (q.sections t)

/-- The definitions of the WITH of a statement. -/
structure IsPrologue (t : Target) (q : Query) (defs : List CteDefinition) : Prop where
  /-- No two of them have one name. -/
  nodup : (defs.map (·.name)).Nodup
  /-- Every declaration, at any depth, has a name. -/
  named : ∀ c ∈ Query.declaredCtes t.dialect q, ∃ a, c.source.alias? = some a
  /-- They have the names that are declared, at any depth. -/
  names : ∀ a, a ∈ defs.map (·.name) ↔
    ∃ c ∈ Query.declaredCtes t.dialect q, c.source.alias? = some a
  /-- Each is the first of its name. -/
  first : ∀ e ∈ defs, (Query.declaredCtes t.dialect q).find?
    (fun c => c.source.alias? == some e.name) = some e.declared
  /-- What is declared in the body of one stands before it. -/
  innerFirst : ∀ before e after, defs = before ++ e :: after →
    ∀ i ∈ e.declared.inner t.dialect, ∃ e' ∈ before, i.source.alias? = some e'.name
  /-- Each has the body that it was declared with. -/
  body : ∀ e ∈ defs, ((e.declared.source.map (Subquery.rendered t)).renderBody t
    (q.statementEnv t)).Writes e.body
  /-- A body is written as if there were no common table expressions in it, at any depth. -/
  withoutCtes : ∀ e ∈ defs, ((e.declared.source.map
    (Subquery.rendered t ∘ Subquery.withoutCtes)).renderBody t (q.statementEnv t)).Writes e.body
  /-- A body is a select with no WITH at its front, unless it is raw SQL. -/
  select : ∀ e ∈ defs, (∀ aliasName fragment, e.declared.source ≠ .raw aliasName fragment) →
    Begins "SELECT " e.body.text

/-! ## Rendered definitions -/

/-- Common table expressions that are rendered have names, and bodies of their own. -/
theorem exists_definitions {env : Env} (cs : List DeclaredCte) {parts : List String}
    (h : ((cs.map (DeclaredCte.rendered t)).mapM (Cte.render t env)).outcome = .ok parts) :
    ∃ defs : List CteDefinition, defs.map (·.declared) = cs ∧
      (∀ e ∈ defs, e.declared.source.alias? = some e.name ∧
        ((e.declared.rendered t).body env).Writes e.body) ∧
      (cs.map (DeclaredCte.rendered t)).mapM (Cte.render t env) =
        ⟨defs.flatMap (·.body.bindings), .ok (defs.map (·.text t.dialect))⟩ := by
  induction cs generalizing parts with
  | nil => exact ⟨[], rfl, fun e he => absurd he List.not_mem_nil, rfl⟩
  | cons c cs ih =>
    rw [List.map_cons, List.mapM_cons] at h ⊢
    obtain ⟨part, hpart, h⟩ := Emit.of_bind_ok h
    obtain ⟨parts, hparts, -⟩ := Emit.of_bind_ok h
    obtain ⟨defs, rfl, hdefs, hrendered⟩ := ih hparts
    -- A common table expression without a name is not rendered.
    cases halias : c.source.alias? with
    | none =>
      have hname : (c.rendered t).aliasName = none := halias
      rw [Cte.render, hname] at hpart
      cases hpart
    | some a =>
      have hname : (c.rendered t).aliasName = some a := halias
      have hrender : (c.rendered t).render t env = (c.rendered t).body env >>= fun body =>
          pure (t.dialect.quoteIdentifier a ++ " AS (" ++ body ++ ")") := by
        rw [Cte.render, hname]
      rw [hrender] at hpart
      obtain ⟨sql, hsql, -⟩ := Emit.of_bind_ok hpart
      let e : CteDefinition := ⟨a, c, ⟨sql, ((c.rendered t).body env).bindings⟩⟩
      have hbody : ((c.rendered t).body env).Writes e.body := Emit.writes_of_outcome hsql
      refine ⟨e :: defs, rfl, List.forall_mem_cons.mpr ⟨⟨halias, hbody⟩, hdefs⟩, ?_⟩
      have hwritten : (c.rendered t).body env = ⟨e.body.bindings, .ok e.body.text⟩ := hbody
      rw [hrender, hwritten, hrendered]
      simp only [Emit.bind_mk, Emit.bindings_pure, Emit.outcome_pure, List.append_nil,
        List.flatMap_cons, List.map_cons]
      rfl

/-- A common table expression without a name is kept. -/
theorem mem_distinctCtes_of_alias?_eq_none {γ : Type} [Aliased γ] {c : γ} {names : List String}
    {cs : List γ} (hc : c ∈ cs) (halias : Aliased.alias? c = none) : c ∈ distinctCtes names cs := by
  fun_induction distinctCtes names cs with
  | case1 names => exact hc
  | case2 names c' cs halias' ih =>
    obtain rfl | hc := List.mem_cons.mp hc
    · exact List.mem_cons_self
    · exact List.mem_cons_of_mem _ (ih hc)
  | case3 names c' cs b halias' hmem ih =>
    obtain rfl | hc := List.mem_cons.mp hc
    · exact absurd (halias.symm.trans halias') (Option.some_ne_none b).symm
    · exact ih hc
  | case4 names c' cs b halias' hmem ih =>
    obtain rfl | hc := List.mem_cons.mp hc
    · exact absurd (halias.symm.trans halias') (Option.some_ne_none b).symm
    · exact List.mem_cons_of_mem _ (ih hc)

/-- If all that are kept are rendered, each that was declared has its name among them. -/
theorem exists_definition_of_mem {defs : List CteDefinition} {cs : List DeclaredCte}
    (hdeclared : defs.map (·.declared) = distinctCtes [] cs)
    (hdefs : ∀ e ∈ defs, e.declared.source.alias? = some e.name) {c : DeclaredCte} (hc : c ∈ cs) :
    ∃ e ∈ defs, c.source.alias? = some e.name := by
  cases halias : c.source.alias? with
  | none =>
    have hkept : c ∈ defs.map (·.declared) :=
      hdeclared ▸ mem_distinctCtes_of_alias?_eq_none hc halias
    obtain ⟨e, he, rfl⟩ := List.mem_map.mp hkept
    rw [hdefs e he] at halias
    exact nomatch halias
  | some a =>
    have hname : a ∈ cteNames (defs.map (·.declared)) := by
      rw [hdeclared, mem_cteNames_distinctCtes]
      exact ⟨List.mem_filterMap.mpr ⟨c, hc, halias⟩, List.not_mem_nil⟩
    obtain ⟨c', hc', ha⟩ := List.mem_filterMap.mp hname
    obtain ⟨e, he, rfl⟩ := List.mem_map.mp hc'
    exact ⟨e, he, ha.symm.trans (hdefs e he)⟩

/-- Rendered definitions of the common table expressions that a statement defines are the ones of
its WITH. -/
theorem isPrologue_of_definitions {defs : List CteDefinition}
    (hdeclared : defs.map (·.declared) = Query.definedCtes t.dialect q)
    (hdefs : ∀ e ∈ defs, e.declared.source.alias? = some e.name ∧
      ((e.declared.rendered t).body (q.statementEnv t)).Writes e.body) :
    IsPrologue t q defs := by
  have hnames : defs.map (·.name) = cteNames (Query.definedCtes t.dialect q) := by
    rw [← hdeclared, cteNames, List.filterMap_map, ← List.filterMap_eq_map]
    refine (List.filterMap_congr fun e he => ?_).symm
    exact (hdefs e he).1
  have hmem : ∀ e ∈ defs, e.declared ∈ Query.definedCtes t.dialect q :=
    fun e he => hdeclared ▸ List.mem_map_of_mem he
  have hbody : ∀ e ∈ defs, ((e.declared.source.map (Subquery.rendered t)).renderBody t
      (q.statementEnv t)).Writes e.body :=
    fun e he => (hdefs e he).2
  refine { nodup := ?nodup, named := ?named, names := ?names, first := ?first,
           innerFirst := ?innerFirst, body := hbody, withoutCtes := ?withoutCtes,
           select := ?select }
  case nodup =>
    rw [hnames]
    exact nodup_cteNames_distinctCtes _ _
  case named =>
    intro c hc
    obtain ⟨e, -, he⟩ := exists_definition_of_mem hdeclared (fun e he => (hdefs e he).1) hc
    exact ⟨e.name, he⟩
  case names =>
    intro a
    rw [hnames, Query.definedCtes, mem_cteNames_distinctCtes]
    constructor
    · rintro ⟨ha, -⟩
      exact List.mem_filterMap.mp ha
    · intro ha
      exact ⟨List.mem_filterMap.mpr ha, List.not_mem_nil⟩
  case first =>
    intro e he
    exact find?_of_mem_distinctCtes (hmem e he) (hdefs e he).1
  case innerFirst =>
    intro before e after hsplit i hi
    -- Those that stand before `e` are what is kept of those declared before it.
    rw [hsplit, List.map_append, List.map_cons] at hdeclared
    obtain ⟨before', after', htree, hbefore⟩ := distinctCtes_split hdeclared.symm
    have hi : i ∈ before' := Subquery.innerFirst ⟨q⟩ before' e.declared after' htree i hi
    exact exists_definition_of_mem hbefore
      (fun e' he' => (hdefs e' (hsplit ▸ List.mem_append_left _ he')).1) hi
  case withoutCtes =>
    intro e he
    have hagree := (Subquery.agreeIn_withoutCtes (t := t)
      (q.statementEnv t)).renderBody (t := t) e.declared.source
    rw [hagree]
    exact hbody e he
  case select =>
    intro e he hraw
    have hbegins : ((e.declared.source.map (Subquery.rendered t)).renderBody t
        (q.statementEnv t)).Ensures (Begins "SELECT ") := by
      refine Source.renderBody_begins (fun aliasName fragment hsource => ?_) fun r hr => ?_
      · cases hs : e.declared.source with
        | raw a f => exact hraw a f hs
        | _ => simp [hs, Source.map] at hsource
      · cases hs : e.declared.source with
        | query s =>
          rw [hs, Source.map, Source.query.injEq] at hr
          obtain ⟨q'⟩ := s
          rw [← hr, Subquery.rendered_mk]
          exact renderBody_begins _
        | _ => simp [hs, Source.map] at hr
    refine hbegins _ ?_
    rw [show _ = _ from hbody e he]

/-! ## Compiled statements -/

/-- A word that begins a select or a mutation is not the word WITH. -/
theorem not_begins_with {body : String} (h : ∃ word ∈ dataKeywords, Begins word body) :
    ¬Begins "WITH " body := by
  rintro ⟨rest, hwith⟩
  obtain ⟨word, hword, rest', hbody⟩ := h
  have hchars : "WITH ".toList ++ rest.toList = word.toList ++ rest'.toList := by
    rw [← String.toList_append, ← String.toList_append, ← hwith, hbody]
  simp only [dataKeywords, List.mem_cons, List.not_mem_nil, or_false] at hword
  obtain rfl | rfl | rfl | rfl := hword <;> simp at hchars

/-- A select or a mutation is not empty. -/
theorem isEmpty_of_begins {body : String} (h : ∃ word ∈ dataKeywords, Begins word body) :
    body.isEmpty = false := by
  obtain ⟨word, hword, hbegins⟩ := h
  refine hbegins.isEmpty ?_
  simp only [dataKeywords, List.mem_cons, List.not_mem_nil, or_false] at hword
  obtain rfl | rfl | rfl | rfl := hword <;> decide

theorem withClause_eq_empty_iff {d : Dialect} {defs : List CteDefinition} :
    withClause d defs = "" ↔ defs.isEmpty := by
  rw [withClause]
  by_cases hdefs : defs.isEmpty <;> simp [hdefs]

/-- A select or a mutation begins with the word WITH just when something is defined before it. -/
theorem begins_with_iff {d : Dialect} {defs : List CteDefinition} {body : String}
    (hbody : ∃ word ∈ dataKeywords, Begins word body) :
    Begins "WITH " (withClause d defs ++ body) ↔ ¬defs.isEmpty := by
  rw [withClause]
  by_cases hdefs : defs.isEmpty
  · rw [if_pos hdefs, String.empty_append]
    exact iff_of_false (not_begins_with hbody) (not_not.mpr hdefs)
  · rw [if_neg hdefs]
    exact iff_of_true (((Begins.self _).append _).append _ |>.append _) hdefs

/-- The section of common table expressions that come to the definitions. -/
theorem renderPrologue_writes {env : Env} {cs : List Cte} {defs : List CteDefinition}
    (h : cs.mapM (Cte.render t env) =
      ⟨defs.flatMap (·.body.bindings), .ok (defs.map (·.text t.dialect))⟩) :
    (renderPrologue t env cs).Writes
      ⟨keywordList "WITH " ", " (defs.map (·.text t.dialect)), defs.flatMap (·.body.bindings)⟩ := by
  unfold renderPrologue
  rw [h]
  simp only [Emit.Writes, Emit.bind_mk, Emit.bindings_pure, Emit.outcome_pure, List.append_nil]

theorem leading_keywordList (d : Dialect) (defs : List CteDefinition) (bindings : List Value) :
    (Written.mk (keywordList "WITH " ", " (defs.map (·.text d))) bindings).leading.text =
      withClause d defs := by
  cases defs with
  | nil => rfl
  | cons e defs => simp [Written.leading, keywordList, withClause]

/-- **The WITH of a statement.** A compiled select or mutation is a WITH and its own text.  There is
a WITH just when common table expressions are declared in it, at any depth; it defines each name
that is declared once, by the first declaration in innermost-first order, and after everything that
is declared in its body. -/
theorem compile_prologue {c : Compiled} (hdata : q.method.isDdl = false)
    (hc : compile t q = .ok c) :
    ∃ (defs : List CteDefinition) (body : Written), IsPrologue t q defs ∧
      (renderData t (q.statementEnv t) (q.sections t)).Writes body ∧
      c.rawSql = withClause t.dialect defs ++ body.text ∧
      c.bindings = defs.flatMap (·.body.bindings) ++ body.bindings ∧
      (Query.declaredCtes t.dialect q = [] ↔ withClause t.dialect defs = "") ∧
      (Query.declaredCtes t.dialect q ≠ [] ↔ Begins "WITH " c.rawSql) := by
  obtain ⟨-, houtcome, hbindings, -⟩ := compile_eq_ok hc
  have hmethod : (q.sections t).method = q.method := rfl
  have hstatement : renderMethod t {} (q.sections t) =
      renderPrologue t (q.statementEnv t) ((Query.definedCtes t.dialect q).map
        (DeclaredCte.rendered t)) >>= fun prologue =>
          renderData t (q.statementEnv t) (q.sections t) >>= fun body =>
            pure (joinSections [prologue, body]) := by
    rw [← Query.hoistedCtes_sections, renderMethod, hmethod]
    cases hq : q.method with
    | createTable | createTableAs | dropTable | truncateTable => simp [hq, Method.isDdl] at hdata
    | _ => rfl
  rw [hstatement] at houtcome hbindings
  obtain ⟨prologue, hprologue, hrest⟩ := Emit.of_bind_ok houtcome
  obtain ⟨body, hbody, -⟩ := Emit.of_bind_ok hrest
  obtain ⟨parts, hparts, -⟩ := Emit.of_bind_ok hprologue
  obtain ⟨defs, hdeclared, hdefs, hrendered⟩ := exists_definitions _ hparts
  have hempty : defs.isEmpty ↔ Query.declaredCtes t.dialect q = [] := by
    rw [← distinctCtes_eq_nil, ← Query.definedCtes, ← hdeclared, List.map_eq_nil_iff,
      List.isEmpty_iff]
  have hword : ∃ word ∈ dataKeywords, Begins word body := renderData_begins _ body hbody
  have hbody : (renderData t (q.statementEnv t) (q.sections t)).Writes ⟨body, _⟩ :=
    Emit.writes_of_outcome hbody
  rw [renderPrologue_writes hrendered, hbody] at houtcome hbindings
  have hsql : c.rawSql = withClause t.dialect defs ++ body := by
    rw [← leading_keywordList _ _ (defs.flatMap (·.body.bindings)),
      ← joinSections_prologue _ (isEmpty_of_begins hword)]
    exact (Except.ok.inj houtcome).symm
  refine ⟨defs, ⟨body, _⟩, isPrologue_of_definitions hdeclared hdefs, hbody, hsql, ?_, ?_, ?_⟩
  · simp only [Emit.bind_mk, Emit.bindings_pure, List.append_nil] at hbindings
    exact hbindings.symm
  · rw [← hempty, withClause_eq_empty_iff]
  · rw [hsql, ne_eq, ← hempty, begins_with_iff hword]

/-- A name that is declared twice: in the body of another common table expression, which refers to
it, and once more by the statement. -/
theorem compile_prologue_nested :
    let t : Target := { dialect := .postgres }
    let inner : Query :=
      { clauses := [⟨.source, none, .source (.table "base")⟩], aliasName := some "i" }
    let again : Query :=
      { clauses := [⟨.source, none, .source (.table "other")⟩], aliasName := some "i" }
    let middle : Query :=
      { clauses := [⟨.cte, none, .source (.query ⟨inner⟩)⟩, ⟨.source, none, .source (.table "i")⟩]
        aliasName := some "m" }
    let q : Query :=
      { clauses :=
          [⟨.cte, none, .source (.query ⟨middle⟩)⟩, ⟨.cte, none, .source (.query ⟨again⟩)⟩,
            ⟨.source, none, .source (.table "m")⟩] }
    q.method.isDdl = false ∧ ∃ c, compile t q = .ok c ∧
      c.rawSql = "WITH \"i\" AS (SELECT * FROM \"base\"), \"m\" AS (SELECT * FROM \"i\") " ++
        "SELECT * FROM \"m\"" ∧
      ∃ (defs : List CteDefinition) (body : Written), IsPrologue t q defs ∧
        c.rawSql = withClause t.dialect defs ++ body.text ∧
        (Query.declaredCtes t.dialect q ≠ [] ↔ Begins "WITH " c.rawSql) := by
  intro t inner again middle q
  refine ⟨rfl, ?_⟩
  have hsql : (compile t q).toOption.map (·.rawSql) =
      some ("WITH \"i\" AS (SELECT * FROM \"base\"), \"m\" AS (SELECT * FROM \"i\") " ++
        "SELECT * FROM \"m\"") := by
    decide +kernel
  cases hc : compile t q with
  | error e =>
    rw [hc] at hsql
    exact absurd hsql (by simp [Except.toOption])
  | ok c =>
    rw [hc] at hsql
    obtain ⟨defs, body, hdefs, -, hraw, -, -, hpresent⟩ := compile_prologue rfl hc
    exact ⟨c, rfl, Option.some.inj hsql, defs, body, hdefs, hraw, hpresent⟩

end SqlBuilder
