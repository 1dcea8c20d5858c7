import SqlBuilder.Proofs.Compile
import SqlBuilder.Proofs.Markup.Statement

/-!
# Bindings in the order of their places

The bindings of a compiled statement come in the order in which their placeholders are written.  The
statement is the text of a markup that has every value in its own place, and the bindings are the
values of that markup from left to right (`compile_bindings_inOrder`).  The markup is written by the
counterparts of the renderers, which keep no list of bindings.

This holds for every query whose names, aliases and literals have no question marks, whose literals
do not end in a backslash, whose cross joins have no constraints, and which inserts into a table if
it is an insert.
-/

namespace SqlBuilder

open Markup

/-! ## Reading a markup from left to right -/

namespace Markup

/-- The place of a value is found behind as many places as there are values before it. -/
theorem Direct.exists_place {m : Markup} (h : m.Direct) {k : Nat} {v : Value}
    (hv : m.bound[k]? = some v) :
    ∃ before after : Markup, m = before ++ .value v :: after ∧ before.places.count true = k := by
  induction m generalizing k with
  | nil => simp at hv
  | cons cell m ih =>
    obtain ⟨hcell, hm⟩ := List.forall_mem_cons.mp h
    cases cell with
    | char c =>
      obtain ⟨before, after, rfl, hcount⟩ := ih hm hv
      refine ⟨.char c :: before, after, rfl, ?_⟩
      exact hcount
    | value w =>
      cases k with
      | zero =>
        obtain rfl : w = v := Option.some.inj hv
        exact ⟨[], m, rfl, rfl⟩
      | succ k =>
        obtain ⟨before, after, rfl, hcount⟩ := ih hm hv
        refine ⟨.value w :: before, after, rfl, ?_⟩
        change List.count true (true :: places before) = k + 1
        rw [List.count_cons_self, hcount]
    | again => exact absurd hcell.2 (by simp [Cell.isAgain])
    | silent w => exact absurd hcell.1 (by simp [Cell.isSilent])

end Markup

/-! ## Compiled statements -/

variable {t : Target} {q : Query} {c : Compiled}

/-- A table that is created has no values, whatever the types of its columns are spelled like: each
question mark in it would be a placeholder without a binding. -/
theorem compile_createTable (hmethod : q.method = .createTable) (hc : compile t q = .ok c) :
    ∃ m, q.markup t = .ok m ∧ m.Direct ∧ m.text = c.rawSql.toList ∧ m.bound = c.bindings ∧
      m.places = markPlaces c.rawSql.toList := by
  obtain ⟨-, houtcome, hbindings, hcount⟩ := compile_eq_ok hc
  have hmarked : q.markedSections t = (Sections.of t.dialect q).map (Subquery.marked t) :=
    Sections.of_map _ _ _
  have hrendered : q.sections t = (Sections.of t.dialect q).map (Subquery.rendered t) :=
    Sections.of_map _ _ _
  have hmethods : (q.sections t).method = .createTable ∧
      (q.markedSections t).method = .createTable := ⟨hmethod, hmethod⟩
  rw [renderMethod, hmethods.1] at houtcome hbindings
  have hsql : renderCreateTable t {} (Sections.of t.dialect q) = .ok c.rawSql := by
    rw [hrendered] at houtcome
    rwa [← renderCreateTable_map t (Subquery.rendered t)]
  have hnone : c.bindings = [] := hbindings.symm
  refine ⟨ofString c.rawSql, ?_, direct_ofString _, text_ofString _, ?_, ?_⟩
  · rw [Query.markup, methodMarkup, hmethods.2, hmarked]
    dsimp only
    rw [renderCreateTable_map, hsql]
    rfl
  · rw [bound_ofString, hnone]
  · rw [hnone] at hcount
    exact (markPlaces_of_countMarks hcount).symm

/-- **The bindings of a compiled statement are in the order of their places.**  The statement is the
text of its markup, in which every value stands in its own place, and the bindings are the values
from left to right: before the place of the `k`th binding there are `k` places. -/
theorem compile_bindings_inOrder (ht : t.PlainPrefix) (hq : q.Unmarked True t.dialect)
    (htable : q.method = .insert →
      ∃ name, (Sections.of t.dialect q).source = some (.table name))
    (hc : compile t q = .ok c) :
    ∃ m, q.markup t = .ok m ∧ m.Direct ∧ m.text = c.rawSql.toList ∧ m.bound = c.bindings ∧
      m.places = markPlaces c.rawSql.toList ∧
      ∀ k v, c.bindings[k]? = some v →
        ∃ before after : Markup, m = before ++ .value v :: after ∧ before.places.count true = k := by
  obtain ⟨m, hm, hdirect, htext, hbound, hplaces⟩ : ∃ m, q.markup t = .ok m ∧ m.Direct ∧
      m.text = c.rawSql.toList ∧ m.bound = c.bindings ∧
      m.places = markPlaces c.rawSql.toList := by
    by_cases hmethod : q.method = .createTable
    · exact compile_createTable hmethod hc
    · have htypes : q.method = .createTable →
          ∀ c ∈ (Sections.of t.dialect q).tableColumns, c.Plain := fun h => absurd h hmethod
      obtain ⟨-, houtcome, hbindings, -⟩ := compile_eq_ok hc
      obtain ⟨m, hm, hspells⟩ :=
        (Query.renders ht Env.unmarked_empty q hq (fun _ h _ => htable h) htypes).of_ok houtcome
      rw [hbindings] at hspells
      exact ⟨m, hm, hspells.direct trivial, hspells.text, hspells.bound, hspells.places_eq.symm⟩
  refine ⟨m, hm, hdirect, htext, hbound, hplaces, fun k v hv => ?_⟩
  rw [← hbound] at hv
  exact hdirect.exists_place hv

/-- The value of an ORDER BY that lands among the columns comes before that of the WHERE. -/
theorem compile_bindings_inOrder_window :
    let t : Target := { dialect := .sqlServer, options := { legacyPagination := true } }
    let q : Query :=
      { clauses :=
          [⟨.source, none, .source (.table "t")⟩,
            ⟨.filter, none, .condition { kind := .compare "b" .eq (.int 2) }⟩,
            ⟨.order, none, .order (.raw ⟨"a = ?", [.int 1]⟩)⟩,
            ⟨.offset, none, .offset 3⟩] }
    t.PlainPrefix ∧ q.Unmarked True t.dialect ∧
      ∃ c, compile t q = .ok c ∧
        c.rawSql =
          "SELECT * FROM (SELECT *, ROW_NUMBER() OVER (ORDER BY a = ?) AS [row_num] " ++
            "FROM [t] WHERE [b] = ?) AS [results_wrapper] WHERE [row_num] >= ?" ∧
        ∃ m, q.markup t = .ok m ∧ m.Direct ∧ m.text = c.rawSql.toList ∧ m.bound = c.bindings ∧
          m.places = markPlaces c.rawSql.toList ∧
          ∀ k v, c.bindings[k]? = some v →
            ∃ before after : Markup, m = before ++ .value v :: after ∧
              before.places.count true = k := by
  intro t q
  have ht : t.PlainPrefix := fun p hp => absurd hp (Option.not_mem_none p)
  have hsections : Sections.of t.dialect (q.map (Subquery.Unmarked True t.dialect)) =
      { source := some (.table "t")
        filters := [{ kind := .compare "b" .eq (.int 2) }]
        orders := [.raw ⟨"a = ?", [.int 1]⟩]
        offset := 3
        hasSource := true
        hasFilters := true
        hasOrders := true
        scope := [[]] } := rfl
  have hq : q.Unmarked True t.dialect := by
    rw [Query.Unmarked, hsections]
    constructor <;> simp [Source.Unmarked, Plain, Condition.Unmarked, ConditionKind.Unmarked,
      OrderBy.Unmarked, Fragment.Unmarked, Value.Unmarked, Scope.Unmarked]
  have hsql : (compile t q).toOption.map (·.rawSql) =
      some ("SELECT * FROM (SELECT *, ROW_NUMBER() OVER (ORDER BY a = ?) AS [row_num] " ++
        "FROM [t] WHERE [b] = ?) AS [results_wrapper] WHERE [row_num] >= ?") := by
    decide +kernel
  cases hc : compile t q with
  | error e =>
    rw [hc] at hsql
    exact absurd hsql (by simp [Except.toOption])
  | ok c =>
    rw [hc] at hsql
    refine ⟨ht, hq, c, rfl, Option.some.inj hsql, ?_⟩
    exact compile_bindings_inOrder ht hq (fun h => absurd h (by decide)) hc

end SqlBuilder
