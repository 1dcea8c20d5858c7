import Mathlib.Data.List.Nodup
import SqlBuilder.Proofs.Frame.Statement
import SqlBuilder.Proofs.Paging.Place
import SqlBuilder.Proofs.Paging.Window

/-!
# Pages

A compiled select keeps the rows of its window (`compile_keeps`), in the words of its dialect and
with the values that are bound to them.  A compilation that complains about the range of a row
number has such a limit and offset to write, in the query or in one inside of it
(`compile_justified`).  The pages of a query, one after another, are windows of one
length that follow one another, so they make up the first rows of the source and have no row in
common (`forPage_windows`).

This asks for pages that are in force for the dialect.  `QueryOver.forPage` sets a limit and an
offset in the engine scope of the query, and a limit or an offset that is scoped to the dialect
itself goes before one that is meant for every dialect (`QueryOver.Pageable`).
-/

namespace SqlBuilder

variable {t : Target} {q : Query} {α : Type}

/-! ## Compiled windows -/

/-- The statement that a query is compiled to keeps these rows of a source: it is its sections with
a paging clause inside of them or around them, and with the values that are bound to it the clause
keeps the rows. -/
def Compiled.Keeps (compiled : Compiled) (t : Target) (q : Query) (source kept : List α) : Prop :=
  ∃ (prologue : Written) (rows : Sections Rendered) (w : SelectText) (c : PagingClause),
    (q.sections t).Counted t (Env.enterStatement t {} (q.sections t)) rows ∧
    w.Spells t (Env.enterStatement t {} (q.sections t)) rows ∧
    Paging.clause t.pagination (q.hasComponent .order (some t.dialect)) (q.pagingFor t.dialect) =
      .ok c ∧
    (⟨compiled.rawSql, compiled.bindings⟩ : Written) = prologue.leading ++ w.paged t.dialect c ∧
    c.keeps? c.values source = some kept

/-- A compiled select keeps the rows of its window. -/
theorem compile_keeps {compiled : Compiled} (hmethod : q.method = .select)
    (hcompile : compile t q = .ok compiled) {source : List α}
    (hsource : source.length < UInt64.size - 1) :
    compiled.Keeps t q source ((q.pagingFor t.dialect).window source) := by
  obtain ⟨hlimit, hoffset, horders⟩ := Query.sections_paging t q
  obtain ⟨prologue, rows, w, c, -, hcounted, hw, hc, htext⟩ := compile_pages hmethod hcompile
  rw [hlimit, hoffset, horders] at hc
  exact ⟨prologue, rows, w, c, hcounted, hw, hc, htext, Paging.clause_keeps hc hsource⟩

/-- The rows that a statement keeps are determined. -/
theorem Compiled.Keeps.unique {compiled : Compiled} {source kept kept' : List α}
    (h : compiled.Keeps t q source kept) (h' : compiled.Keeps t q source kept') : kept = kept' := by
  obtain ⟨-, -, -, c, -, -, hc, -, hkept⟩ := h
  obtain ⟨-, -, -, c', -, -, hc', -, hkept'⟩ := h'
  obtain rfl := Except.ok.inj (hc.symm.trans hc')
  exact Option.some.inj (hkept.symm.trans hkept')

/-- A compiled select has bound no row number that does not fit. -/
theorem compile_rowNumbers {compiled : Compiled} (hmethod : q.method = .select)
    (hcompile : compile t q = .ok compiled) :
    ∀ n ∈ Paging.rowNumbers t.pagination (q.pagingFor t.dialect), n < UInt64.size := by
  have hkeeps : compiled.Keeps t q ([] : List Unit) _ :=
    compile_keeps hmethod hcompile (by decide)
  obtain ⟨-, -, -, c, -, -, hc, -, -⟩ := hkeeps
  have hok : (Paging.clause t.pagination (q.hasComponent .order (some t.dialect))
      (q.pagingFor t.dialect)).isOk = true := by
    rw [hc]
    rfl
  exact (Paging.clause_isOk_iff _ _ _).mp hok

/-- A compilation complains about a row number only when it is one that the query or a query inside
of it has to bind, and does not fit. -/
theorem compile_justified {e : Error} (herror : q.error = none)
    (hcompile : compile t q = .error e) : e.Justified (Query.pagingUse t q) := by
  unfold compile at hcompile
  rw [herror] at hcompile
  dsimp only at hcompile
  cases houtcome : (renderMethod t {} (q.sections t)).outcome with
  | error e' =>
    rw [houtcome] at hcompile
    obtain rfl := Except.error.inj hcompile
    exact (Query.renderMethod_sane t {} q).justified e' houtcome
  | ok sql =>
    rw [houtcome] at hcompile
    dsimp only [bind] at hcompile
    split at hcompile
    · exact nomatch hcompile
    · obtain rfl := Except.error.inj hcompile
      trivial

/-! ## Pages of a query -/

section ForPage

variable {σ : Type} {d : Dialect}

namespace Clauses

variable {cs : List (Clause σ)} {component component' : Component} {scope engine : Option Dialect}

/-- No clause of the component with this engine is left. -/
theorem find?_ofComponent_remove :
    (ofComponent component engine (remove component scope cs)).find? (·.engine == scope) =
      none := by
  rw [List.find?_eq_none]
  intro c hc hscope
  obtain ⟨hc, hcomponent⟩ := List.mem_filter.mp hc
  have hkept : (!c.isFiled component scope) = true := (List.mem_filter.mp hc).2
  have hfiled : c.isFiled component scope = true :=
    Bool.and_eq_true_iff.mpr ⟨(Bool.and_eq_true_iff.mp hcomponent).1, hscope⟩
  rw [hfiled] at hkept
  exact nomatch hkept

/-- A clause that is put in the place of others is in force, unless one that is scoped to the dialect
goes before it. -/
theorem pick?_replaced (k : ClauseKind σ)
    (hscope : scope = some d ∨
      scope = none ∧ ∀ c ∈ cs, c.component = component → c.engine ≠ some d) :
    pick? component (some d) (remove component scope cs ++ [⟨component, scope, k⟩]) =
      some ⟨component, scope, k⟩ := by
  have hfound : ofComponent component (some d)
        (remove component scope cs ++ [⟨component, scope, k⟩]) =
      ofComponent component (some d) (remove component scope cs) ++ [⟨component, scope, k⟩] := by
    obtain rfl | ⟨rfl, -⟩ := hscope <;> simp [ofComponent, Clause.applies]
  unfold pick?
  dsimp only
  rw [hfound, List.find?_append, List.find?_append]
  obtain rfl | ⟨rfl, hunscoped⟩ := hscope
  · rw [find?_ofComponent_remove]
    simp
  · have hnone : (ofComponent component (some d) (remove component none cs)).find?
        (·.engine == some d) = none := by
      rw [List.find?_eq_none]
      intro c hc hengine
      obtain ⟨hc, hcomponent⟩ := List.mem_filter.mp hc
      have hmem : c ∈ cs := (List.mem_filter.mp hc).1
      simp only [Bool.and_eq_true, beq_iff_eq] at hcomponent hengine
      exact hunscoped c hmem hcomponent.1 hengine
    rw [hnone, find?_ofComponent_remove]
    simp

/-- Other components are left alone. -/
theorem pick?_replaced_of_ne (k : ClauseKind σ) (h : component ≠ component') :
    pick? component engine (remove component' scope cs ++ [⟨component', scope, k⟩]) =
      pick? component engine cs := by
  have hfound : ofComponent component engine
        (remove component' scope cs ++ [⟨component', scope, k⟩]) =
      ofComponent component engine cs := by
    have hnew : ofComponent component engine [(⟨component', scope, k⟩ : Clause σ)] = [] := by
      simp [ofComponent, h.symm]
    rw [ofComponent, List.filter_append, ← ofComponent, ← ofComponent, hnew, List.append_nil,
      ofComponent, remove, List.filter_filter, ofComponent]
    refine List.filter_congr fun c _ => ?_
    by_cases hc : c.component = component
    · simp [Clause.isFiled, hc, h]
    · simp [hc]
  rw [pick?, hfound, ← pick?]

end Clauses

namespace QueryOver

variable {q : QueryOver σ}

/-- A page of the query is in force for the dialect: the query is in the scope of the dialect, or in
none and has no limit or offset that is scoped to the dialect. -/
def Pageable (d : Dialect) (q : QueryOver σ) : Prop :=
  q.engineScope = some d ∨ q.engineScope = none ∧
    ∀ c ∈ q.clauses, c.component = .limit ∨ c.component = .offset → c.engine ≠ some d

instance (d : Dialect) (q : QueryOver σ) : Decidable (q.Pageable d) :=
  inferInstanceAs (Decidable (_ ∨ _))

/-- A clause has been replaced if there is no error. -/
theorem replaceComponent_of_ok {component : Component} {k : ClauseKind σ}
    (h : (q.replaceComponent component k).error = none) :
    q.error = none ∧ q.replaceComponent component k =
      { q with clauses := Clauses.remove component q.engineScope q.clauses ++
          [⟨component, q.engineScope, k⟩] } := by
  unfold replaceComponent at h ⊢
  split at h
  case isTrue herror => simp [h] at herror
  case isFalse herror =>
    have hnone : q.error = none := by simpa using herror
    refine ⟨hnone, ?_⟩
    rw [if_neg herror]
    split at h
    case h_1 clauses hclauses =>
      dsimp only [Clauses.addOrReplace] at hclauses
      split at hclauses
      · exact nomatch hclauses
      · obtain rfl := Except.ok.inj hclauses
        rfl
    case h_2 e he => simp [fail, hnone] at h

/-- Pages stay in force when a clause is added in the scope of the query. -/
theorem Pageable.replaceComponent (hq : q.Pageable d) {component : Component} {k : ClauseKind σ}
    (h : (q.replaceComponent component k).error = none) :
    (q.replaceComponent component k).Pageable d := by
  rw [(replaceComponent_of_ok h).2]
  obtain hscope | ⟨hscope, hunscoped⟩ := hq
  · exact .inl hscope
  · refine .inr ⟨hscope, fun c hc hcomponent => ?_⟩
    obtain hc | hc := List.mem_append.mp hc
    · exact hunscoped c (List.mem_filter.mp hc).1 hcomponent
    · obtain rfl := List.mem_singleton.mp hc
      simp [hscope]

/-- A limit or an offset of the query is in force. -/
theorem pick?_replaceComponent (hq : q.Pageable d) {component : Component} {k : ClauseKind σ}
    (hcomponent : component = .limit ∨ component = .offset)
    (h : (q.replaceComponent component k).error = none) :
    Clauses.pick? component (some d) (q.replaceComponent component k).clauses =
      some ⟨component, q.engineScope, k⟩ := by
  rw [(replaceComponent_of_ok h).2]
  refine Clauses.pick?_replaced k (hq.imp_right fun hq => ⟨hq.1, fun c hc hsame => ?_⟩)
  exact hq.2 c hc (hsame ▸ hcomponent)

theorem pick?_replaceComponent_of_ne {component component' : Component} {k : ClauseKind σ}
    (hne : component ≠ component') (h : (q.replaceComponent component' k).error = none)
    (engine : Option Dialect) :
    Clauses.pick? component engine (q.replaceComponent component' k).clauses =
      Clauses.pick? component engine q.clauses := by
  rw [(replaceComponent_of_ok h).2]
  exact Clauses.pick?_replaced_of_ne k hne

theorem pagingFor_limit {n : UInt64} (hq : q.Pageable d) (h : (q.limit n).error = none) :
    (q.limit n).pagingFor d = ⟨n, (q.pagingFor d).offset⟩ := by
  simp only [pagingFor, limitFor, offsetFor, limit]
  rw [pick?_replaceComponent hq (.inl rfl) h, pick?_replaceComponent_of_ne (by decide) h]
  rfl

theorem pagingFor_offset {n : UInt64} (hq : q.Pageable d) (h : (q.offset n).error = none) :
    (q.offset n).pagingFor d = ⟨(q.pagingFor d).limit, n⟩ := by
  simp only [pagingFor, limitFor, offsetFor, offset]
  rw [pick?_replaceComponent hq (.inr rfl) h, pick?_replaceComponent_of_ne (by decide) h]
  rfl

/-- A page of the query sets its limit and its offset, unless the offset does not fit. -/
theorem forPage_of_ok {page perPage : UInt64} (hq : q.Pageable d)
    (h : (q.forPage page perPage).error = none) :
    (page.toNat - 1) * perPage.toNat < UInt64.size ∧
      (q.forPage page perPage).method = q.method ∧
      (q.forPage page perPage).pagingFor d =
        ⟨perPage, UInt64.ofNat ((page.toNat - 1) * perPage.toNat)⟩ := by
  unfold forPage at h ⊢
  dsimp only at h ⊢
  by_cases hfits : (page.toNat - 1) * perPage.toNat < UInt64.size
  · rw [if_pos hfits] at h ⊢
    obtain ⟨hoffset, hlimit⟩ := replaceComponent_of_ok h
    have hskipped : (q.offset (UInt64.ofNat ((page.toNat - 1) * perPage.toNat))).Pageable d :=
      hq.replaceComponent hoffset
    refine ⟨hfits, ?_, ?_⟩
    · rw [limit, hlimit, offset, (replaceComponent_of_ok hoffset).2]
    · rw [pagingFor_limit hskipped h, pagingFor_offset hq hoffset]
  · rw [if_neg hfits] at h
    simp [fail] at h

end QueryOver

end ForPage

/-! ## Windows one after another -/

/-- Windows of one length that follow one another make up the first rows. -/
theorem flatMap_windows {per : UInt64} (hper : per ≠ 0) {offset : Nat → UInt64} (k : Nat)
    (hoffset : ∀ j ∈ List.range' 1 k, (offset j).toNat = (j - 1) * per.toNat) (source : List α) :
    (List.range' 1 k).flatMap (fun j => Paging.window ⟨per, offset j⟩ source) =
      source.take (k * per.toNat) := by
  induction k with
  | zero => simp
  | succ k ih =>
    have hlast : k + 1 ∈ List.range' 1 (k + 1) := by simp
    have hinit : ∀ j ∈ List.range' 1 k, j ∈ List.range' 1 (k + 1) := by
      intro j hj
      simp only [List.mem_range'_1] at hj ⊢
      omega
    rw [List.range'_concat, List.flatMap_append, ih fun j hj => hoffset j (hinit j hj),
      List.flatMap_singleton, Paging.window_limit hper, Nat.one_mul, Nat.add_comm 1 k,
      hoffset _ hlast, Nat.add_sub_cancel, ← List.take_add, Nat.succ_mul]

/-- The pages of a query make up the first rows of a source. -/
theorem forPage_windows {perPage : UInt64} {k : Nat} (hmethod : q.method = .select)
    (hper : perPage ≠ 0) (hk : k < UInt64.size) (hq : q.Pageable t.dialect)
    (hcompile : ∀ j ∈ List.range' 1 k,
      ∃ c, compile t (q.forPage (UInt64.ofNat j) perPage) = .ok c)
    {source : List α} (hsource : source.length < UInt64.size - 1) :
    ∃ kept : Nat → List α,
      (∀ j ∈ List.range' 1 k, ∃ c, compile t (q.forPage (UInt64.ofNat j) perPage) = .ok c ∧
        c.Keeps t (q.forPage (UInt64.ofNat j) perPage) source (kept j)) ∧
      (List.range' 1 k).flatMap kept = source.take (k * perPage.toNat) ∧
      (source.Nodup → (List.range' 1 k).Pairwise fun i j => (kept i).Disjoint (kept j)) := by
  have hpage : ∀ j ∈ List.range' 1 k, (UInt64.ofNat j).toNat = j := by
    intro j hj
    rw [List.mem_range'_1] at hj
    exact UInt64.toNat_ofNat_of_lt' (by omega)
  let offset : Nat → UInt64 := fun j => UInt64.ofNat ((j - 1) * perPage.toNat)
  let kept : Nat → List α := fun j => Paging.window ⟨perPage, offset j⟩ source
  have hwhole : (List.range' 1 k).flatMap kept = source.take (k * perPage.toNat) := by
    refine flatMap_windows hper k (fun j hj => ?_) source
    obtain ⟨c, hc⟩ := hcompile j hj
    obtain ⟨hfits, -, -⟩ := QueryOver.forPage_of_ok hq (compile_eq_ok hc).1
    rw [hpage j hj] at hfits
    exact UInt64.toNat_ofNat_of_lt' hfits
  refine ⟨kept, fun j hj => ?_, hwhole, fun hnodup => ?_⟩
  · obtain ⟨c, hc⟩ := hcompile j hj
    obtain ⟨-, hselect, hpaging⟩ := QueryOver.forPage_of_ok hq (compile_eq_ok hc).1
    have hkeeps := compile_keeps (hselect.trans hmethod) hc hsource
    rw [hpaging, hpage j hj] at hkeeps
    exact ⟨c, hc, hkeeps⟩
  · have hrows : ((List.range' 1 k).flatMap kept).Nodup := by
      rw [hwhole]
      exact hnodup.sublist (List.take_sublist _ _)
    exact (List.nodup_flatMap.mp hrows).2

/-- **Windows.** A compiled select keeps exactly the rows of its window, with the paging of any
dialect, and has bound no row number that does not fit.  A compilation complains about the range of
a row number only for the limit and the offset of the query, or of a query that is selected inside
of it, and only if the style has to bind that number for these and it does not fit.  So the pages of
a query, where they are in force for the dialect, have no row in common and are together the first
rows of the source. -/
theorem compile_windows (t : Target) :
    (∀ (q : Query) (c : Compiled), q.method = .select → compile t q = .ok c →
      (∀ n ∈ Paging.rowNumbers t.pagination (q.pagingFor t.dialect), n < UInt64.size) ∧
      ∀ {α : Type} (source : List α), source.length < UInt64.size - 1 →
        c.Keeps t q source ((q.pagingFor t.dialect).window source)) ∧
    (∀ (q : Query) (e : Error), compile t q = .error e →
      q.error = some e ∨ e.Justified (Query.pagingUse t q)) ∧
    ∀ (q : Query) (perPage : UInt64) (k : Nat), q.method = .select → 1 ≤ perPage →
      k < UInt64.size → q.Pageable t.dialect →
      (∀ j ∈ List.range' 1 k, ∃ c, compile t (q.forPage (UInt64.ofNat j) perPage) = .ok c) →
      ∀ {α : Type} (source : List α), source.length < UInt64.size - 1 →
        ∃ kept : Nat → List α,
          (∀ j ∈ List.range' 1 k, ∃ c, compile t (q.forPage (UInt64.ofNat j) perPage) = .ok c ∧
            c.Keeps t (q.forPage (UInt64.ofNat j) perPage) source (kept j)) ∧
          (List.range' 1 k).flatMap kept = source.take (k * perPage.toNat) ∧
          (source.Nodup → (List.range' 1 k).Pairwise fun i j => (kept i).Disjoint (kept j)) := by
  refine ⟨fun q c hmethod hcompile => ⟨compile_rowNumbers hmethod hcompile, ?_⟩,
    fun q e hcompile => ?_, fun q perPage k hmethod hper hk hq hcompile => ?_⟩
  · intro α source hsource
    exact compile_keeps hmethod hcompile hsource
  · cases herror : q.error with
    | none => exact .inr (compile_justified herror hcompile)
    | some e' =>
      unfold compile at hcompile
      rw [herror] at hcompile
      exact .inl (congrArg some (Except.error.inj hcompile))
  · intro α source hsource
    have hne : perPage ≠ 0 := by
      rintro rfl
      exact absurd hper (by decide)
    exact forPage_windows hmethod hne hk hq hcompile hsource

/-- The pages of an ordered select on the dialect with numbers of first and last rows, and a page
after the last row with a number that fits. -/
theorem compile_windows_rowsTo :
    let t : Target := { dialect := .firebird }
    let q : Query :=
      { clauses :=
          [⟨.source, none, .source (.table "users")⟩,
            ⟨.order, none, .order (.column "name" true)⟩] }
    let beyond : Query := (q.limit 10).offset 18446744073709551615
    let source : List Nat := List.range 25
    (∃ c, compile t (q.forPage 2 10) = .ok c ∧ c.bindings.map Value.display = ["11", "20"] ∧
      c.Keeps t (q.forPage 2 10) source (List.range' 10 10)) ∧
    (∃ e, compile t beyond = .error e ∧ e.Justified (Query.pagingUse t beyond)) ∧
    ∃ kept : Nat → List Nat,
      (∀ j ∈ List.range' 1 3, ∃ c, compile t (q.forPage (UInt64.ofNat j) 10) = .ok c ∧
        c.Keeps t (q.forPage (UInt64.ofNat j) 10) source (kept j)) ∧
      (List.range' 1 3).flatMap kept = source ∧
      (List.range' 1 3).Pairwise fun i j => (kept i).Disjoint (kept j) := by
  intro t q beyond source
  have hcompile : ∀ j ∈ List.range' 1 3,
      ∃ c, compile t (q.forPage (UInt64.ofNat j) 10) = .ok c := by
    have hsome : ∀ j ∈ List.range' 1 3,
        (compile t (q.forPage (UInt64.ofNat j) 10)).isOk = true := by
      decide +kernel
    intro j hj
    cases hc : compile t (q.forPage (UInt64.ofNat j) 10) with
    | ok c => exact ⟨c, rfl⟩
    | error e => exact absurd (hc ▸ hsome j hj) (by simp [Except.isOk, Except.toBool])
  have hbindings : (compile t (q.forPage 2 10)).toOption.map (·.bindings.map Value.display) =
      some ["11", "20"] := by
    decide +kernel
  have hbeyond : failure? t beyond = some (.offsetOutOfRange 18446744073709551615) := by
    decide +kernel
  refine ⟨?_, ⟨_, compile_of_failure? hbeyond, ?_⟩, ?_⟩
  · obtain ⟨c, hc⟩ := hcompile 2 (by decide)
    have hc : compile t (q.forPage 2 10) = .ok c := hc
    rw [hc] at hbindings
    have hkeeps := ((compile_windows t).1 (q.forPage 2 10) c rfl hc).2 source (by decide)
    have hwindow : ((q.forPage 2 10).pagingFor t.dialect).window source = List.range' 10 10 := by
      decide +kernel
    rw [hwindow] at hkeeps
    exact ⟨c, hc, Option.some.inj hbindings, hkeeps⟩
  · exact ((compile_windows t).2.1 beyond _ (compile_of_failure? hbeyond)).resolve_left
      (Option.some_ne_none _).symm
  · obtain ⟨kept, hkept, hwhole, hdisjoint⟩ :=
      (compile_windows t).2.2 q 10 3 rfl (by decide) (by decide) (by decide) hcompile source
        (by decide)
    exact ⟨kept, hkept, hwhole, hdisjoint List.nodup_range⟩

/-- With a limit that is scoped to the dialect the pages of a query leave out rows: the limit of the
pages is not in force there. -/
theorem forPage_scopedLimit :
    let t : Target := { dialect := .mySql }
    let q : Query := (({} : Query).fromTable "t").forEngine .mySql (·.limit 5)
    q.error = none ∧ q.method = .select ∧
    ∃ c₁ c₂, compile t (q.forPage 1 10) = .ok c₁ ∧ compile t (q.forPage 2 10) = .ok c₂ ∧
      c₂.rawSql = "SELECT * FROM `t` LIMIT ? OFFSET ?" ∧
      c₂.bindings.map Value.display = ["5", "10"] ∧
      ∀ kept₁ kept₂, c₁.Keeps t (q.forPage 1 10) (List.range 30) kept₁ →
        c₂.Keeps t (q.forPage 2 10) (List.range 30) kept₂ →
        kept₁ ++ kept₂ ≠ (List.range 30).take (2 * 10) := by
  intro t q
  have hsome₁ : (compile t (q.forPage 1 10)).isOk = true := by decide +kernel
  have hsome₂ : (compile t (q.forPage 2 10)).toOption.map
      (fun c => (c.rawSql, c.bindings.map Value.display)) =
        some ("SELECT * FROM `t` LIMIT ? OFFSET ?", ["5", "10"]) := by
    decide +kernel
  refine ⟨rfl, rfl, ?_⟩
  cases hc₁ : compile t (q.forPage 1 10) with
  | error e =>
    rw [hc₁] at hsome₁
    exact absurd hsome₁ (by simp [Except.isOk, Except.toBool])
  | ok c₁ =>
    cases hc₂ : compile t (q.forPage 2 10) with
    | error e =>
      rw [hc₂] at hsome₂
      exact absurd hsome₂ (by simp [Except.toOption])
    | ok c₂ =>
      rw [hc₂] at hsome₂
      obtain ⟨hsql, hbindings⟩ := Prod.mk.inj (Option.some.inj hsome₂)
      refine ⟨c₁, c₂, rfl, rfl, hsql, hbindings, fun kept₁ kept₂ hkept₁ hkept₂ => ?_⟩
      have hwindow₁ : c₁.Keeps t (q.forPage 1 10) (List.range 30) _ :=
        compile_keeps rfl hc₁ (by decide)
      have hwindow₂ : c₂.Keeps t (q.forPage 2 10) (List.range 30) _ :=
        compile_keeps rfl hc₂ (by decide)
      rw [hkept₁.unique hwindow₁, hkept₂.unique hwindow₂]
      decide +kernel

end SqlBuilder
