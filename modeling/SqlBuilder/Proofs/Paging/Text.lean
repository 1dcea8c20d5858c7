import SqlBuilder.Proofs.Compile
import SqlBuilder.Proofs.Paging.Clause

/-!
# The text of a select around its paging

A select is the texts of its sections in a fixed order, and its paging goes in between.
`SelectText` holds the texts of the sections with the values bound in them, `SelectText.Spells` says
that they are what the renderers of the sections come to, and `SelectText.paged` is the select with
a paging clause at its place.

A select that is rendered has such texts (`renderSections_spelled`), and the texts with the clause
of its paging are what it is rendered to (`renderSections_paged`).
-/

namespace SqlBuilder

/-! ## Texts with their values -/

/-- A text with the values of its placeholders. -/
structure Written where
  text : String
  bindings : List Value := []

namespace Written

instance : Append Written where
  append w w' := ⟨w.text ++ w'.text, w.bindings ++ w'.bindings⟩

@[simp] theorem text_append (w w' : Written) : (w ++ w').text = w.text ++ w'.text := rfl

@[simp] theorem bindings_append (w w' : Written) :
    (w ++ w').bindings = w.bindings ++ w'.bindings := rfl

theorem ext {w w' : Written} (htext : w.text = w'.text)
    (hbindings : w.bindings = w'.bindings) : w = w' := by
  cases w
  cases w'
  simp_all

theorem append_assoc (w w' w'' : Written) : w ++ w' ++ w'' = w ++ (w' ++ w'') :=
  Written.ext (String.append_assoc ..) (List.append_assoc ..)

/-- A section after others, with the space before it; a section without a text is left out. -/
def after (w : Written) : Written :=
  ⟨if w.text.isEmpty then "" else " " ++ w.text, w.bindings⟩

/-- A section before others, with the space after it; a section without a text is left out. -/
def leading (w : Written) : Written :=
  ⟨if w.text.isEmpty then "" else w.text ++ " ", w.bindings⟩

end Written

/-- The part is rendered to the text and binds the values. -/
def Emit.Writes (x : Emit String) (w : Written) : Prop :=
  x = ⟨w.bindings, .ok w.text⟩

namespace Emit

variable {α β : Type}

theorem bind_mk (bs : List Value) (a : α) (f : α → Emit β) :
    ((⟨bs, .ok a⟩ : Emit α) >>= f) = ⟨bs ++ (f a).bindings, (f a).outcome⟩ := rfl

theorem eq_of_outcome {x : Emit α} {a : α} (h : x.outcome = .ok a) : x = ⟨x.bindings, .ok a⟩ := by
  cases x
  exact congrArg _ h

theorem writes_of_outcome {x : Emit String} {s : String} (h : x.outcome = .ok s) :
    x.Writes ⟨s, x.bindings⟩ :=
  eq_of_outcome h

/-- A sequence has a result when its parts have one. -/
theorem of_bind_ok {x : Emit α} {f : α → Emit β} {b : β} (h : (x >>= f).outcome = .ok b) :
    ∃ a, x.outcome = .ok a ∧ (f a).outcome = .ok b := by
  cases hx : x.outcome with
  | error e =>
    rw [bind_of_error hx] at h
    exact nomatch h
  | ok a =>
    rw [bind_of_ok hx] at h
    exact ⟨a, rfl, h⟩

/-- What is captured is a result with its bindings. -/
theorem of_capture_ok {x : Emit α} {a : α} {bs : List Value} (h : x.capture.outcome = .ok (a, bs)) :
    x = ⟨bs, .ok a⟩ := by
  obtain ⟨bindings, outcome⟩ := x
  cases outcome with
  | error e => exact nomatch h
  | ok a' =>
    obtain ⟨rfl, rfl⟩ := Prod.mk.inj (Except.ok.inj h)
    rfl

end Emit

/-! ## Sections in their order -/

/-- Sections after a first one that is not empty, each with the space before it. -/
theorem joinSections_cons {first : String} (h : first.isEmpty = false) (rest : List String) :
    joinSections (first :: rest) =
      first ++ String.join (rest.map fun s => if s.isEmpty then "" else " " ++ s) := by
  induction rest generalizing first with
  | nil => simp [joinSections, h]
  | cons s rest ih =>
    by_cases hs : s.isEmpty
    · have hskip : joinSections (first :: s :: rest) = joinSections (first :: rest) := by
        simp [joinSections, h, hs]
      rw [hskip, ih h, List.map_cons, String.join_cons, if_pos hs, String.empty_append]
    · have hs : s.isEmpty = false := Bool.eq_false_iff.mpr hs
      have htake : joinSections (first :: s :: rest) = first ++ " " ++ joinSections (s :: rest) := by
        simp [joinSections, h, hs]
      have hword : ¬(s.isEmpty = true) := Bool.eq_false_iff.mp hs
      rw [htake, ih hs, List.map_cons, String.join_cons, if_neg hword]
      simp only [String.append_assoc]

/-- The texts of the sections of a select, with the values bound in them. -/
structure SelectText where
  distinct : String
  list : Written
  source : Written
  joins : Written
  filters : Written
  groups : Written
  havings : Written
  orders : Written
  combines : Written
  lock : Written

namespace SelectText

variable (w : SelectText)

/-- The text before a place. -/
def before : PagingPlace → Written
  | .afterSelect => ⟨"SELECT ", []⟩
  | .afterDistinct => ⟨"SELECT " ++ w.distinct, []⟩
  | .afterOrders =>
    ⟨"SELECT " ++ w.distinct, []⟩ ++ w.list ++ w.source.after ++ w.joins.after ++ w.filters.after ++
      w.groups.after ++ w.havings.after ++ w.orders.after

/-- The text after a place. -/
def rest : PagingPlace → Written
  | .afterSelect =>
    ⟨w.distinct, []⟩ ++ w.list ++ w.source.after ++ w.joins.after ++ w.filters.after ++
      w.groups.after ++ w.havings.after ++ w.orders.after ++ w.combines.after ++ w.lock.after
  | .afterDistinct =>
    w.list ++ w.source.after ++ w.joins.after ++ w.filters.after ++ w.groups.after ++
      w.havings.after ++ w.orders.after ++ w.combines.after ++ w.lock.after
  | .afterOrders => w.combines.after ++ w.lock.after

/-- The whole select. -/
def whole : Written :=
  w.before .afterOrders ++ w.rest .afterOrders

/-- Every place cuts the select into the text before it and the text after it. -/
theorem before_rest (place : PagingPlace) : w.before place ++ w.rest place = w.whole := by
  unfold whole
  cases place with
  | afterOrders => rfl
  | afterDistinct =>
    simp only [before, rest, Written.append_assoc]
  | afterSelect =>
    have hword : (⟨"SELECT ", []⟩ ++ ⟨w.distinct, []⟩ : Written) = ⟨"SELECT " ++ w.distinct, []⟩ :=
      rfl
    simp only [before, rest, Written.append_assoc, ← hword]

/-- The texts are what the sections of a select are rendered to. -/
structure Spells (t : Target) (env : Env) (s : Sections Rendered) : Prop where
  distinct : w.distinct = if s.distinct && s.listsColumns then "DISTINCT " else ""
  list : (renderSelectList t env s).Writes w.list
  source : (renderSource t env s).Writes w.source
  joins : (renderJoins t env s).Writes w.joins
  filters : (renderFilters t env s).Writes w.filters
  groups : (renderGroups t env s).Writes w.groups
  havings : (renderHavings t env s).Writes w.havings
  orders : (renderOrders t env s).Writes w.orders
  combines : (renderCombines t env s).Writes w.combines
  lock : (renderLock t s).Writes w.lock

end SelectText

namespace PagingClause

/-- A clause that is written inside of a select, as it is put in at its place. -/
def inserted (c : PagingClause) : Written :=
  if c.place? = some .afterOrders then (Written.mk c.words c.values).after else ⟨c.words, c.values⟩

end PagingClause

namespace SelectText

/-- The select with a paging clause, inside of it or around it. -/
def paged (d : Dialect) (w : SelectText) (c : PagingClause) : Written :=
  match c.place? with
  | some place => w.before place ++ c.inserted ++ w.rest place
  | none => ⟨c.around d w.whole.text, w.whole.bindings ++ c.values⟩

end SelectText

variable {t : Target} {env : Env} {s : Sections Rendered} {w : SelectText} {c : PagingClause}

/-- A select that is rendered is rendered section by section, and so is its paging. -/
theorem renderSections_spelled {sql : String} (h : (renderSections t env s).outcome = .ok sql) :
    ∃ w : SelectText, w.Spells t env s ∧
      ∃ words rest page, (Paging.head t.pagination ⟨s.limit, s.offset⟩).outcome = .ok (words, rest) ∧
        (rest.tail t.pagination s.hasOrders).outcome = .ok page := by
  unfold renderSections at h
  obtain ⟨⟨head, paging⟩, hhead, h⟩ := Emit.of_bind_ok h
  obtain ⟨source, hsource, h⟩ := Emit.of_bind_ok h
  obtain ⟨joins, hjoins, h⟩ := Emit.of_bind_ok h
  obtain ⟨filters, hfilters, h⟩ := Emit.of_bind_ok h
  obtain ⟨groups, hgroups, h⟩ := Emit.of_bind_ok h
  obtain ⟨havings, hhavings, h⟩ := Emit.of_bind_ok h
  obtain ⟨orders, horders, h⟩ := Emit.of_bind_ok h
  obtain ⟨page, hpage, h⟩ := Emit.of_bind_ok h
  obtain ⟨combines, hcombines, h⟩ := Emit.of_bind_ok h
  obtain ⟨lock, hlock, -⟩ := Emit.of_bind_ok h
  unfold renderHead at hhead
  obtain ⟨⟨words, rest⟩, hwords, hhead⟩ := Emit.of_bind_ok hhead
  obtain ⟨list, hlist, hhead⟩ := Emit.of_bind_ok hhead
  obtain rfl : rest = paging := (Prod.mk.inj (Except.ok.inj hhead)).2
  let w : SelectText :=
    { distinct := if s.distinct && s.listsColumns then "DISTINCT " else ""
      list := ⟨list, (renderSelectList t env s).bindings⟩
      source := ⟨source, (renderSource t env s).bindings⟩
      joins := ⟨joins, (renderJoins t env s).bindings⟩
      filters := ⟨filters, (renderFilters t env s).bindings⟩
      groups := ⟨groups, (renderGroups t env s).bindings⟩
      havings := ⟨havings, (renderHavings t env s).bindings⟩
      orders := ⟨orders, (renderOrders t env s).bindings⟩
      combines := ⟨combines, (renderCombines t env s).bindings⟩
      lock := ⟨lock, (renderLock t s).bindings⟩ }
  refine ⟨w, ?_, words, rest, page, hwords, hpage⟩
  exact
    { distinct := rfl
      list := Emit.writes_of_outcome hlist
      source := Emit.writes_of_outcome hsource
      joins := Emit.writes_of_outcome hjoins
      filters := Emit.writes_of_outcome hfilters
      groups := Emit.writes_of_outcome hgroups
      havings := Emit.writes_of_outcome hhavings
      orders := Emit.writes_of_outcome horders
      combines := Emit.writes_of_outcome hcombines
      lock := Emit.writes_of_outcome hlock }

/-- The sections in their order, with the words of a clause wherever it is written. -/
theorem joinSections_paged (hplace : c.place? ≠ none) :
    joinSections
        ["SELECT " ++ c.wordsAt .afterSelect ++ w.distinct ++ c.wordsAt .afterDistinct ++
            w.list.text,
          w.source.text, w.joins.text, w.filters.text, w.groups.text, w.havings.text,
          w.orders.text, c.wordsAt .afterOrders, w.combines.text, w.lock.text] =
      (w.paged t.dialect c).text := by
  have hhead : ∀ s : String, ("SELECT " ++ s).isEmpty = false := fun s => by simp
  rw [String.append_assoc, String.append_assoc, String.append_assoc, joinSections_cons (hhead _)]
  unfold SelectText.paged PagingClause.inserted PagingClause.wordsAt
  cases hc : c.place? with
  | none => exact absurd hc hplace
  | some place =>
    cases place <;>
      simp [SelectText.before, SelectText.rest, Written.after, String.append_assoc]

theorem bindings_paged (hplace : c.place? ≠ none) :
    c.valuesAt .afterSelect ++ c.valuesAt .afterDistinct ++ w.list.bindings ++
        w.source.bindings ++ w.joins.bindings ++ w.filters.bindings ++ w.groups.bindings ++
        w.havings.bindings ++ w.orders.bindings ++ c.valuesAt .afterOrders ++
        w.combines.bindings ++ w.lock.bindings =
      (w.paged t.dialect c).bindings := by
  unfold SelectText.paged PagingClause.inserted PagingClause.valuesAt
  cases hc : c.place? with
  | none => exact absurd hc hplace
  | some place =>
    cases place <;> simp [SelectText.before, SelectText.rest, Written.after]

/-- A select with a paging clause inside of it is its sections with the clause at its place. -/
theorem renderSections_paged (hw : w.Spells t env s) (hplace : c.place? ≠ none)
    (hc : Paging.WritesInside t.pagination s.hasOrders ⟨s.limit, s.offset⟩ c) :
    (renderSections t env s).Writes (w.paged t.dialect c) := by
  obtain ⟨rest, hhead, htail⟩ := hc
  unfold Emit.Writes renderSections renderHead
  rw [hhead, hw.list, hw.source, hw.joins, hw.filters, hw.groups, hw.havings, hw.orders,
    hw.combines, hw.lock, ← hw.distinct]
  simp only [Emit.bind_mk, Emit.bindings_pure, Emit.outcome_pure]
  rw [htail, ← bindings_paged hplace, ← joinSections_paged hplace]
  simp only [Emit.bind_mk, List.append_assoc, List.append_nil]

/-! ## Selects with their paging -/

theorem SelectText.paged_all (d : Dialect) (w : SelectText) : w.paged d .all = w.whole := by
  have hnone : PagingClause.all.inserted = ⟨"", []⟩ := rfl
  change w.before .afterOrders ++ PagingClause.all.inserted ++ w.rest .afterOrders = _
  rw [hnone]
  unfold SelectText.whole
  apply Written.ext <;> simp

theorem SelectText.paged_around (hplace : c.place? = none) (d : Dialect) (w : SelectText) :
    w.paged d c = ⟨c.around d w.whole.text, w.whole.bindings ++ c.values⟩ := by
  unfold SelectText.paged
  rw [hplace]

/-- A select without paging is the texts of its sections. -/
theorem renderSections_whole (hw : w.Spells t env s) (hlimit : s.limit = 0)
    (hoffset : s.offset = 0) : (renderSections t env s).Writes w.whole := by
  rw [← SelectText.paged_all t.dialect w]
  refine renderSections_paged hw (by decide) ?_
  rw [hlimit, hoffset]
  exact Paging.writesInside_none

/-- Paging is not looked at by the renderers of the other sections. -/
theorem SelectText.Spells.unpaged (hw : w.Spells t env s) : w.Spells t env s.unpaged :=
  ⟨hw.distinct, hw.list, hw.source, hw.joins, hw.filters, hw.groups, hw.havings, hw.orders,
    hw.combines, hw.lock⟩

theorem SelectText.Spells.ofUnpaged (hw : w.Spells t env s.unpaged) : w.Spells t env s :=
  ⟨hw.distinct, hw.list, hw.source, hw.joins, hw.filters, hw.groups, hw.havings, hw.orders,
    hw.combines, hw.lock⟩

/-- The select whose rows the paging clause of a select counts: the select itself, or in the older
style with row numbers the one that has them in a column. -/
def Sections.Counted (t : Target) (env : Env) (s rows : Sections Rendered) : Prop :=
  if t.pagination = .topRowNumber ∧ s.offset ≠ 0 then numberedRows t env s = pure rows
  else rows = s

/-- A select whose rows are numbered in a column has no paging and binds nothing by itself. -/
theorem numberedRows_of_outcome {rows : Sections Rendered}
    (h : (numberedRows t env s).outcome = .ok rows) :
    numberedRows t env s = pure rows ∧ rows.limit = 0 ∧ rows.offset = 0 := by
  obtain ⟨⟨orders, bindings⟩, horders, hrows⟩ := Emit.of_bind_ok h
  obtain rfl := Except.ok.inj hrows
  refine ⟨?_, rfl, rfl⟩
  unfold numberedRows
  rw [Emit.of_capture_ok horders]
  rfl

/-- The select `s` is rendered, with the clause of its paging at its place or around it. -/
def Sections.Pages (t : Target) (env : Env) (s : Sections Rendered) : Prop :=
  ∃ (rows : Sections Rendered) (w : SelectText) (c : PagingClause),
    s.Counted t env rows ∧ w.Spells t env rows ∧
      Paging.clause t.pagination s.hasOrders ⟨s.limit, s.offset⟩ = .ok c ∧
      (renderPlain t env s).Writes (w.paged t.dialect c)

/-- Without paging around it, a select is rendered section by section. -/
theorem renderPlain_eq_renderSections (hnumbered : ¬(t.pagination = .topRowNumber ∧ s.offset ≠ 0))
    (hcounted : ¬(t.pagination = .rowCount ∧ ¬(s.limit = 0 ∧ s.offset = 0))) :
    renderPlain t env s = renderSections t env s := by
  unfold renderPlain
  cases hstyle : t.pagination with
  | topRowNumber =>
    have hzero : ¬(0 < s.offset) := fun hpos =>
      hnumbered ⟨hstyle, UInt64.pos_iff_ne_zero.mp hpos⟩
    exact if_neg hzero
  | rowCount =>
    have hzero : ¬(0 < s.limit ∨ 0 < s.offset) := by
      rintro (hpos | hpos)
      · exact hcounted ⟨hstyle, fun h => UInt64.pos_iff_ne_zero.mp hpos h.1⟩
      · exact hcounted ⟨hstyle, fun h => UInt64.pos_iff_ne_zero.mp hpos h.2⟩
    exact if_neg hzero
  | limitOffset _ | offsetFetch _ | firstSkip => rfl

/-- A select whose counted rows have the texts, and whose paging has the clause, is rendered to the
texts with the clause. -/
theorem renderPlain_paged {rows : Sections Rendered} (hcounted : s.Counted t env rows)
    (hw : w.Spells t env rows)
    (hc : Paging.clause t.pagination s.hasOrders ⟨s.limit, s.offset⟩ = .ok c) :
    (renderPlain t env s).Writes (w.paged t.dialect c) := by
  by_cases hplace : c.place? = none
  · obtain ⟨hstyle, hoffset⟩ | ⟨hstyle, hsome⟩ := (Paging.place?_eq_none_iff _ _ hc).mp hplace
    · unfold Sections.Counted at hcounted
      rw [if_pos ⟨hstyle, hoffset⟩] at hcounted
      obtain ⟨-, hlimit₀, hoffset₀⟩ := numberedRows_of_outcome (congrArg Emit.outcome hcounted)
      unfold renderPlain
      rw [hstyle] at hc ⊢
      dsimp only
      rw [if_pos (UInt64.pos_iff_ne_zero.mpr hoffset), hcounted, pure_bind,
        renderSections_whole hw hlimit₀ hoffset₀, SelectText.paged_around hplace, Emit.bind_mk,
        Paging.wrapRowNumber_of_ok hoffset hc]
      rfl
    · have hnumbered : ¬(t.pagination = .topRowNumber ∧ s.offset ≠ 0) :=
        fun h => nomatch hstyle.symm.trans h.1
      unfold Sections.Counted at hcounted
      rw [if_neg hnumbered] at hcounted
      obtain rfl := hcounted
      have hpos : 0 < rows.limit ∨ 0 < rows.offset := by
        rw [UInt64.pos_iff_ne_zero, UInt64.pos_iff_ne_zero]
        exact Decidable.not_and_iff_or_not.mp hsome
      unfold renderPlain
      rw [hstyle] at hc ⊢
      dsimp only
      rw [if_pos hpos, renderSections_whole hw.unpaged rfl rfl, SelectText.paged_around hplace,
        Emit.bind_mk, Paging.wrapRowCount_of_ok hsome hc]
      rfl
  · obtain ⟨hnumbered, haround⟩ := not_or.mp (mt (Paging.place?_eq_none_iff _ _ hc).mpr hplace)
    unfold Sections.Counted at hcounted
    rw [if_neg hnumbered] at hcounted
    obtain rfl := hcounted
    rw [renderPlain_eq_renderSections hnumbered haround]
    exact renderSections_paged hw hplace (Paging.writesInside hc hplace)

/-- An offset in the older style with row numbers. -/
theorem renderPlain_numbered (hstyle : t.pagination = .topRowNumber) (hoffset : s.offset ≠ 0)
    {sql : String} (h : (renderPlain t env s).outcome = .ok sql) : s.Pages t env := by
  have hpos : 0 < s.offset := UInt64.pos_iff_ne_zero.mpr hoffset
  have hplain : renderPlain t env s =
      numberedRows t env s >>= fun numbered => renderSections t env numbered >>= fun body =>
        wrapRowNumber t.dialect ⟨s.limit, s.offset⟩ body := by
    unfold renderPlain
    rw [hstyle]
    exact if_pos hpos
  rw [hplain] at h
  obtain ⟨rows, hrows, h⟩ := Emit.of_bind_ok h
  obtain ⟨hpure, -, -⟩ := numberedRows_of_outcome hrows
  obtain ⟨body, hbody, hwrap⟩ := Emit.of_bind_ok h
  obtain ⟨w, hw, -⟩ := renderSections_spelled hbody
  have hcounted : s.Counted t env rows := by
    unfold Sections.Counted
    rwa [if_pos ⟨hstyle, hoffset⟩]
  cases hc : Paging.clause t.pagination s.hasOrders ⟨s.limit, s.offset⟩ with
  | error e =>
    rw [hstyle] at hc
    rw [Paging.wrapRowNumber_of_error hoffset hc] at hwrap
    exact nomatch hwrap
  | ok c => exact ⟨rows, w, c, hcounted, hw, hc, renderPlain_paged hcounted hw hc⟩

theorem Sections.counted_self (hnumbered : ¬(t.pagination = .topRowNumber ∧ s.offset ≠ 0)) :
    s.Counted t env s := by
  unfold Sections.Counted
  rw [if_neg hnumbered]

/-- Paging in the style that counts rows around a select. -/
theorem renderPlain_counted (hstyle : t.pagination = .rowCount)
    (hsome : ¬(s.limit = 0 ∧ s.offset = 0)) {sql : String}
    (h : (renderPlain t env s).outcome = .ok sql) : s.Pages t env := by
  have hpos : 0 < s.limit ∨ 0 < s.offset := by
    rw [UInt64.pos_iff_ne_zero, UInt64.pos_iff_ne_zero]
    exact Decidable.not_and_iff_or_not.mp hsome
  have hplain : renderPlain t env s =
      renderSections t env s.unpaged >>= fun body =>
        wrapRowCount t.dialect ⟨s.limit, s.offset⟩ body := by
    unfold renderPlain
    rw [hstyle]
    exact if_pos hpos
  rw [hplain] at h
  obtain ⟨body, hbody, hwrap⟩ := Emit.of_bind_ok h
  obtain ⟨w, hw, -⟩ := renderSections_spelled hbody
  have hcounted : s.Counted t env s :=
    Sections.counted_self fun hnumbered => nomatch hstyle.symm.trans hnumbered.1
  cases hc : Paging.clause t.pagination s.hasOrders ⟨s.limit, s.offset⟩ with
  | error e =>
    rw [hstyle] at hc
    rw [Paging.wrapRowCount_of_error hc] at hwrap
    exact nomatch hwrap
  | ok c => exact ⟨s, w, c, hcounted, hw.ofUnpaged, hc, renderPlain_paged hcounted hw.ofUnpaged hc⟩

/-- Paging that goes inside of a select, or none at all. -/
theorem renderPlain_inside (hnumbered : ¬(t.pagination = .topRowNumber ∧ s.offset ≠ 0))
    (haround : ¬(t.pagination = .rowCount ∧ ¬(s.limit = 0 ∧ s.offset = 0))) {sql : String}
    (h : (renderPlain t env s).outcome = .ok sql) : s.Pages t env := by
  rw [renderPlain_eq_renderSections hnumbered haround] at h
  obtain ⟨w, hw, words, rest, page, hhead, htail⟩ := renderSections_spelled h
  have hcounted : s.Counted t env s := Sections.counted_self hnumbered
  cases hc : Paging.clause t.pagination s.hasOrders ⟨s.limit, s.offset⟩ with
  | error e =>
    have hoffset := Paging.offset_ne_zero_of_error _ _ hc
    have hstyle : t.pagination ≠ .topRowNumber := fun h => hnumbered ⟨h, hoffset⟩
    have hstyle' : t.pagination ≠ .rowCount := fun h => haround ⟨h, fun h => hoffset h.2⟩
    obtain ⟨hhead', htail'⟩ := Paging.tail_of_error hc hstyle hstyle'
    rw [hhead'] at hhead
    obtain ⟨-, rfl⟩ := Prod.mk.inj (Except.ok.inj hhead)
    rw [htail'] at htail
    exact nomatch htail
  | ok c => exact ⟨s, w, c, hcounted, hw, hc, renderPlain_paged hcounted hw hc⟩

/-- **Selects with paging.** A select that is rendered is the texts of its sections with the clause
of its paging, at its place or around them. -/
theorem renderPlain_pages {sql : String} (h : (renderPlain t env s).outcome = .ok sql) :
    s.Pages t env := by
  by_cases hnumbered : t.pagination = .topRowNumber ∧ s.offset ≠ 0
  · exact renderPlain_numbered hnumbered.1 hnumbered.2 h
  · by_cases hcounted : t.pagination = .rowCount ∧ ¬(s.limit = 0 ∧ s.offset = 0)
    · exact renderPlain_counted hcounted.1 hcounted.2 h
    · exact renderPlain_inside hnumbered hcounted h

/-! ## Statements with their paging -/

theorem Emit.Writes.unique {x : Emit String} {w w' : Written} (h : x.Writes w)
    (h' : x.Writes w') : w = w' := by
  have heq := h.symm.trans h'
  simp only [Emit.mk.injEq, Except.ok.injEq] at heq
  exact Written.ext heq.2 heq.1

/-- The texts of the sections are determined. -/
theorem SelectText.Spells.unique {w' : SelectText} (h : w.Spells t env s)
    (h' : w'.Spells t env s) : w = w' := by
  cases w
  cases w'
  simp only [SelectText.mk.injEq]
  exact ⟨h.distinct.trans h'.distinct.symm, h.list.unique h'.list, h.source.unique h'.source,
    h.joins.unique h'.joins, h.filters.unique h'.filters, h.groups.unique h'.groups,
    h.havings.unique h'.havings, h.orders.unique h'.orders, h.combines.unique h'.combines,
    h.lock.unique h'.lock⟩

/-- A select with its paging is not empty. -/
theorem SelectText.paged_isEmpty (d : Dialect) (w : SelectText) (c : PagingClause) :
    (w.paged d c).text.isEmpty = false := by
  have hwhole : w.whole.text.isEmpty = false := by
    simp [SelectText.whole, SelectText.before]
  unfold SelectText.paged
  cases hplace : c.place? with
  | some place => cases place <;> simp [SelectText.before]
  | none =>
    dsimp only
    unfold PagingClause.around
    split <;> simp [hwhole]

/-- A statement is its prologue before its body. -/
theorem joinSections_prologue (prologue : Written) {body : String} (h : body.isEmpty = false) :
    joinSections [prologue.text, body] = prologue.leading.text ++ body := by
  by_cases hp : prologue.text.isEmpty
  · simp [joinSections, Written.leading, hp, h]
  · simp [joinSections, Written.leading, hp, h, String.append_assoc]

/-- A select or an aggregate is rendered after its prologue. -/
theorem renderMethod_body (hmethod : s.method = .select ∨ s.method = .aggregate) :
    renderMethod t {} s =
      renderPrologue t (Env.enterStatement t {} s) (s.hoistedCtes t) >>= fun prologue =>
        renderBody t (Env.enterStatement t {} s) s >>= fun body =>
          pure (joinSections [prologue, body]) := by
  unfold renderMethod renderStatement renderData
  obtain hselect | haggregate := hmethod
  · rw [hselect]
  · rw [haggregate]

/-- A compiled select or aggregate is its prologue before its body. -/
theorem compile_statement {q : Query} {compiled : Compiled}
    (hmethod : q.method = .select ∨ q.method = .aggregate) (hcompile : compile t q = .ok compiled) :
    ∃ (prologue : Written) (sql : String),
      (renderPrologue t (Env.enterStatement t {} (q.sections t))
        ((q.sections t).hoistedCtes t)).Writes prologue ∧
      (renderBody t (Env.enterStatement t {} (q.sections t)) (q.sections t)).outcome = .ok sql ∧
      ∀ body : Written,
        (renderBody t (Env.enterStatement t {} (q.sections t)) (q.sections t)).Writes body →
        body.text.isEmpty = false →
        (⟨compiled.rawSql, compiled.bindings⟩ : Written) = prologue.leading ++ body := by
  obtain ⟨-, houtcome, hbindings, -⟩ := compile_eq_ok hcompile
  have hmethod : (q.sections t).method = .select ∨ (q.sections t).method = .aggregate := hmethod
  rw [renderMethod_body hmethod] at houtcome hbindings
  obtain ⟨text, htext, hrest⟩ := Emit.of_bind_ok houtcome
  obtain ⟨sql, hsql, -⟩ := Emit.of_bind_ok hrest
  obtain ⟨prologue, hprologue⟩ : ∃ prologue, (renderPrologue t
      (Env.enterStatement t {} (q.sections t)) ((q.sections t).hoistedCtes t)).Writes prologue :=
    ⟨_, Emit.writes_of_outcome htext⟩
  refine ⟨prologue, sql, hprologue, hsql, fun body hbody hnonempty => ?_⟩
  rw [hprologue, hbody] at houtcome hbindings
  have htext := joinSections_prologue prologue hnonempty
  apply Written.ext
  · exact (Except.ok.inj houtcome).symm.trans htext
  · simp only [Emit.bind_mk, Emit.bindings_pure, List.append_nil] at hbindings
    exact hbindings.symm

/-- What a select or an aggregate compiles to if it is rendered. -/
theorem compile_of_writes {q : Query} (herror : q.error = none)
    (hmethod : q.method = .select ∨ q.method = .aggregate) {prologue body : Written}
    (hprologue : (renderPrologue t (Env.enterStatement t {} (q.sections t))
      ((q.sections t).hoistedCtes t)).Writes prologue)
    (hbody : (renderBody t (Env.enterStatement t {} (q.sections t)) (q.sections t)).Writes body)
    (hnonempty : body.text.isEmpty = false) :
    compile t q =
      bind (prologue.leading ++ body).text (prologue.leading ++ body).bindings t.paramStyle := by
  have hmethod : (q.sections t).method = .select ∨ (q.sections t).method = .aggregate := hmethod
  unfold compile
  rw [herror, renderMethod_body hmethod, hprologue, hbody]
  simp only [Emit.bind_mk, Emit.bindings_pure, Emit.outcome_pure, List.append_nil,
    joinSections_prologue prologue hnonempty]
  rfl

/-- **Statements with paging.** A compiled select is its prologue before the texts of its sections
with the clause of its paging, at its place or around them. -/
theorem compile_pages {q : Query} {compiled : Compiled} (hmethod : q.method = .select)
    (hcompile : compile t q = .ok compiled) :
    ∃ (prologue : Written) (rows : Sections Rendered) (w : SelectText) (c : PagingClause),
      (renderPrologue t (Env.enterStatement t {} (q.sections t))
        ((q.sections t).hoistedCtes t)).Writes prologue ∧
      (q.sections t).Counted t (Env.enterStatement t {} (q.sections t)) rows ∧
      w.Spells t (Env.enterStatement t {} (q.sections t)) rows ∧
      Paging.clause t.pagination (q.sections t).hasOrders
        ⟨(q.sections t).limit, (q.sections t).offset⟩ = .ok c ∧
      (⟨compiled.rawSql, compiled.bindings⟩ : Written) =
        prologue.leading ++ w.paged t.dialect c := by
  obtain ⟨prologue, sql, hprologue, hsql, hstatement⟩ := compile_statement (.inl hmethod) hcompile
  have hselect : (q.sections t).method = .select := hmethod
  have hplain : renderBody t (Env.enterStatement t {} (q.sections t)) (q.sections t) =
      renderPlain t (Env.enterStatement t {} (q.sections t)) (q.sections t) := by
    rw [renderBody, hselect]
    rfl
  rw [hplain] at hsql hstatement
  obtain ⟨rows, w, c, hcounted, hw, hc, hpaged⟩ := renderPlain_pages hsql
  exact ⟨prologue, rows, w, c, hprologue, hcounted, hw, hc,
    hstatement _ hpaged (w.paged_isEmpty t.dialect c)⟩

end SqlBuilder
