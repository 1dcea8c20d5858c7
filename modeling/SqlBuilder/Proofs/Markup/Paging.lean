import SqlBuilder.Proofs.Markup.Relation
import SqlBuilder.Render.Paging

/-!
# Limits and offsets as markup

The counterparts of the paging renderers, with the row counts in their places.  The part at the head
of a select stands partly before and partly after DISTINCT, so that its bindings come in two pieces
(`Paging.head_renders`).
-/

namespace SqlBuilder

open Markup

/-- A row count in its place. -/
def countMarkup (n : UInt64) : Except Error Markup :=
  return [.value (Value.ofUInt64 n)]

namespace Paging

/-- The words at the head of a select, before and after DISTINCT, with their values in place. -/
structure MarkupHead where
  beforeDistinct : Markup := []
  afterDistinct : Markup := []

/-- What belongs at the head of a select, and what is left to write. -/
def headMarkup (style : Pagination) (p : Paging) : Except Error (MarkupHead × Paging) :=
  match style with
  | .topRowNumber =>
    if 0 < p.limit ∧ p.offset = 0 then do
      let n ← countMarkup p.limit
      return ({ afterDistinct := "TOP (" ++ n ++ ") " }, { p with limit := 0 })
    else
      return ({}, p)
  | .firstSkip =>
    if 0 < p.limit ∧ p.offset = 0 then do
      let n ← countMarkup p.limit
      return ({ beforeDistinct := "FIRST " ++ n ++ " " }, { p with limit := 0 })
    else if 0 < p.offset ∧ p.limit = 0 then do
      let n ← countMarkup p.offset
      return ({ beforeDistinct := "SKIP " ++ n ++ " " }, { p with offset := 0 })
    else
      return ({}, p)
  | _ => return ({}, p)

/-- What is left of a limit and an offset after the order. -/
def tailMarkup (style : Pagination) (hasOrders : Bool) (p : Paging) : Except Error Markup :=
  if p.limit = 0 ∧ p.offset = 0 then
    return []
  else
    match style with
    | .limitOffset unbounded =>
      if p.offset = 0 then do
        let n ← countMarkup p.limit
        return "LIMIT " ++ n
      else if p.limit = 0 then do
        let m ← countMarkup p.offset
        return match unbounded with
          | some all => "LIMIT " ++ all ++ " OFFSET " ++ m
          | none => "OFFSET " ++ m
      else do
        let n ← countMarkup p.limit
        let m ← countMarkup p.offset
        return "LIMIT " ++ n ++ " OFFSET " ++ m
    | .offsetFetch safeOrder => do
      let order := if hasOrders then "" else safeOrder
      let m ← countMarkup p.offset
      if p.limit = 0 then
        return order ++ "OFFSET " ++ m ++ " ROWS"
      else
        let n ← countMarkup p.limit
        return order ++ "OFFSET " ++ m ++ " ROWS FETCH NEXT " ++ n ++ " ROWS ONLY"
    | .firstSkip => do
      let first ← firstRow p.offset
      let firstMark ← countMarkup first
      let last ← lastRow p.limit p.offset
      let lastMark ← countMarkup last
      return "ROWS " ++ firstMark ++ " TO " ++ lastMark
    | .topRowNumber | .rowCount => return []

end Paging

/-- One page of a select whose rows are numbered in a column. -/
def rowNumberMarkup (d : Dialect) (p : Paging) (body : Markup) : Except Error Markup := do
  let first ← firstRow p.offset
  let firstMark ← countMarkup first
  let filter ←
    if 0 < p.limit then do
      let last ← lastRow p.limit p.offset
      let lastMark ← countMarkup last
      pure (rowNumberColumn d ++ " BETWEEN " ++ firstMark ++ " AND " ++ lastMark)
    else
      pure (rowNumberColumn d ++ " >= " ++ firstMark)
  return "SELECT * FROM (" ++ body ++ ") " ++ d.aliasKeyword ++ rowNumberTable d ++ " WHERE " ++
    filter

/-- One page of a select by counting its rows. -/
def rowCountMarkup (d : Dialect) (p : Paging) (body : Markup) : Except Error Markup := do
  let table := rowNumberTable d
  let numbered : Markup :=
    "SELECT " ++ table ++ ".*, ROWNUM " ++ rowNumberColumn d ++ " FROM (" ++ body ++ ") " ++ table
  if p.limit = 0 then
    let m ← countMarkup p.offset
    return "SELECT * FROM (" ++ numbered ++ ") WHERE " ++ rowNumberColumn d ++ " > " ++ m
  else if p.offset = 0 then
    let n ← countMarkup p.limit
    return "SELECT * FROM (" ++ body ++ ") WHERE ROWNUM <= " ++ n
  else
    let last ← lastRow p.limit p.offset
    let lastMark ← countMarkup last
    let m ← countMarkup p.offset
    return "SELECT * FROM (" ++ numbered ++ " WHERE ROWNUM <= " ++ lastMark ++ ") WHERE " ++
      rowNumberColumn d ++ " > " ++ m

/-! ## Rendering row counts -/

theorem isScalar_ofUInt64 (n : UInt64) : (Value.ofUInt64 n).IsScalar := by
  rw [Value.ofUInt64]
  split <;> trivial

theorem boundCount_renders (strict : Prop) (n : UInt64) :
    Emit.Renders (SpellsClosed strict) (countMarkup n) (boundCount n) :=
  .bound (isScalar_ofUInt64 n)

theorem firstRow_yields (offset : UInt64) : Emit.Yields (fun _ => True) (firstRow offset) := by
  rw [firstRow]
  split
  · exact trivial
  · exact rfl

theorem lastRow_yields (limit offset : UInt64) :
    Emit.Yields (fun _ => True) (lastRow limit offset) := by
  rw [lastRow]
  split
  · exact trivial
  · exact rfl

/-- The texts of a paging style have no question mark. -/
def Pagination.Plain : Pagination → Prop
  | .limitOffset unbounded => ∀ all ∈ unbounded, SqlBuilder.Plain all
  | .offsetFetch safeOrder => SqlBuilder.Plain safeOrder
  | _ => True

theorem Target.plain_pagination (t : Target) : t.pagination.Plain := by
  obtain ⟨d, options⟩ := t
  have hsome : ∀ {s : String}, Plain s → (Pagination.limitOffset (some s)).Plain :=
    fun hs all h => Option.mem_some_iff.mp h ▸ hs
  have hsafe : ∀ {s : String}, Plain s → (Pagination.offsetFetch s).Plain := id
  cases d with
  | sqlServer =>
    simp only [pagination]
    split
    · trivial
    · exact hsafe (by decide)
  | oracle =>
    simp only [pagination]
    split
    · trivial
    · exact hsafe (by decide)
  | mySql => exact hsome (by decide)
  | sqlite => exact hsome (by decide)
  | generic | postgres => exact fun all h => nomatch h
  | firebird => trivial

variable (strict : Prop)

namespace Paging

variable {style : Pagination}

/-- The words at the head of a select come with their bindings in two pieces. -/
theorem head_renders (style : Pagination) (p : Paging) :
    Emit.Renders
      (fun m a bs => m.2 = a.2 ∧ ∃ vs ws, bs = vs ++ ws ∧
        SpellsClosed strict m.1.beforeDistinct a.1.beforeDistinct vs ∧
        SpellsClosed strict m.1.afterDistinct a.1.afterDistinct ws)
      (headMarkup style p) (head style p) := by
  have hnone : Emit.Renders
      (fun (m : MarkupHead × Paging) (a : Head × Paging) bs => m.2 = a.2 ∧ ∃ vs ws, bs = vs ++ ws ∧
        SpellsClosed strict m.1.beforeDistinct a.1.beforeDistinct vs ∧
        SpellsClosed strict m.1.afterDistinct a.1.afterDistinct ws)
      (pure ({}, p)) (pure ({}, p)) :=
    .pure ⟨rfl, [], [], rfl, spells_nil, spells_nil⟩
  cases style with
  | topRowNumber =>
    rw [headMarkup, head]
    split
    · refine .map (boundCount_renders strict p.limit) fun m s bs hm => ?_
      exact ⟨rfl, [], bs, rfl, spells_nil,
        ((spells_divider (by decide)).append hm.toSpells).divide (by decide)⟩
    · exact hnone
  | firstSkip =>
    rw [headMarkup, head]
    split
    · refine .map (boundCount_renders strict p.limit) fun m s bs hm => ?_
      exact ⟨rfl, bs, [], (List.append_nil bs).symm,
        ((spells_divider (by decide)).append hm.toSpells).divide (by decide), spells_nil⟩
    · split
      · refine .map (boundCount_renders strict p.offset) fun m s bs hm => ?_
        exact ⟨rfl, bs, [], (List.append_nil bs).symm,
          ((spells_divider (by decide)).append hm.toSpells).divide (by decide), spells_nil⟩
      · exact hnone
  | _ => exact hnone

/-- What is left of a limit and an offset is written alike on both sides. -/
theorem tail_renders (hstyle : style.Plain) (hasOrders : Bool) (p : Paging) :
    Emit.Renders (Spells strict) (tailMarkup style hasOrders p) (tail style hasOrders p) := by
  have hcount := boundCount_renders strict
  unfold tailMarkup tail
  split
  · exact .pure spells_nil.toSpells
  · cases style with
    | limitOffset unbounded =>
      dsimp only
      split
      · exact .map (hcount p.limit) fun m s bs hm =>
          (spells_divider (by decide)).append hm.toSpells
      · split
        · refine .map (hcount p.offset) fun m s bs hm => ?_
          cases unbounded with
          | none => exact (spells_divider (by decide)).append hm.toSpells
          | some all =>
            exact (((spells_text (by decide)).add (hstyle all rfl)).divide (by decide)).append
              hm.toSpells
        · refine .bind (hcount p.limit) fun m s bs hm => ?_
          refine .map (hcount p.offset) fun n s' cs hn => ?_
          exact (((spells_divider (by decide)).append hm.toSpells).divide (by decide)).append
            hn.toSpells
    | offsetFetch safeOrder =>
      have horder : Plain (if hasOrders then "" else safeOrder) := by
        split
        · decide
        · exact hstyle
      refine .bind (hcount p.offset) fun m s bs hm => ?_
      split
      · refine .pure ?_
        rw [List.append_nil]
        exact (((spells_text horder).divide (by decide)).append hm.toSpells).add (by decide)
      · refine .map (hcount p.limit) fun n s' cs hn => ?_
        exact (((((spells_text horder).divide (by decide)).append hm.toSpells).divide
          (by decide)).append hn.toSpells).add (by decide)
    | firstSkip =>
      refine .bind (.ofExcept (firstRow_yields p.offset)) fun first _ bs hfirst => ?_
      obtain ⟨rfl, -, rfl⟩ := hfirst
      refine .bind (hcount first) fun m s bs hm => ?_
      refine .bind (.ofExcept (lastRow_yields p.limit p.offset)) fun last _ bs hlast => ?_
      obtain ⟨rfl, -, rfl⟩ := hlast
      refine .map (hcount last) fun n s' cs hn => ?_
      exact (((spells_divider (by decide)).append hm.toSpells).divide (by decide)).append
        hn.toSpells
    | topRowNumber | rowCount => exact .pure spells_nil.toSpells

end Paging

/-! ## Selects around selects -/

theorem plain_rowNumberColumn (d : Dialect) : Plain (rowNumberColumn d) :=
  Plain.quoteIdentifier (by decide) d

theorem plain_rowNumberTable (d : Dialect) : Plain (rowNumberTable d) :=
  Plain.quoteIdentifier (by decide) d

variable {strict} {body : Markup} {sql : String} {bs : List Value}

/-- The select around a select with row numbers is written alike on both sides; its bindings follow
those of the select. -/
theorem wrapRowNumber_renders (h : Spells strict body sql bs) (d : Dialect) (p : Paging) :
    Emit.Renders (fun m s cs => Spells strict m s (bs ++ cs)) (rowNumberMarkup d p body)
      (wrapRowNumber d p sql) := by
  have hcount := boundCount_renders strict
  have hcolumn : Plain (rowNumberColumn d) := plain_rowNumberColumn d
  have hfrom : SpellsClosed strict
      ("SELECT * FROM (" ++ body ++ ") " ++ d.aliasKeyword ++ rowNumberTable d ++ " WHERE ")
      ("SELECT * FROM (" ++ sql ++ ") " ++ d.aliasKeyword ++ rowNumberTable d ++ " WHERE ") bs :=
    (((((spells_divider (by decide)).append h).add (by decide)).add
      (plain_aliasKeyword d)).add (plain_rowNumberTable d)).divide (by decide)
  refine .bind (.ofExcept (firstRow_yields p.offset)) fun first _ cs hfirst => ?_
  obtain ⟨rfl, -, rfl⟩ := hfirst
  refine .bind (hcount first) fun m s cs hm => ?_
  dsimp only
  split
  · refine .bind (.ofExcept (lastRow_yields p.limit p.offset)) fun last _ ds hlast => ?_
    obtain ⟨rfl, -, rfl⟩ := hlast
    refine .map (hcount last) fun n s' ds hn => ?_
    have hfilter : Spells strict (rowNumberColumn d ++ " BETWEEN " ++ m ++ " AND " ++ n)
        (rowNumberColumn d ++ " BETWEEN " ++ s ++ " AND " ++ s') (cs ++ ds) :=
      ((((spells_text hcolumn).divide (by decide)).append hm.toSpells).divide (by decide)).append
        hn.toSpells
    exact hfrom.append hfilter
  · have hfilter : Spells strict (rowNumberColumn d ++ " >= " ++ m)
        (rowNumberColumn d ++ " >= " ++ s) cs :=
      ((spells_text hcolumn).divide (by decide)).append hm.toSpells
    refine .pure ?_
    rw [List.append_nil]
    exact hfrom.append hfilter

/-- The select around a select whose rows are counted is written alike on both sides; its bindings
follow those of the select. -/
theorem wrapRowCount_renders (h : Spells strict body sql bs) (d : Dialect) (p : Paging) :
    Emit.Renders (fun m s cs => Spells strict m s (bs ++ cs)) (rowCountMarkup d p body)
      (wrapRowCount d p sql) := by
  have hcount := boundCount_renders strict
  have hcolumn : Plain (rowNumberColumn d) := plain_rowNumberColumn d
  have htable : Plain (rowNumberTable d) := plain_rowNumberTable d
  have hnumbered : Spells strict
      ("SELECT " ++ rowNumberTable d ++ ".*, ROWNUM " ++ rowNumberColumn d ++ " FROM (" ++ body ++
        ") " ++ rowNumberTable d)
      ("SELECT " ++ rowNumberTable d ++ ".*, ROWNUM " ++ rowNumberColumn d ++ " FROM (" ++ sql ++
        ") " ++ rowNumberTable d) bs :=
    (((((((spells_divider (by decide)).append (spells_text htable)).add (by decide)).add
      hcolumn).divide (by decide)).append h).add (by decide)).add htable
  unfold rowCountMarkup wrapRowCount
  dsimp only
  split
  · refine .map (hcount p.offset) fun m s cs hm => ?_
    exact ((((((spells_divider (by decide)).append hnumbered).add (by decide)).add
      hcolumn).divide (by decide)).append hm.toSpells)
  · split
    · refine .map (hcount p.limit) fun m s cs hm => ?_
      exact (((spells_divider (by decide)).append h).divide (by decide)).append hm.toSpells
    · refine .bind (.ofExcept (lastRow_yields p.limit p.offset)) fun last _ ds hlast => ?_
      obtain ⟨rfl, -, rfl⟩ := hlast
      refine .bind (hcount last) fun m s cs hm => ?_
      refine .map (hcount p.offset) fun n s' ds hn => ?_
      have hlimited : SpellsClosed strict _ _ (bs ++ cs) :=
        ((((spells_divider (by decide : Divider "SELECT * FROM (")).append hnumbered).divide
          (by decide : Divider " WHERE ROWNUM <= ")).append hm.toSpells).divide
          (by decide : Divider ") WHERE ")
      have hoffset : Spells strict (rowNumberColumn d ++ " > " ++ n) _ ds :=
        ((spells_text hcolumn).divide (by decide : Divider " > ")).append hn.toSpells
      simpa only [List.append_assoc, String.append_assoc, List.nil_append] using
        hlimited.append hoffset

end SqlBuilder
