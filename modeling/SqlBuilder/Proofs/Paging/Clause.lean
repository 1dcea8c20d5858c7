import SqlBuilder.Render.Paging

/-!
# Paging clauses

The constructs that a limit and an offset are written with, as data.  `Paging.clause` says which of
them a paging style takes up for a limit and an offset, or which row number does not fit, and the
renderers of the parts before, inside and around a select write just that construct
(`Paging.writesInside`, `Paging.wrapRowNumber_of_ok`, `Paging.wrapRowCount_of_ok`).

A construct is written at one place of a select (`PagingClause.place?`), as words with a placeholder
for each of its numbers (`PagingClause.words`), or around a finished select (`PagingClause.around`).
-/

namespace SqlBuilder

/-! ## Outcomes -/

section Outcomes

variable {α β γ : Type} {f : α → β} {g : α → β → γ} {x : Except Error α} {y : Except Error β}

theorem map_eq_ok {b : β} (h : f <$> x = .ok b) : ∃ a, x = .ok a ∧ f a = b := by
  cases x with
  | error e => exact nomatch h
  | ok a => exact ⟨a, rfl, Except.ok.inj h⟩

theorem map₂_eq_ok {c : γ} (h : g <$> x <*> y = .ok c) :
    ∃ a b, x = .ok a ∧ y = .ok b ∧ g a b = c := by
  cases x with
  | error e => exact nomatch h
  | ok a =>
    obtain ⟨b, hb, hc⟩ := map_eq_ok h
    exact ⟨a, b, rfl, hb, hc⟩

theorem map_eq_error {e : Error} (h : f <$> x = .error e) : x = .error e := by
  cases x with
  | error e => exact congrArg Except.error (Except.error.inj h)
  | ok a => exact nomatch h

theorem map₂_eq_error {e : Error} (h : g <$> x <*> y = .error e) :
    x = .error e ∨ ∃ a, x = .ok a ∧ y = .error e := by
  cases x with
  | error e => exact .inl (congrArg Except.error (Except.error.inj h))
  | ok a => exact .inr ⟨a, rfl, map_eq_error h⟩

theorem isOk_ok (a : α) : (Except.ok a : Except Error α).isOk = true := rfl

theorem isOk_map : (f <$> x).isOk = x.isOk := by
  cases x <;> rfl

theorem isOk_map₂ : (g <$> x <*> y).isOk = (x.isOk && y.isOk) := by
  cases x <;> cases y <;> rfl

end Outcomes

/-! ## Clauses -/

/-- The places in a select for the words of a paging clause. -/
inductive PagingPlace where
  /-- Before DISTINCT. -/
  | afterSelect
  /-- Before the select list. -/
  | afterDistinct
  /-- Before the set operations. -/
  | afterOrders
deriving DecidableEq

/-- A construct that keeps some rows of a select, with its row counts and row numbers. -/
inductive PagingClause where
  /-- No construct at all. -/
  | all
  /-- `LIMIT n` -/
  | limit (n : UInt64)
  /-- `OFFSET m` -/
  | offset (m : UInt64)
  /-- `LIMIT n OFFSET m` -/
  | limitOffset (n m : UInt64)
  /-- `LIMIT .. OFFSET m` with a count that is written out. -/
  | literalOffset (count : String) (m : UInt64)
  /-- `OFFSET m ROWS`, after an order if there is none yet. -/
  | offsetRows (order : String) (m : UInt64)
  /-- `OFFSET m ROWS FETCH NEXT n ROWS ONLY`, after an order if there is none yet. -/
  | offsetFetch (order : String) (m n : UInt64)
  /-- `TOP (n)` -/
  | top (n : UInt64)
  /-- `FIRST n` -/
  | first (n : UInt64)
  /-- `SKIP m` -/
  | skip (m : UInt64)
  /-- `ROWS a TO b` -/
  | rowsTo (a b : UInt64)
  /-- A filter on row numbers from `a` on. -/
  | numberedFrom (a : UInt64)
  /-- A filter on row numbers from `a` to `b`. -/
  | numberedBetween (a b : UInt64)
  /-- A test of ROWNUM up to `n`. -/
  | countedTo (n : UInt64)
  /-- A filter on the numbers given by ROWNUM after `m`. -/
  | countedAfter (m : UInt64)
  /-- A test of ROWNUM up to `b`, and a filter on the numbers given by it after `m`. -/
  | countedWithin (b m : UInt64)
deriving DecidableEq

namespace PagingClause

/-- The numbers of a clause in the order of their placeholders. -/
def numbers : PagingClause → List UInt64
  | all => []
  | limit n | offset n | literalOffset _ n | offsetRows _ n | top n | first n | skip n
  | numberedFrom n | countedTo n | countedAfter n => [n]
  | limitOffset n m | offsetFetch _ n m | rowsTo n m | numberedBetween n m
  | countedWithin n m => [n, m]

/-- The values bound to the placeholders of a clause. -/
def values (c : PagingClause) : List Value :=
  c.numbers.map Value.ofUInt64

/-- The place of a clause that is written inside of a select. -/
def place? : PagingClause → Option PagingPlace
  | first _ | skip _ => some .afterSelect
  | top _ => some .afterDistinct
  | all | limit _ | offset _ | limitOffset _ _ | literalOffset _ _ | offsetRows _ _
  | offsetFetch _ _ _ | rowsTo _ _ => some .afterOrders
  | numberedFrom _ | numberedBetween _ _ | countedTo _ | countedAfter _ | countedWithin _ _ => none

/-- The words of a clause that is written inside of a select. -/
def words : PagingClause → String
  | limit _ => "LIMIT ?"
  | offset _ => "OFFSET ?"
  | limitOffset _ _ => "LIMIT ? OFFSET ?"
  | literalOffset count _ => "LIMIT " ++ count ++ " OFFSET ?"
  | offsetRows order _ => order ++ "OFFSET ? ROWS"
  | offsetFetch order _ _ => order ++ "OFFSET ? ROWS FETCH NEXT ? ROWS ONLY"
  | top _ => "TOP (?) "
  | first _ => "FIRST ? "
  | skip _ => "SKIP ? "
  | rowsTo _ _ => "ROWS ? TO ?"
  | all | numberedFrom _ | numberedBetween _ _ | countedTo _ | countedAfter _
  | countedWithin _ _ => ""

/-- The words of a clause at a place, if they stand there. -/
def wordsAt (c : PagingClause) (place : PagingPlace) : String :=
  if c.place? = some place then c.words else ""

/-- The values that are bound at a place. -/
def valuesAt (c : PagingClause) (place : PagingPlace) : List Value :=
  if c.place? = some place then c.values else []

/-- A select whose rows are numbered by their order of appearance, as a derived table. -/
def countedTable (d : Dialect) (body : String) : String :=
  "SELECT " ++ rowNumberTable d ++ ".*, ROWNUM " ++ rowNumberColumn d ++ " FROM (" ++ body ++ ") " ++
    rowNumberTable d

/-- A select with the clause around it, if that is where the clause is written. -/
def around (d : Dialect) (body : String) : PagingClause → String
  | numberedFrom _ =>
    "SELECT * FROM (" ++ body ++ ") " ++ d.aliasKeyword ++ rowNumberTable d ++ " WHERE " ++
      rowNumberColumn d ++ " >= ?"
  | numberedBetween _ _ =>
    "SELECT * FROM (" ++ body ++ ") " ++ d.aliasKeyword ++ rowNumberTable d ++ " WHERE " ++
      rowNumberColumn d ++ " BETWEEN ? AND ?"
  | countedTo _ => "SELECT * FROM (" ++ body ++ ") WHERE ROWNUM <= ?"
  | countedAfter _ =>
    "SELECT * FROM (" ++ countedTable d body ++ ") WHERE " ++ rowNumberColumn d ++ " > ?"
  | countedWithin _ _ =>
    "SELECT * FROM (" ++ countedTable d body ++ " WHERE ROWNUM <= ?) WHERE " ++ rowNumberColumn d ++
      " > ?"
  | _ => body

end PagingClause

namespace Paging

variable (style : Pagination) (hasOrders : Bool)

/-- The order that a style asks for where there is none. -/
def orderFor (safeOrder : String) : String :=
  if hasOrders then "" else safeOrder

/-- The clause for a limit alone. -/
def limitClause (n : UInt64) : PagingClause :=
  match style with
  | .limitOffset _ => .limit n
  | .offsetFetch safeOrder => .offsetFetch (orderFor hasOrders safeOrder) 0 n
  | .topRowNumber => .top n
  | .firstSkip => .first n
  | .rowCount => .countedTo n

/-- The clause for an offset alone. -/
def offsetClause (m : UInt64) : Except Error PagingClause :=
  match style with
  | .limitOffset none => .ok (.offset m)
  | .limitOffset (some count) => .ok (.literalOffset count m)
  | .offsetFetch safeOrder => .ok (.offsetRows (orderFor hasOrders safeOrder) m)
  | .topRowNumber => .numberedFrom <$> firstRow m
  | .firstSkip => .ok (.skip m)
  | .rowCount => .ok (.countedAfter m)

/-- The clause for a limit and an offset. -/
def pageClause (n m : UInt64) : Except Error PagingClause :=
  match style with
  | .limitOffset _ => .ok (.limitOffset n m)
  | .offsetFetch safeOrder => .ok (.offsetFetch (orderFor hasOrders safeOrder) m n)
  | .topRowNumber => .numberedBetween <$> firstRow m <*> lastRow n m
  | .firstSkip => .rowsTo <$> firstRow m <*> lastRow n m
  | .rowCount => (.countedWithin · m) <$> lastRow n m

/-- The clause that a paging style takes up for a limit and an offset. -/
def clause (p : Paging) : Except Error PagingClause :=
  if p.limit = 0 then
    if p.offset = 0 then .ok .all else offsetClause style hasOrders p.offset
  else
    if p.offset = 0 then .ok (limitClause style hasOrders p.limit)
    else pageClause style hasOrders p.limit p.offset

/-- Without a limit and an offset there is no clause. -/
theorem clause_none : clause style hasOrders ⟨0, 0⟩ = .ok .all :=
  (if_pos rfl).trans (if_pos rfl)

/-- There is no clause, one for an offset alone, one for a limit alone, or one for both. -/
theorem clause_cases (l o : UInt64) :
    (l = 0 ∧ o = 0 ∧ clause style hasOrders ⟨l, o⟩ = .ok .all) ∨
      (l = 0 ∧ o ≠ 0 ∧ clause style hasOrders ⟨l, o⟩ = offsetClause style hasOrders o) ∨
      (l ≠ 0 ∧ o = 0 ∧ clause style hasOrders ⟨l, o⟩ = .ok (limitClause style hasOrders l)) ∨
      (l ≠ 0 ∧ o ≠ 0 ∧ clause style hasOrders ⟨l, o⟩ = pageClause style hasOrders l o) := by
  unfold clause
  by_cases hl : l = 0 <;> by_cases ho : o = 0 <;> simp [hl, ho]

/-- A clause goes around a select just when the style counts rows and some are to be left out. -/
theorem place?_eq_none_iff {l o : UInt64} {c : PagingClause}
    (hc : clause style hasOrders ⟨l, o⟩ = .ok c) :
    c.place? = none ↔ style = .topRowNumber ∧ o ≠ 0 ∨ style = .rowCount ∧ ¬(l = 0 ∧ o = 0) := by
  obtain ⟨rfl, rfl, h⟩ | ⟨rfl, ho, h⟩ | ⟨hl, rfl, h⟩ | ⟨hl, ho, h⟩ :=
    clause_cases style hasOrders l o
  all_goals rw [h] at hc
  · obtain rfl := Except.ok.inj hc
    simp [PagingClause.place?]
  · cases style with
    | limitOffset unbounded =>
      cases unbounded <;> obtain rfl := Except.ok.inj hc <;> simp [PagingClause.place?]
    | topRowNumber =>
      obtain ⟨a, -, rfl⟩ := map_eq_ok hc
      simp [PagingClause.place?, ho]
    | offsetFetch _ | firstSkip | rowCount =>
      obtain rfl := Except.ok.inj hc
      simp [PagingClause.place?, ho]
  · obtain rfl := Except.ok.inj hc
    cases style <;> simp [limitClause, PagingClause.place?, hl]
  · cases style with
    | topRowNumber | firstSkip =>
      obtain ⟨a, b, -, -, rfl⟩ := map₂_eq_ok hc
      simp [PagingClause.place?, ho]
    | rowCount =>
      obtain ⟨b, -, rfl⟩ := map_eq_ok hc
      simp [PagingClause.place?, ho]
    | limitOffset _ | offsetFetch _ =>
      obtain rfl := Except.ok.inj hc
      simp [PagingClause.place?]

/-! ## Row numbers that do not fit -/

/-- The numbers of rows that a style has to bind for a limit and an offset. -/
def rowNumbers (p : Paging) : List Nat :=
  let first := p.offset.toNat + 1
  let last := p.limit.toNat + p.offset.toNat
  match style with
  | .limitOffset _ | .offsetFetch _ => []
  | .topRowNumber => if p.offset = 0 then [] else if p.limit = 0 then [first] else [first, last]
  | .firstSkip => if p.limit = 0 ∨ p.offset = 0 then [] else [first, last]
  | .rowCount => if p.limit = 0 ∨ p.offset = 0 then [] else [last]

theorem firstRow_isOk_iff (o : UInt64) : (firstRow o).isOk = true ↔ o.toNat + 1 < UInt64.size := by
  unfold firstRow
  by_cases hfits : o.toNat + 1 < UInt64.size <;> simp [hfits, Except.isOk, Except.toBool]

theorem lastRow_isOk_iff (l o : UInt64) :
    (lastRow l o).isOk = true ↔ l.toNat + o.toNat < UInt64.size := by
  unfold lastRow
  by_cases hfits : l.toNat + o.toNat < UInt64.size <;> simp [hfits, Except.isOk, Except.toBool]

/-- A style takes up a clause just when all row numbers that it has to bind fit. -/
theorem clause_isOk_iff (p : Paging) :
    (clause style hasOrders p).isOk = true ↔ ∀ n ∈ rowNumbers style p, n < UInt64.size := by
  obtain ⟨l, o⟩ := p
  obtain ⟨rfl, rfl, h⟩ | ⟨rfl, ho, h⟩ | ⟨hl, rfl, h⟩ | ⟨hl, ho, h⟩ :=
    clause_cases style hasOrders l o
  all_goals rw [h]
  · cases style <;> simp [rowNumbers, isOk_ok]
  · cases style with
    | limitOffset unbounded => cases unbounded <;> simp [offsetClause, rowNumbers, isOk_ok]
    | topRowNumber => simp [offsetClause, rowNumbers, ho, isOk_map, firstRow_isOk_iff]
    | offsetFetch _ | firstSkip | rowCount => simp [offsetClause, rowNumbers, isOk_ok]
  · cases style <;> simp [rowNumbers, isOk_ok]
  · cases style <;>
      simp [pageClause, rowNumbers, hl, ho, isOk_ok, isOk_map, isOk_map₂, firstRow_isOk_iff,
        lastRow_isOk_iff]

/-- Only the rows after an offset can have numbers that do not fit. -/
theorem offset_ne_zero_of_error {l o : UInt64} {e : Error}
    (hc : clause style hasOrders ⟨l, o⟩ = .error e) : o ≠ 0 := by
  obtain ⟨-, -, h⟩ | ⟨-, ho, -⟩ | ⟨-, -, h⟩ | ⟨-, ho, -⟩ := clause_cases style hasOrders l o
  · exact nomatch h.symm.trans hc
  · exact ho
  · exact nomatch h.symm.trans hc
  · exact ho

/-! ## Inside of a select -/

/-- The paging that is written at the head of a select and after its orders, as the clause says. -/
def WritesInside (p : Paging) (c : PagingClause) : Prop :=
  ∃ rest,
    head style p =
      ⟨c.valuesAt .afterSelect ++ c.valuesAt .afterDistinct,
        .ok (⟨c.wordsAt .afterSelect, c.wordsAt .afterDistinct⟩, rest)⟩ ∧
    tail style hasOrders rest = ⟨c.valuesAt .afterOrders, .ok (c.wordsAt .afterOrders)⟩

variable {style hasOrders} {l o : UInt64} {c : PagingClause}

theorem writesInside_none : WritesInside style hasOrders ⟨0, 0⟩ .all := by
  refine ⟨⟨0, 0⟩, ?_, if_pos ⟨rfl, rfl⟩⟩
  cases style <;> rfl

theorem writesInside_limit (hl : l ≠ 0)
    (hplace : (limitClause style hasOrders l).place? ≠ none) :
    WritesInside style hasOrders ⟨l, 0⟩ (limitClause style hasOrders l) := by
  have hpos : 0 < l := UInt64.pos_iff_ne_zero.mpr hl
  have htail : ¬(l = 0 ∧ (0 : UInt64) = 0) := fun h => hl h.1
  cases style with
  | limitOffset unbounded => exact ⟨⟨l, 0⟩, rfl, if_neg htail⟩
  | offsetFetch safeOrder =>
    refine ⟨⟨l, 0⟩, rfl, (if_neg htail).trans ?_⟩
    dsimp only
    simp only [if_neg hl, String.append_assoc]
    rfl
  | topRowNumber | firstSkip => exact ⟨⟨0, 0⟩, if_pos ⟨hpos, rfl⟩, if_pos ⟨rfl, rfl⟩⟩
  | rowCount => exact absurd rfl hplace

theorem writesInside_offset (ho : o ≠ 0) (hc : offsetClause style hasOrders o = .ok c)
    (hplace : c.place? ≠ none) : WritesInside style hasOrders ⟨0, o⟩ c := by
  have hpos : 0 < o := UInt64.pos_iff_ne_zero.mpr ho
  have htail : ¬((0 : UInt64) = 0 ∧ o = 0) := fun h => ho h.2
  cases style with
  | limitOffset unbounded =>
    cases unbounded with
    | none =>
      obtain rfl := Except.ok.inj hc
      refine ⟨⟨0, o⟩, rfl, (if_neg htail).trans ?_⟩
      dsimp only
      rw [if_neg ho]
      rfl
    | some count =>
      obtain rfl := Except.ok.inj hc
      refine ⟨⟨0, o⟩, rfl, (if_neg htail).trans ?_⟩
      dsimp only
      rw [if_neg ho]
      simp only [↓reduceIte, String.append_assoc]
      rfl
  | offsetFetch safeOrder =>
    obtain rfl := Except.ok.inj hc
    refine ⟨⟨0, o⟩, rfl, (if_neg htail).trans ?_⟩
    simp only [↓reduceIte, String.append_assoc]
    rfl
  | firstSkip =>
    obtain rfl := Except.ok.inj hc
    refine ⟨⟨0, 0⟩, ?_, if_pos ⟨rfl, rfl⟩⟩
    have hfirst : ¬(0 < (0 : UInt64) ∧ o = 0) := fun h => ho h.2
    unfold head
    dsimp only
    rw [if_neg hfirst, if_pos ⟨hpos, rfl⟩]
    rfl
  | topRowNumber =>
    obtain ⟨a, -, rfl⟩ := map_eq_ok hc
    exact absurd rfl hplace
  | rowCount =>
    obtain rfl := Except.ok.inj hc
    exact absurd rfl hplace

theorem writesInside_page (hl : l ≠ 0) (ho : o ≠ 0) (hc : pageClause style hasOrders l o = .ok c)
    (hplace : c.place? ≠ none) : WritesInside style hasOrders ⟨l, o⟩ c := by
  have htail : ¬(l = 0 ∧ o = 0) := fun h => hl h.1
  cases style with
  | limitOffset unbounded =>
    obtain rfl := Except.ok.inj hc
    refine ⟨⟨l, o⟩, rfl, (if_neg htail).trans ?_⟩
    dsimp only
    rw [if_neg ho, if_neg hl]
    rfl
  | offsetFetch safeOrder =>
    obtain rfl := Except.ok.inj hc
    refine ⟨⟨l, o⟩, rfl, (if_neg htail).trans ?_⟩
    dsimp only
    simp only [if_neg hl, String.append_assoc]
    rfl
  | firstSkip =>
    obtain ⟨a, b, ha, hb, rfl⟩ := map₂_eq_ok hc
    refine ⟨⟨l, o⟩, ?_, (if_neg htail).trans ?_⟩
    · exact (if_neg fun h => ho h.2).trans (if_neg fun h => hl h.2)
    · dsimp only
      rw [ha, hb]
      rfl
  | topRowNumber =>
    obtain ⟨a, b, -, -, rfl⟩ := map₂_eq_ok hc
    exact absurd rfl hplace
  | rowCount =>
    obtain ⟨b, -, rfl⟩ := map_eq_ok hc
    exact absurd rfl hplace

/-- A clause inside of a select is written at the head and after the orders. -/
theorem writesInside (hc : clause style hasOrders ⟨l, o⟩ = .ok c) (hplace : c.place? ≠ none) :
    WritesInside style hasOrders ⟨l, o⟩ c := by
  obtain ⟨rfl, rfl, h⟩ | ⟨rfl, ho, h⟩ | ⟨hl, rfl, h⟩ | ⟨hl, ho, h⟩ :=
    clause_cases style hasOrders l o
  all_goals rw [h] at hc
  · obtain rfl := Except.ok.inj hc
    exact writesInside_none
  · exact writesInside_offset ho hc hplace
  · obtain rfl := Except.ok.inj hc
    exact writesInside_limit hl hplace
  · exact writesInside_page hl ho hc hplace

/-- A row number that does not fit is found after the orders, unless the clause goes around the
select. -/
theorem tail_of_error {e : Error} (hc : clause style hasOrders ⟨l, o⟩ = .error e)
    (hstyle : style ≠ .topRowNumber) (hstyle' : style ≠ .rowCount) :
    head style ⟨l, o⟩ = pure ({}, ⟨l, o⟩) ∧ (tail style hasOrders ⟨l, o⟩).outcome = .error e := by
  obtain ⟨rfl, rfl, h⟩ | ⟨rfl, ho, h⟩ | ⟨hl, rfl, h⟩ | ⟨hl, ho, h⟩ :=
    clause_cases style hasOrders l o
  all_goals rw [h] at hc
  · exact nomatch hc
  · cases style with
    | limitOffset unbounded => cases unbounded <;> exact nomatch hc
    | topRowNumber => exact absurd rfl hstyle
    | rowCount => exact absurd rfl hstyle'
    | offsetFetch _ | firstSkip => exact nomatch hc
  · exact nomatch hc
  · cases style with
    | topRowNumber => exact absurd rfl hstyle
    | rowCount => exact absurd rfl hstyle'
    | limitOffset _ | offsetFetch _ => exact nomatch hc
    | firstSkip =>
      refine ⟨(if_neg fun h => ho h.2).trans (if_neg fun h => hl h.2), ?_⟩
      have htail : ¬(l = 0 ∧ o = 0) := fun h => hl h.1
      unfold tail
      rw [if_neg htail]
      dsimp only
      obtain ha | ⟨a, ha, hb⟩ := map₂_eq_error hc
      · rw [ha]
        rfl
      · rw [ha, hb]
        rfl

/-! ## Around a select -/

variable {d : Dialect} {body : String}

theorem wrapRowNumber_of_ok (ho : o ≠ 0) (hc : clause .topRowNumber hasOrders ⟨l, o⟩ = .ok c) :
    wrapRowNumber d ⟨l, o⟩ body = ⟨c.values, .ok (c.around d body)⟩ := by
  unfold wrapRowNumber
  obtain ⟨-, hno, -⟩ | ⟨hl, -, h⟩ | ⟨-, hno, -⟩ | ⟨hl, -, h⟩ :=
    clause_cases .topRowNumber hasOrders l o
  · exact absurd hno ho
  · rw [h] at hc
    obtain ⟨a, ha, rfl⟩ := map_eq_ok hc
    have hpos : ¬(0 < l) := fun h => UInt64.pos_iff_ne_zero.mp h hl
    dsimp only
    rw [ha]
    simp only [if_neg hpos]
    dsimp only [PagingClause.around]
    simp only [String.append_assoc]
    rfl
  · exact absurd hno ho
  · rw [h] at hc
    obtain ⟨a, b, ha, hb, rfl⟩ := map₂_eq_ok hc
    have hpos : 0 < l := UInt64.pos_iff_ne_zero.mpr hl
    dsimp only
    rw [ha, hb]
    simp only [if_pos hpos]
    dsimp only [PagingClause.around]
    simp only [String.append_assoc]
    rfl

/-- A row number that does not fit is found at the filter on the row numbers. -/
theorem wrapRowNumber_of_error {e : Error} (ho : o ≠ 0)
    (hc : clause .topRowNumber hasOrders ⟨l, o⟩ = .error e) :
    (wrapRowNumber d ⟨l, o⟩ body).outcome = .error e := by
  unfold wrapRowNumber
  obtain ⟨-, hno, -⟩ | ⟨-, -, h⟩ | ⟨-, hno, -⟩ | ⟨hl, -, h⟩ :=
    clause_cases .topRowNumber hasOrders l o
  · exact absurd hno ho
  · rw [h] at hc
    dsimp only
    rw [map_eq_error hc]
    rfl
  · exact absurd hno ho
  · rw [h] at hc
    have hpos : 0 < l := UInt64.pos_iff_ne_zero.mpr hl
    dsimp only
    obtain ha | ⟨a, ha, hb⟩ := map₂_eq_error hc
    · rw [ha]
      rfl
    · rw [ha, hb]
      simp only [if_pos hpos]
      rfl

theorem wrapRowCount_of_ok (hsome : ¬(l = 0 ∧ o = 0))
    (hc : clause .rowCount hasOrders ⟨l, o⟩ = .ok c) :
    wrapRowCount d ⟨l, o⟩ body = ⟨c.values, .ok (c.around d body)⟩ := by
  unfold wrapRowCount
  dsimp only
  obtain ⟨hl, ho, -⟩ | ⟨hl, ho, h⟩ | ⟨hl, ho, h⟩ | ⟨hl, ho, h⟩ :=
    clause_cases .rowCount hasOrders l o
  · exact absurd ⟨hl, ho⟩ hsome
  · rw [h] at hc
    obtain rfl := Except.ok.inj hc
    rw [if_pos hl]
    dsimp only [PagingClause.around, PagingClause.countedTable]
    simp only [String.append_assoc]
    rfl
  · rw [h] at hc
    obtain rfl := Except.ok.inj hc
    rw [if_neg hl, if_pos ho]
    dsimp only [limitClause, PagingClause.around]
    simp only [String.append_assoc]
    rfl
  · rw [h] at hc
    obtain ⟨b, hb, rfl⟩ := map_eq_ok hc
    rw [if_neg hl, if_neg ho, hb]
    dsimp only [PagingClause.around, PagingClause.countedTable]
    simp only [String.append_assoc]
    rfl

/-- A row number that does not fit is found at the test of the row count. -/
theorem wrapRowCount_of_error {e : Error} (hc : clause .rowCount hasOrders ⟨l, o⟩ = .error e) :
    (wrapRowCount d ⟨l, o⟩ body).outcome = .error e := by
  unfold wrapRowCount
  dsimp only
  obtain ⟨-, -, h⟩ | ⟨-, -, h⟩ | ⟨-, -, h⟩ | ⟨hl, ho, h⟩ := clause_cases .rowCount hasOrders l o
  all_goals rw [h] at hc
  · exact nomatch hc
  · exact nomatch hc
  · exact nomatch hc
  · rw [if_neg hl, if_neg ho, map_eq_error hc]
    rfl

end Paging

end SqlBuilder
