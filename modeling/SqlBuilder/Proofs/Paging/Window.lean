import SqlBuilder.Number.Digits
import SqlBuilder.Proofs.Paging.Clause

/-!
# The rows that a paging clause keeps

Every construct is given the meaning that it has in SQL (`PagingClause.keeps?`): its numbers are
read off the values that are bound to its placeholders, and it keeps some of the rows of a source,
which are numbered from one where the construct speaks of row numbers.  ROWNUM is counted as the rows
are tested: a row that fails its test leaves the number to the next one (`countRows`).

Whatever construct a dialect takes up for a limit and an offset, the rows that it keeps are those
of one window (`Paging.clause_keeps`).
-/

namespace SqlBuilder

open Number

/-! ## Numbers in a clause -/

/-- The row count that a bound value stands for. -/
def Value.rowCount? : Value → Option Nat
  | .int n => if 0 ≤ n.toInt then some n.toInt.toNat else none
  | .decimal d => if d.negative = false ∧ d.scale = 0 then some d.coefficient else none
  | _ => none

/-- Row counts are read back as they were bound, on either side of the signed range. -/
theorem Value.rowCount?_ofUInt64 (n : UInt64) : (Value.ofUInt64 n).rowCount? = some n.toNat := by
  unfold Value.ofUInt64
  by_cases hsigned : n.toNat < 1 <<< 63
  · have hint : (Int64.ofNat n.toNat).toInt = n.toNat := Int64.toInt_ofNat_of_lt hsigned
    rw [if_pos hsigned, Value.rowCount?, hint, if_pos (Int.natCast_nonneg _), Int.toNat_natCast]
  · rw [if_neg hsigned]
    rfl

theorem PagingClause.rowCounts_values (c : PagingClause) :
    c.values.mapM Value.rowCount? = some (c.numbers.map UInt64.toNat) := by
  unfold values
  induction c.numbers with
  | nil => rfl
  | cons n ns ih =>
    rw [List.map_cons, List.mapM_cons, ih, Value.rowCount?_ofUInt64]
    rfl

/-- The bound that a written count sets; below zero it sets none. -/
def writtenCount? (count : String) : Option Nat :=
  match count.toList with
  | '-' :: _ => none
  | digits => some (digitsValue digits)

/-! ## Rows -/

section Rows

variable {α : Type}

/-- The rows whose number passes a test; they are numbered from one. -/
def keepNumbered (test : Nat → Bool) (source : List α) : List α :=
  ((source.zipIdx 1).filter fun row => test row.2).map Prod.fst

/-- The rows that pass a test of ROWNUM with the numbers that they get.  A row is tested with the
next number, and takes it only if it passes. -/
def countRows (test : Nat → Bool) : Nat → List α → List (α × Nat)
  | _, [] => []
  | next, a :: as =>
    if test next then (a, next) :: countRows test (next + 1) as else countRows test next as

/-- The rows of a window: those with an index from the offset on and, with a limit, before its
end. -/
def Paging.window (p : Paging) (source : List α) : List α :=
  (source.zipIdx.filter fun row =>
    p.offset.toNat ≤ row.2 ∧ (p.limit = 0 ∨ row.2 < p.offset.toNat + p.limit.toNat)).map Prod.fst

namespace PagingClause

/-- The rows that a clause keeps of a source, given the numbers in it in the order of their
placeholders. -/
def rows? (c : PagingClause) (numbers : List Nat) (source : List α) : Option (List α) :=
  match c, numbers with
  | all, [] => some source
  | limit _, [n] | top _, [n] | first _, [n] => some (source.take n)
  | offset _, [m] | offsetRows _ _, [m] | skip _, [m] => some (source.drop m)
  | limitOffset _ _, [n, m] | offsetFetch _ _ _, [m, n] => some ((source.drop m).take n)
  | literalOffset count _, [m] =>
    match writtenCount? count with
    | some n => some ((source.drop m).take n)
    | none => some (source.drop m)
  | rowsTo _ _, [a, b] | numberedBetween _ _, [a, b] =>
    some (keepNumbered (fun i => a ≤ i && i ≤ b) source)
  | numberedFrom _, [a] => some (keepNumbered (a ≤ ·) source)
  | countedTo _, [n] => some ((countRows (· ≤ n) 1 source).map Prod.fst)
  | countedAfter _, [m] =>
    some (((countRows (fun _ => true) 1 source).filter fun row => m < row.2).map Prod.fst)
  | countedWithin _ _, [b, m] =>
    some (((countRows (· ≤ b) 1 source).filter fun row => m < row.2).map Prod.fst)
  | _, _ => none

/-- The rows that a clause keeps of a source, the values being bound to its placeholders. -/
def keeps? (c : PagingClause) (values : List Value) (source : List α) : Option (List α) := do
  let numbers ← values.mapM Value.rowCount?
  c.rows? numbers source

end PagingClause

/-! ## Rows by their numbers -/

theorem map_fst_filter_from (a k : Nat) (source : List α) :
    ((source.zipIdx k).filter fun row => a ≤ row.2).map Prod.fst = source.drop (a - k) := by
  induction source generalizing k with
  | nil => simp
  | cons r rows ih =>
    rw [List.zipIdx_cons, List.filter_cons]
    by_cases hk : a ≤ k
    · have hall : a - k = 0 := by omega
      have hrest : a - (k + 1) = 0 := by omega
      simp [hk, ih, hall, hrest]
    · have hskip : a - k = a - (k + 1) + 1 := by omega
      simp [hk, ih, hskip]

theorem map_fst_filter_within (a b k : Nat) (source : List α) :
    ((source.zipIdx k).filter fun row => a ≤ row.2 && row.2 < b).map Prod.fst =
      (source.take (b - k)).drop (a - k) := by
  induction source generalizing k with
  | nil => simp
  | cons r rows ih =>
    rw [List.zipIdx_cons, List.filter_cons]
    by_cases hb : k < b
    · have htake : b - k = b - (k + 1) + 1 := by omega
      by_cases ha : a ≤ k
      · have hall : a - k = 0 := by omega
        have hrest : a - (k + 1) = 0 := by omega
        simp [ha, hb, ih, hall, hrest, htake]
      · have hskip : a - k = a - (k + 1) + 1 := by omega
        simp [ha, ih, hskip, htake]
    · have hnone : b - k = 0 := by omega
      have hrest : b - (k + 1) = 0 := by omega
      simp [hb, ih, hnone, hrest]

theorem countRows_all (k : Nat) (source : List α) :
    countRows (fun _ => true) k source = source.zipIdx k := by
  induction source generalizing k with
  | nil => rfl
  | cons r rows ih => simp [countRows, ih, List.zipIdx_cons]

/-- Once a row fails the test of an upper bound, so do all that follow. -/
theorem countRows_le (b k : Nat) (source : List α) :
    countRows (· ≤ b) k source = (source.take (b + 1 - k)).zipIdx k := by
  induction source generalizing k with
  | nil => simp [countRows]
  | cons r rows ih =>
    rw [countRows]
    by_cases hk : k ≤ b
    · have htake : b + 1 - k = b + 1 - (k + 1) + 1 := by omega
      simp [hk, ih, htake, List.zipIdx_cons]
    · have hnone : b + 1 - k = 0 := by omega
      simp [hk, ih, hnone]

theorem keepNumbered_from (a : Nat) (source : List α) :
    keepNumbered (a ≤ ·) source = source.drop (a - 1) :=
  map_fst_filter_from a 1 source

theorem keepNumbered_between (a b : Nat) (source : List α) :
    keepNumbered (fun i => a ≤ i && i ≤ b) source = (source.take b).drop (a - 1) := by
  have hend : ∀ i, decide (i ≤ b) = decide (i < b + 1) :=
    fun i => decide_eq_decide.mpr Nat.lt_succ_iff.symm
  unfold keepNumbered
  simp only [hend]
  exact map_fst_filter_within a (b + 1) 1 source

theorem map_fst_filter_after (m : Nat) (source : List α) :
    ((source.zipIdx 1).filter fun row => m < row.2).map Prod.fst = source.drop m :=
  map_fst_filter_from (m + 1) 1 source

theorem map_fst_countRows_le (n : Nat) (source : List α) :
    (countRows (· ≤ n) 1 source).map Prod.fst = source.take n := by
  rw [countRows_le, List.zipIdx_map_fst]
  rfl

/-! ## Windows -/

theorem Paging.window_noLimit (o : UInt64) (source : List α) :
    Paging.window ⟨0, o⟩ source = source.drop o.toNat := by
  unfold window
  simp only [true_or, and_true]
  exact map_fst_filter_from o.toNat 0 source

theorem Paging.window_limit {l : UInt64} (hl : l ≠ 0) (o : UInt64) (source : List α) :
    Paging.window ⟨l, o⟩ source = (source.drop o.toNat).take l.toNat := by
  unfold window
  simp only [hl, false_or, Bool.decide_and]
  rw [map_fst_filter_within, List.drop_take, Nat.sub_zero, Nat.sub_zero, Nat.add_sub_cancel_left]

theorem firstRow_toNat {o a : UInt64} (h : firstRow o = .ok a) : a.toNat = o.toNat + 1 := by
  unfold firstRow at h
  by_cases hfits : o.toNat + 1 < UInt64.size
  · rw [if_pos hfits] at h
    obtain rfl := Except.ok.inj h
    rw [UInt64.toNat_add, UInt64.toNat_one]
    exact Nat.mod_eq_of_lt hfits
  · rw [if_neg hfits] at h
    exact nomatch h

theorem lastRow_toNat {l o b : UInt64} (h : lastRow l o = .ok b) :
    b.toNat = l.toNat + o.toNat := by
  unfold lastRow at h
  by_cases hfits : l.toNat + o.toNat < UInt64.size
  · rw [if_pos hfits] at h
    obtain rfl := Except.ok.inj h
    rw [UInt64.toNat_add]
    exact Nat.mod_eq_of_lt hfits
  · rw [if_neg hfits] at h
    exact nomatch h

namespace Paging

variable {style : Pagination} {hasOrders : Bool} {l o : UInt64} {c : PagingClause}

theorem limitClause_rows? (style : Pagination) (hasOrders : Bool) (l : UInt64) (source : List α) :
    (limitClause style hasOrders l).rows? ((limitClause style hasOrders l).numbers.map UInt64.toNat)
        source =
      some (source.take l.toNat) := by
  cases style with
  | limitOffset _ | topRowNumber | firstSkip => rfl
  | offsetFetch safeOrder => rfl
  | rowCount => exact congrArg some (map_fst_countRows_le l.toNat source)

/-- A written count must not bound a source of this length. -/
theorem offsetClause_rows? {source : List α}
    (hcount : ∀ count n, style = .limitOffset (some count) → writtenCount? count = some n →
      source.length ≤ n)
    (hc : offsetClause style hasOrders o = .ok c) :
    c.rows? (c.numbers.map UInt64.toNat) source = some (source.drop o.toNat) := by
  cases style with
  | limitOffset unbounded =>
    cases unbounded with
    | none =>
      obtain rfl := Except.ok.inj hc
      rfl
    | some count =>
      obtain rfl := Except.ok.inj hc
      change (match writtenCount? count with
        | some n => some ((source.drop o.toNat).take n)
        | none => some (source.drop o.toNat)) = _
      cases hn : writtenCount? count with
      | none => rfl
      | some n =>
        have hlength : source.length ≤ n := hcount count n rfl hn
        refine congrArg some (List.take_of_length_le ?_)
        rw [List.length_drop]
        omega
  | offsetFetch _ | firstSkip =>
    obtain rfl := Except.ok.inj hc
    rfl
  | topRowNumber =>
    obtain ⟨a, ha, rfl⟩ := map_eq_ok hc
    change some (keepNumbered (a.toNat ≤ ·) source) = _
    rw [keepNumbered_from, firstRow_toNat ha, Nat.add_sub_cancel]
  | rowCount =>
    obtain rfl := Except.ok.inj hc
    change some (((countRows (fun _ => true) 1 source).filter fun row => o.toNat < row.2).map
      Prod.fst) = _
    rw [countRows_all, map_fst_filter_after]

theorem pageClause_rows? (hc : pageClause style hasOrders l o = .ok c) (source : List α) :
    c.rows? (c.numbers.map UInt64.toNat) source =
      some ((source.drop o.toNat).take l.toNat) := by
  have hpage : (source.take (l.toNat + o.toNat)).drop o.toNat =
      (source.drop o.toNat).take l.toNat := by
    rw [List.drop_take, Nat.add_sub_cancel]
  cases style with
  | limitOffset _ | offsetFetch _ =>
    obtain rfl := Except.ok.inj hc
    rfl
  | topRowNumber | firstSkip =>
    obtain ⟨a, b, ha, hb, rfl⟩ := map₂_eq_ok hc
    change some (keepNumbered (fun i => a.toNat ≤ i && i ≤ b.toNat) source) = _
    rw [keepNumbered_between, firstRow_toNat ha, lastRow_toNat hb, Nat.add_sub_cancel, hpage]
  | rowCount =>
    obtain ⟨b, hb, rfl⟩ := map_eq_ok hc
    change some (((countRows (· ≤ b.toNat) 1 source).filter fun row => o.toNat < row.2).map
      Prod.fst) = _
    rw [countRows_le, map_fst_filter_after, Nat.add_sub_cancel, lastRow_toNat hb, hpage]

end Paging

/-- The counts that the dialects write out bound nothing. -/
theorem Target.writtenCount_bound {t : Target} {count : String} {n : Nat}
    (hstyle : t.pagination = .limitOffset (some count)) (hn : writtenCount? count = some n) :
    UInt64.size - 1 ≤ n := by
  have hcount : count = "18446744073709551615" ∨ count = "-1" := by
    unfold Target.pagination at hstyle
    split at hstyle
    case h_3 =>
      injection hstyle with hcount
      exact .inl (Option.some.inj hcount).symm
    case h_4 =>
      injection hstyle with hcount
      exact .inr (Option.some.inj hcount).symm
    case h_1 | h_2 => split at hstyle <;> exact nomatch hstyle
    all_goals exact nomatch hstyle
  obtain rfl | rfl := hcount
  · have hread : writtenCount? "18446744073709551615" = some 18446744073709551615 := by decide
    obtain rfl := Option.some.inj (hread.symm.trans hn)
    decide
  · have hread : writtenCount? "-1" = none := by decide
    exact nomatch hread.symm.trans hn

/-- **Windows.** Whatever a dialect takes up for a limit and an offset, it keeps the rows of their
window. -/
theorem Paging.clause_keeps {t : Target} {hasOrders : Bool} {l o : UInt64} {c : PagingClause}
    (hc : clause t.pagination hasOrders ⟨l, o⟩ = .ok c) {source : List α}
    (hsource : source.length < UInt64.size - 1) :
    c.keeps? c.values source = some (window ⟨l, o⟩ source) := by
  unfold PagingClause.keeps?
  rw [c.rowCounts_values, Option.bind_eq_bind, Option.bind_some]
  obtain ⟨rfl, rfl, h⟩ | ⟨rfl, -, h⟩ | ⟨hl, rfl, h⟩ | ⟨hl, -, h⟩ :=
    clause_cases t.pagination hasOrders l o
  all_goals rw [h] at hc
  · obtain rfl := Except.ok.inj hc
    rw [window_noLimit]
    rfl
  · rw [window_noLimit]
    refine offsetClause_rows? (fun count n hstyle hn => ?_) hc
    exact Nat.le_of_lt (Nat.lt_of_lt_of_le hsource (Target.writtenCount_bound hstyle hn))
  · obtain rfl := Except.ok.inj hc
    rw [window_limit hl]
    exact limitClause_rows? _ _ _ _
  · rw [window_limit hl]
    exact pageClause_rows? hc source

end Rows

end SqlBuilder
