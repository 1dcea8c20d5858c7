import Mathlib.Data.List.Basic
import SqlBuilder.Render.Cte

/-!
# The first of each name

Laws of `distinctCtes`: of several common table expressions with one name it keeps the first
(`find?_of_mem_distinctCtes`) and no other (`nodup_cteNames_distinctCtes`), it loses no name
(`mem_cteNames_distinctCtes`), and what it keeps stands in the order of the list
(`distinctCtes_sublist`).
-/

namespace SqlBuilder

variable {γ δ : Type} [Aliased γ] [Aliased δ] {names : List String} {cs : List γ} {c : γ}
  {a : String}

theorem distinctCtes_sublist (names : List String) (cs : List γ) :
    (distinctCtes names cs).Sublist cs := by
  fun_induction distinctCtes names cs with
  | case1 names => exact .slnil
  | case2 names c cs halias ih => exact ih.cons_cons c
  | case3 names c cs b halias hmem ih => exact ih.cons c
  | case4 names c cs b halias hmem ih => exact ih.cons_cons c

/-- A name is kept as long as it does not stand before the list. -/
theorem mem_cteNames_distinctCtes :
    a ∈ cteNames (distinctCtes names cs) ↔ a ∈ cteNames cs ∧ a ∉ names := by
  unfold cteNames
  fun_induction distinctCtes names cs with
  | case1 names => simp
  | case2 names c cs halias ih => simp only [List.filterMap_cons, halias, ih]
  | case3 names c cs b halias hmem ih =>
    simp only [List.filterMap_cons, halias, List.mem_cons, ih]
    constructor
    · rintro ⟨ha, hnames⟩
      exact ⟨.inr ha, hnames⟩
    · rintro ⟨rfl | ha, hnames⟩
      · exact absurd hmem hnames
      · exact ⟨ha, hnames⟩
  | case4 names c cs b halias hmem ih =>
    simp only [List.filterMap_cons, halias, List.mem_cons, ih]
    constructor
    · rintro (rfl | ⟨ha, hnames⟩)
      · exact ⟨.inl rfl, hmem⟩
      · exact ⟨.inr ha, fun hb => hnames (.inr hb)⟩
    · rintro ⟨rfl | ha, hnames⟩
      · exact .inl rfl
      · by_cases hab : a = b
        · exact .inl hab
        · exact .inr ⟨ha, fun hb => hb.elim hab hnames⟩

/-- No two of those that are kept have one name. -/
theorem nodup_cteNames_distinctCtes (names : List String) (cs : List γ) :
    (cteNames (distinctCtes names cs)).Nodup := by
  fun_induction distinctCtes names cs with
  | case1 names => exact List.nodup_nil
  | case2 names c cs halias ih => simpa only [cteNames, List.filterMap_cons, halias] using ih
  | case3 names c cs b halias hmem ih => exact ih
  | case4 names c cs b halias hmem ih =>
    have hfresh : b ∉ cteNames (distinctCtes (b :: names) cs) := by
      rw [mem_cteNames_distinctCtes]
      exact fun h => h.2 List.mem_cons_self
    have hcons : cteNames (c :: distinctCtes (b :: names) cs) =
        b :: cteNames (distinctCtes (b :: names) cs) := by
      simp only [cteNames, List.filterMap_cons, halias]
    rw [hcons]
    exact List.nodup_cons.mpr ⟨hfresh, ih⟩

/-- One that is kept is the first of its name. -/
theorem find?_of_mem_distinctCtes (hc : c ∈ distinctCtes names cs)
    (ha : Aliased.alias? c = some a) :
    cs.find? (fun c' => Aliased.alias? c' == some a) = some c := by
  fun_induction distinctCtes names cs with
  | case1 names => exact absurd hc List.not_mem_nil
  | case2 names c' cs halias ih =>
    obtain rfl | hc := List.mem_cons.mp hc
    · rw [halias] at ha
      exact nomatch ha
    · rw [List.find?_cons_of_neg (by simp [halias]), ih hc]
  | case3 names c' cs b halias hmem ih =>
    have hkept : a ∈ cteNames (distinctCtes names cs) := List.mem_filterMap.mpr ⟨c, hc, ha⟩
    have hab : b ≠ a := by
      rintro rfl
      exact (mem_cteNames_distinctCtes.mp hkept).2 hmem
    rw [List.find?_cons_of_neg (by simp [halias, hab]), ih hc]
  | case4 names c' cs b halias hmem ih =>
    obtain rfl | hc := List.mem_cons.mp hc
    · rw [List.find?_cons_of_pos (by simp [ha])]
    · have hkept : a ∈ cteNames (distinctCtes (b :: names) cs) :=
        List.mem_filterMap.mpr ⟨c, hc, ha⟩
      have hab : b ≠ a := by
        rintro rfl
        exact (mem_cteNames_distinctCtes.mp hkept).2 List.mem_cons_self
      rw [List.find?_cons_of_neg (by simp [halias, hab]), ih hc]

/-- Those before one that is kept are the ones kept of those before it. -/
theorem distinctCtes_split {before after : List γ}
    (h : distinctCtes names cs = before ++ c :: after) :
    ∃ before' after', cs = before' ++ c :: after' ∧ before = distinctCtes names before' := by
  fun_induction distinctCtes names cs generalizing before with
  | case1 names =>
    have hlength := congrArg List.length h
    simp at hlength
  | case2 names c' cs halias ih =>
    cases before with
    | nil =>
      obtain ⟨rfl, -⟩ := List.cons.inj h
      exact ⟨[], cs, rfl, rfl⟩
    | cons b before =>
      obtain ⟨rfl, htail⟩ := List.cons.inj h
      obtain ⟨before', after', rfl, rfl⟩ := ih htail
      exact ⟨c' :: before', after', rfl, by rw [distinctCtes, halias]⟩
  | case3 names c' cs b halias hmem ih =>
    obtain ⟨before', after', rfl, rfl⟩ := ih h
    exact ⟨c' :: before', after', rfl, by rw [distinctCtes, halias]; exact (if_pos hmem).symm⟩
  | case4 names c' cs b halias hmem ih =>
    cases before with
    | nil =>
      obtain ⟨rfl, -⟩ := List.cons.inj h
      exact ⟨[], cs, rfl, rfl⟩
    | cons b' before =>
      obtain ⟨rfl, htail⟩ := List.cons.inj h
      obtain ⟨before', after', rfl, rfl⟩ := ih htail
      exact ⟨c' :: before', after', rfl, by rw [distinctCtes, halias]; exact (if_neg hmem).symm⟩

/-- The empty list is kept of no other. -/
theorem distinctCtes_eq_nil : distinctCtes [] cs = [] ↔ cs = [] := by
  constructor
  · intro h
    cases cs with
    | nil => rfl
    | cons c cs =>
      rw [distinctCtes] at h
      cases halias : Aliased.alias? c <;> simp [halias] at h
  · rintro rfl
    rfl

/-! ## Maps that keep the names -/

section Map

variable {f : γ → δ}

theorem distinctCtes_map_of_mem {cs : List γ}
    (hf : ∀ c ∈ cs, Aliased.alias? (f c) = Aliased.alias? c) (names : List String) :
    distinctCtes names (cs.map f) = (distinctCtes names cs).map f := by
  induction cs generalizing names with
  | nil => rfl
  | cons c cs ih =>
    obtain ⟨hc, hcs⟩ := List.forall_mem_cons.mp hf
    rw [List.map_cons, distinctCtes, distinctCtes, hc]
    cases Aliased.alias? c with
    | none => simp only [ih hcs, List.map_cons]
    | some a =>
      by_cases hmem : a ∈ names
      · simp only [if_pos hmem, ih hcs]
      · simp only [if_neg hmem, ih hcs, List.map_cons]

theorem cteNames_map_of_mem {cs : List γ}
    (hf : ∀ c ∈ cs, Aliased.alias? (f c) = Aliased.alias? c) :
    cteNames (cs.map f) = cteNames cs := by
  simp only [cteNames, List.filterMap_map]
  exact List.filterMap_congr hf

variable (hf : ∀ c, Aliased.alias? (f c) = Aliased.alias? c)

include hf

theorem distinctCtes_map (names : List String) (cs : List γ) :
    distinctCtes names (cs.map f) = (distinctCtes names cs).map f :=
  distinctCtes_map_of_mem (fun c _ => hf c) names

theorem cteNames_map (cs : List γ) : cteNames (cs.map f) = cteNames cs :=
  cteNames_map_of_mem fun c _ => hf c

end Map

end SqlBuilder
