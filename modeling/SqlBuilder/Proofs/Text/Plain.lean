import SqlBuilder.Query.Build.Select
import SqlBuilder.Render.Env

/-!
# Texts without question marks

A name without a question mark is written without one (`Plain`): cutting a text into pieces, trimming
it and putting it into quotes brings no new characters besides quotes, and upper case turns no other
character into a question mark.  So a `?` in a statement is either part of raw SQL or the place of a
value.
-/

namespace SqlBuilder

open Text

/-- A text without a question mark. -/
def Plain (s : String) : Prop :=
  '?' ∉ s.toList

instance (s : String) : Decidable (Plain s) :=
  inferInstanceAs (Decidable ('?' ∉ s.toList))

/-! ## Putting texts together -/

theorem Plain.append {s t : String} (hs : Plain s) (ht : Plain t) : Plain (s ++ t) := by
  rw [Plain, String.toList_append, List.mem_append, not_or]
  exact ⟨hs, ht⟩

theorem plain_ofList {cs : List Char} : Plain (String.ofList cs) ↔ '?' ∉ cs := by
  rw [Plain, String.toList_ofList]

theorem plain_singleton {c : Char} (h : c ≠ '?') : Plain (String.singleton c) := by
  rw [Plain, String.toList_singleton, List.mem_singleton]
  exact h.symm

theorem plain_intercalate {sep : String} (hsep : Plain sep) {parts : List String}
    (h : ∀ s ∈ parts, Plain s) : Plain (String.intercalate sep parts) := by
  induction parts with
  | nil => simp [Plain]
  | cons s parts ih =>
    have hs : Plain s := h s (by simp)
    have hparts : Plain (String.intercalate sep parts) := ih fun t ht => h t (by simp [ht])
    cases parts with
    | nil => rwa [String.intercalate_singleton]
    | cons t parts =>
      rw [String.intercalate_cons_cons]
      exact (hs.append hsep).append hparts

theorem plain_join {parts : List String} (h : ∀ s ∈ parts, Plain s) :
    Plain (String.join parts) := by
  rw [Plain, String.toList_join, List.mem_flatMap]
  rintro ⟨s, hs, hmark⟩
  exact h s hs hmark

/-! ## Cutting texts -/

/-- A piece of a text has its characters from the text. -/
theorem mem_of_mem_splitOnList {sep : Char} {cs piece : List Char} {c : Char}
    (hpiece : piece ∈ splitOnList sep cs) (hc : c ∈ piece) : c ∈ cs := by
  induction cs generalizing piece with
  | nil =>
    obtain rfl : piece = [] := by simpa [splitOnList] using hpiece
    exact hc
  | cons x cs ih =>
    rw [splitOnList] at hpiece
    split at hpiece
    · rcases List.mem_cons.mp hpiece with rfl | hpiece
      · simp at hc
      · exact List.mem_cons_of_mem _ (ih hpiece hc)
    · cases hcs : splitOnList sep cs with
      | nil => exact absurd hcs (splitOnList_ne_nil sep cs)
      | cons w ws =>
        rw [hcs] at hpiece ih
        rcases List.mem_cons.mp hpiece with rfl | hpiece
        · rcases List.mem_cons.mp hc with rfl | hc
          · simp
          · exact List.mem_cons_of_mem _ (ih (by simp) hc)
        · exact List.mem_cons_of_mem _ (ih (by simp [hpiece]) hc)

theorem subset_of_splitLastList? {sep : Char} {cs before after : List Char}
    (h : splitLastList? sep cs = some (before, after)) : before ⊆ cs ∧ after ⊆ cs := by
  induction cs generalizing before with
  | nil => simp [splitLastList?] at h
  | cons c cs ih =>
    rw [splitLastList?] at h
    split at h
    case h_1 b a hcs =>
      obtain ⟨rfl, rfl⟩ := by simpa using h
      obtain ⟨hb, ha⟩ := ih hcs
      exact ⟨List.cons_subset_cons c hb, List.Subset.trans ha (List.subset_cons_self c cs)⟩
    case h_2 =>
      split at h
      · obtain ⟨rfl, rfl⟩ := by simpa using h
        exact ⟨List.nil_subset _, List.subset_cons_self c _⟩
      · simp at h

theorem subset_of_cutLast? {isHere : List Char → Bool} {width : Nat} {cs before after : List Char}
    (h : cutLast? isHere width cs = some (before, after)) : before ⊆ cs ∧ after ⊆ cs := by
  induction cs generalizing before with
  | nil => simp [cutLast?] at h
  | cons c cs ih =>
    rw [cutLast?] at h
    split at h
    case h_1 b a hcs =>
      obtain ⟨rfl, rfl⟩ := by simpa using h
      obtain ⟨hb, ha⟩ := ih hcs
      exact ⟨List.cons_subset_cons c hb, List.Subset.trans ha (List.subset_cons_self c cs)⟩
    case h_2 =>
      split at h
      · obtain ⟨rfl, rfl⟩ := by simpa using h
        exact ⟨List.nil_subset _, List.drop_subset _ _⟩
      · simp at h

theorem subset_of_cutFirst? {isHere : List Char → Bool} {width : Nat} {cs before after : List Char}
    (h : cutFirst? isHere width cs = some (before, after)) : before ⊆ cs ∧ after ⊆ cs := by
  induction cs generalizing before with
  | nil => simp [cutFirst?] at h
  | cons c cs ih =>
    rw [cutFirst?] at h
    split at h
    · obtain ⟨rfl, rfl⟩ := by simpa using h
      exact ⟨List.nil_subset _, List.drop_subset _ _⟩
    · obtain ⟨⟨b, a⟩, hcs, heq⟩ := Option.map_eq_some_iff.mp h
      obtain ⟨rfl, rfl⟩ := by simpa using heq
      obtain ⟨hb, ha⟩ := ih hcs
      exact ⟨List.cons_subset_cons c hb, List.Subset.trans ha (List.subset_cons_self c cs)⟩

theorem subset_of_splitAliasList? {cs name aliasName : List Char}
    (h : splitAliasList? cs = some (name, aliasName)) : name ⊆ cs ∧ aliasName ⊆ cs := by
  rw [splitAliasList?] at h
  split at h
  case h_1 before after hcut =>
    obtain ⟨hbefore, hafter⟩ := subset_of_cutLast? hcut
    dsimp only at h
    split at h
    · simp at h
    · obtain ⟨rfl, rfl⟩ := by simpa using h
      exact ⟨List.Subset.trans (trimList_sublist before).subset hbefore,
        List.Subset.trans (trimList_sublist after).subset hafter⟩
  case h_2 => simp at h

theorem Plain.splitAlias? {s name aliasName : String} (hs : Plain s)
    (h : Text.splitAlias? s = some (name, aliasName)) : Plain name ∧ Plain aliasName := by
  obtain ⟨⟨n, a⟩, hsplit, heq⟩ := Option.map_eq_some_iff.mp h
  obtain ⟨rfl, rfl⟩ := by simpa using heq
  obtain ⟨hname, halias⟩ := subset_of_splitAliasList? hsplit
  exact ⟨plain_ofList.mpr fun hc => hs (hname hc), plain_ofList.mpr fun hc => hs (halias hc)⟩

theorem Plain.splitLast? {sep : Char} {s before after : String} (hs : Plain s)
    (h : Text.splitLast? sep s = some (before, after)) : Plain before ∧ Plain after := by
  obtain ⟨⟨b, a⟩, hsplit, heq⟩ := Option.map_eq_some_iff.mp h
  obtain ⟨rfl, rfl⟩ := by simpa using heq
  obtain ⟨hbefore, hafter⟩ := subset_of_splitLastList? hsplit
  exact ⟨plain_ofList.mpr fun hc => hs (hbefore hc), plain_ofList.mpr fun hc => hs (hafter hc)⟩

theorem Plain.trim {s : String} (hs : Plain s) : Plain (Text.trim s) :=
  plain_ofList.mpr fun hc => hs ((trimList_sublist s.toList).subset hc)

/-! ## Upper case -/

/-- Only the number of the question mark is a question mark. -/
theorem ofNat_ne_mark {n : Nat} (h : n ≠ 63) : Char.ofNat n ≠ '?' := by
  intro hn
  by_cases hvalid : n.isValidChar
  · have hchar : Char.ofNat n = Char.ofNatAux n hvalid := dif_pos hvalid
    have htoNat : (Char.ofNatAux n hvalid).toNat = n := rfl
    rw [← hchar, hn] at htoNat
    exact h htoNat.symm
  · have hchar : Char.ofNat n = Char.ofNat 0 := dif_neg hvalid
    rw [hchar] at hn
    exact absurd hn (by decide)

/-- No run of upper-case letters reaches down to the question mark. -/
theorem upperRuns_above_mark : ∀ r ∈ upperRuns, 63 < (r.first : Int) + r.shift := by
  decide +kernel

/-- No letter becomes a question mark together with others. -/
theorem upperExpansions_unmarked : ∀ p ∈ upperExpansions, 63 ∉ p.2 := by
  decide +kernel

theorem upperChar_unmarked {c : Char} (h : c ≠ '?') : '?' ∉ upperChar c := by
  rw [upperChar]
  split
  case h_1 ns hns =>
    obtain ⟨before, after, hmem, -⟩ := List.lookup_eq_some_iff.mp hns
    have hns : 63 ∉ ns := upperExpansions_unmarked (c.toNat, ns) (by simp [hmem])
    intro hmark
    obtain ⟨n, hn, hmark⟩ := List.mem_map.mp hmark
    exact ofNat_ne_mark (fun h => hns (h ▸ hn)) hmark
  case h_2 =>
    split
    case h_1 n hn =>
      obtain ⟨r, hr, himage⟩ := List.exists_of_findSome?_eq_some hn
      have habove : 63 < (r.first : Int) + r.shift := upperRuns_above_mark r hr
      rw [CaseRun.image?] at himage
      split at himage
      case isTrue hcovers =>
        obtain rfl := Option.some.inj himage
        have hne : ((c.toNat : Int) + r.shift).toNat ≠ 63 := by omega
        simpa using (ofNat_ne_mark hne).symm
      case isFalse => simp at himage
    case h_2 => simpa using h.symm

theorem Plain.toUpper {s : String} (hs : Plain s) : Plain (Text.toUpper s) := by
  refine plain_ofList.mpr fun hmem => ?_
  obtain ⟨c, hc, hmark⟩ := List.mem_flatMap.mp hmem
  exact upperChar_unmarked (fun h => hs (h ▸ hc)) hmark

/-! ## Quoted names -/

theorem Plain.double {s : String} (hs : Plain s) {c : Char} (hc : c ≠ '?') :
    Plain (Text.double c s) := by
  refine plain_ofList.mpr fun hmem => ?_
  obtain ⟨x, hx, hmark⟩ := List.mem_flatMap.mp hmem
  split at hmark
  · rcases List.mem_cons.mp hmark with hmark | hmark
    · exact hc hmark.symm
    · exact hc (List.mem_singleton.mp hmark).symm
  · exact hs (List.mem_singleton.mp hmark ▸ hx)

/-- No quote is a question mark or a backslash. -/
theorem Dialect.quotes_unmarked (d : Dialect) :
    d.quotes.1 ≠ '?' ∧ d.quotes.2 ≠ '?' ∧ d.quotes.1 ≠ '\\' ∧ d.quotes.2 ≠ '\\' := by
  cases d <;> decide

theorem Plain.quoteIdentifier {name : String} (h : Plain name) (d : Dialect) :
    Plain (d.quoteIdentifier name) := by
  obtain ⟨hopen, hclose, -, -⟩ := d.quotes_unmarked
  have hstored : Plain (d.storedName name) := by
    cases d
    case firebird => exact h.toUpper
    all_goals exact h
  rw [Dialect.quoteIdentifier]
  split
  · exact h
  · exact ((plain_singleton hopen).append (hstored.double hclose)).append (plain_singleton hclose)

theorem plain_aliasKeyword (d : Dialect) : Plain d.aliasKeyword := by
  cases d <;> decide

/-- The base and the aliases of a name have their characters from the name. -/
theorem subset_of_splitAliases (cs : List Char) :
    (Identifier.splitAliases cs).1 ⊆ cs ∧ ∀ a ∈ (Identifier.splitAliases cs).2, a ⊆ cs := by
  fun_induction Identifier.splitAliases cs with
  | case1 cs name aliasName h hlength base aliases hrest ih =>
    obtain ⟨hname, halias⟩ := subset_of_splitAliasList? h
    rw [hrest] at ih
    refine ⟨List.Subset.trans ih.1 hname, fun a ha => ?_⟩
    rcases List.mem_append.mp ha with ha | ha
    · exact List.Subset.trans (ih.2 a ha) hname
    · exact List.mem_singleton.mp ha ▸ halias
  | case2 cs h => exact ⟨List.Subset.refl cs, by simp⟩

theorem Plain.wrap {s : String} (h : Plain s) (d : Dialect) : Plain (d.wrap s) := by
  obtain ⟨hbase, haliases⟩ := subset_of_splitAliases s.toList
  have hpath : ∀ part ∈ (Identifier.ofText s).path, Plain part := by
    intro part hpart
    obtain ⟨piece, hpiece, rfl⟩ := List.mem_map.mp hpart
    refine plain_ofList.mpr fun hc => h (hbase (mem_of_mem_splitOnList hpiece ?_))
    exact (trimList_sublist piece).subset hc
  have haliases : ∀ a ∈ (Identifier.ofText s).aliases, Plain a := by
    intro a ha
    obtain ⟨cs, hcs, rfl⟩ := List.mem_map.mp ha
    exact plain_ofList.mpr fun hc => h (haliases cs hcs hc)
  have hfold : ∀ (aliases : List String) (s : String), Plain s → (∀ a ∈ aliases, Plain a) →
      Plain (aliases.foldl (fun s a => s ++ " " ++ d.aliasKeyword ++ d.quoteIdentifier a) s) := by
    intro aliases
    induction aliases with
    | nil => exact fun s hs _ => hs
    | cons a aliases ih =>
      intro s hs ha
      refine ih _ ?_ fun b hb => ha b (by simp [hb])
      exact ((hs.append (by decide)).append (plain_aliasKeyword d)).append
        ((ha a (by simp)).quoteIdentifier d)
  refine hfold _ _ (plain_intercalate (by decide) fun part hpart => ?_) haliases
  obtain ⟨name, hname, rfl⟩ := List.mem_map.mp hpart
  exact (hpath name hname).quoteIdentifier d

/-! ## Tables and columns -/

/-- The prefix of the options, if there is one, has no question mark. -/
def Target.PlainPrefix (t : Target) : Prop :=
  ∀ p ∈ t.options.tablePrefix, Plain p

theorem Plain.prefixed {t : Target} (ht : t.PlainPrefix) {name : String} (h : Plain name)
    (env : Env) : Plain (env.prefixed t name) := by
  rw [Env.prefixed]
  split
  · exact h
  · cases hp : t.options.tablePrefix with
    | none => exact h
    | some p =>
      have hplain : Plain p := ht p (by rw [hp]; exact Option.mem_some_self p)
      dsimp only
      split
      case h_1 schema table hsplit =>
        obtain ⟨hschema, htable⟩ := h.splitLast? hsplit
        exact ((hschema.append (by decide)).append hplain).append htable
      case h_2 => exact hplain.append h

theorem Plain.wrapTable {t : Target} (ht : t.PlainPrefix) {table : String} (h : Plain table)
    (env : Env) : Plain (env.wrapTable t table) := by
  rw [Env.wrapTable]
  split
  case h_1 name aliasName hsplit =>
    obtain ⟨hname, halias⟩ := h.splitAlias? hsplit
    exact ((((hname.prefixed ht env).wrap t.dialect).append (by decide)).append
      (plain_aliasKeyword t.dialect)).append (halias.quoteIdentifier t.dialect)
  case h_2 => exact (h.trim.prefixed ht env).wrap t.dialect

/-- The columns that an entry of a select list stands for are named without question marks if the
entry is. -/
theorem Plain.expandColumns {entry : String} (h : Plain entry) :
    ∀ column ∈ SqlBuilder.expandColumns entry, Plain column := by
  have htrim : ∀ cs : List Char, cs ⊆ trimList entry.toList → '?' ∉ cs := fun cs hcs hmark =>
    h ((trimList_sublist entry.toList).subset (hcs hmark))
  have hwhole : ∀ column ∈ [String.ofList (trimList entry.toList)], Plain column := by
    intro column hcolumn
    obtain rfl := List.mem_singleton.mp hcolumn
    exact plain_ofList.mpr (htrim _ (List.Subset.refl _))
  rw [SqlBuilder.expandColumns]
  dsimp only
  split
  case isTrue =>
    split
    case h_1 table list hcut =>
      obtain ⟨htable, hlist⟩ := subset_of_cutFirst? hcut
      intro column hcolumn
      obtain ⟨name, hname, rfl⟩ := List.mem_map.mp hcolumn
      obtain ⟨piece, hpiece, rfl⟩ := List.mem_map.mp (List.mem_filter.mp hname).1
      have hname : trimList piece ⊆ trimList entry.toList := fun c hc =>
        hlist (List.dropLast_subset list
          (mem_of_mem_splitOnList hpiece ((trimList_sublist piece).subset hc)))
      rw [plain_ofList, List.mem_append, List.mem_cons, not_or, not_or]
      exact ⟨htrim _ htable, by decide, htrim _ hname⟩
    case h_2 => exact hwhole
  case isFalse => exact hwhole

end SqlBuilder
