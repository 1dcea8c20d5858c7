import SqlBuilder.Dialect.Identifier

/-!
# How names are written

A name is written in quotes, part by part, and `*` is the only one that is not.  So the text of a
name begins with a quote or with `*` (`Dialect.head?_wrap`), and it is `*` only for a name that is
(`Dialect.trim_eq_star_of_wrap`).
-/

namespace SqlBuilder

open Text

/-! ## Cutting -/

/-- A text is a single piece just if there is nothing to cut it at. -/
theorem Text.splitOnList_eq_singleton_iff {sep : Char} {cs piece : List Char} :
    splitOnList sep cs = [piece] ↔ sep ∉ cs ∧ piece = cs := by
  induction cs generalizing piece with
  | nil => simp [splitOnList, eq_comm]
  | cons c cs ih =>
    rw [splitOnList]
    by_cases hc : c = sep
    · simp [hc, splitOnList_ne_nil sep cs]
    · obtain ⟨w, ws, hws⟩ := List.exists_cons_of_ne_nil (splitOnList_ne_nil sep cs)
      rw [if_neg hc, hws, List.mem_cons, not_or]
      constructor
      · intro h
        obtain ⟨rfl, rfl⟩ := List.cons.inj h
        obtain ⟨hsep, rfl⟩ := ih.mp hws
        exact ⟨⟨Ne.symm hc, hsep⟩, rfl⟩
      · rintro ⟨⟨-, hsep⟩, rfl⟩
        obtain ⟨rfl, rfl⟩ := List.cons.inj (hws.symm.trans (ih.mpr ⟨hsep, rfl⟩))
        rfl

/-- The text of an alias, after the name that it is for. -/
def Dialect.aliasText (d : Dialect) (name : String) : String :=
  " " ++ d.aliasKeyword ++ d.quoteIdentifier name

namespace Identifier

/-- A text without aliases is a name as a whole. -/
theorem splitAliases_of_nil {cs : List Char} (h : (splitAliases cs).2 = []) :
    (splitAliases cs).1 = cs := by
  rw [splitAliases] at h ⊢
  split at h
  case h_1 => simp at h
  case h_2 => rfl

theorem path_ofText_ne_nil (s : String) : (ofText s).path ≠ [] := by
  unfold ofText
  simpa using splitOnList_ne_nil '.' _

/-- The text of an identifier: its path with dots between the parts, and its aliases after it. -/
theorem text_eq (d : Dialect) (i : Identifier) :
    i.text d = String.intercalate "." (i.path.map d.quoteIdentifier) ++
      String.join (i.aliases.map d.aliasText) := by
  suffices ∀ (aliases : List String) (start : String),
      aliases.foldl (fun s a => s ++ " " ++ d.aliasKeyword ++ d.quoteIdentifier a) start =
        start ++ String.join (aliases.map d.aliasText) from this _ _
  intro aliases
  induction aliases with
  | nil => simp
  | cons a aliases ih =>
    intro start
    rw [List.foldl_cons, ih]
    simp [Dialect.aliasText, String.append_assoc]

theorem aliases_eq_nil_of_join {d : Dialect} {aliases : List String}
    (h : String.join (aliases.map d.aliasText) = "") : aliases = [] := by
  cases aliases with
  | nil => rfl
  | cons a aliases => simp [Dialect.aliasText] at h

end Identifier

namespace Dialect

variable (d : Dialect)

/-! ## Quotes -/

theorem head?_quoteIdentifier (name : String) :
    (d.quoteIdentifier name).toList.head? = some '*' ∨
      (d.quoteIdentifier name).toList.head? = some d.quotes.1 := by
  unfold quoteIdentifier
  split
  case isTrue hstar =>
    rw [hstar]
    exact .inl rfl
  case isFalse => exact .inr (by simp)

theorem eq_star_of_quoteIdentifier {name : String} (h : d.quoteIdentifier name = "*") :
    name = "*" := by
  unfold quoteIdentifier at h
  split at h
  case isTrue hstar => exact hstar
  case isFalse =>
    -- there are two quotes at least
    have hlength := congrArg (fun s => s.toList.length) h
    simp at hlength

/-- The text of a name begins with its first part. -/
theorem exists_wrap_eq (s : String) : ∃ first rest,
    d.wrap s = d.quoteIdentifier first ++ rest ∧
      (rest = "" → (Identifier.ofText s).path = [first] ∧ (Identifier.ofText s).aliases = []) := by
  have htext := (Identifier.ofText s).text_eq d
  obtain ⟨first, parts, hpath⟩ := List.exists_cons_of_ne_nil (Identifier.path_ofText_ne_nil s)
  rw [hpath, List.map_cons] at htext
  cases parts with
  | nil =>
    rw [List.map_nil, String.intercalate_singleton] at htext
    exact ⟨first, _, htext, fun h => ⟨hpath, Identifier.aliases_eq_nil_of_join h⟩⟩
  | cons second parts =>
    rw [String.intercalate_cons_of_ne_nil (by simp), String.append_assoc, String.append_assoc]
      at htext
    refine ⟨first, _, htext, fun h => ?_⟩
    simp at h

/-- The text of a name begins with a quote or with `*`. -/
theorem head?_wrap (s : String) :
    (d.wrap s).toList.head? = some '*' ∨ (d.wrap s).toList.head? = some d.quotes.1 := by
  obtain ⟨first, rest, hwrap, -⟩ := d.exists_wrap_eq s
  rw [hwrap, String.toList_append, List.head?_append]
  exact (d.head?_quoteIdentifier first).imp (fun h => by rw [h]; rfl) fun h => by rw [h]; rfl

theorem wrap_star : d.wrap "*" = "*" := by
  cases d <;> decide +kernel

/-- Only `*` is written as `*`. -/
theorem trim_eq_star_of_wrap {s : String} (h : d.wrap s = "*") : trim s = "*" := by
  obtain ⟨first, rest, hwrap, hsingle⟩ := d.exists_wrap_eq s
  have hfirst : (d.quoteIdentifier first).toList ≠ [] := by
    obtain hhead | hhead := d.head?_quoteIdentifier first <;>
      exact fun hnil => by simp [hnil] at hhead
  have hstar : (d.quoteIdentifier first).toList ++ rest.toList = ['*'] := by
    rw [← String.toList_append, ← hwrap, h]
    rfl
  obtain ⟨hnil, -⟩ | ⟨hquoted, hrest⟩ := List.append_eq_singleton_iff.mp hstar
  · exact absurd hnil hfirst
  · obtain ⟨hpath, haliases⟩ := hsingle (String.toList_injective hrest)
    have hname : first = "*" := d.eq_star_of_quoteIdentifier (String.toList_injective hquoted)
    have hbase : (Identifier.splitAliases s.toList).1 = s.toList :=
      Identifier.splitAliases_of_nil (by simpa [Identifier.ofText] using haliases)
    have hparts : (splitOnList '.' s.toList).map (fun part => String.ofList (trimList part)) =
        [first] := by
      rw [← hpath, ← hbase]
      rfl
    obtain ⟨part, hpart, htrimmed⟩ := List.map_eq_singleton_iff.mp hparts
    rw [trim, ← (splitOnList_eq_singleton_iff.mp hpart).2, htrimmed, hname]

end Dialect

end SqlBuilder
