import SqlBuilder.Json.Printer
import SqlBuilder.Proofs.Json.Number

/-!
# Trees read back from their texts

A tree is read back from the text that is written for it if its numbers are, unless it is nested
more than `nestingLimit` deep: then its text is refused (`Json.read?_render`).  The numbers that are
read back are the integers of 64 bits and the floating point numbers whose shortest text is read as
the number itself (`Binary64.ReadsBack`).

The fields of objects are read in the order in which they were written.  A reader that puts them in
the order of their names gives the tree back if they were written in that order
(`Json.parse?_render`).
-/

namespace SqlBuilder

open Json Number

/-- The text of the number is read as the number. -/
def Binary64.ReadsBack (x : Binary64) : Prop :=
  x.isFinite = true ∧ readNumber x.scientific.toList = some (.float x, [])

namespace Json

/-! ## Texts -/

/-- The four digits of a control character. -/
theorem hexUnit?_hexDigit {n : Nat} (h : n < 32) :
    hexUnit? '0' '0' (hexDigit (n / 16)) (hexDigit (n % 16)) = some n := by
  have hfront : hexValues? (['0', '0'] ++ [hexDigit (n / 16)]) = some (16 * 0 + n / 16) :=
    hexValues?_append_hexDigit rfl (by omega)
  have hread := hexValues?_append_hexDigit hfront (n := n % 16) (by omega)
  rw [hexUnit?]
  refine hread.trans (congrArg some ?_)
  omega

/-- A character of a text is read as it was. -/
theorem readText_escapeChar (c : Char) (rest : List Char) :
    readText (escapeChar c ++ rest) = (readText rest).map fun (s, rest) => (c :: s, rest) := by
  have hcode : ∀ n, c.toNat = n → Char.ofNat n = c := fun n hn => hn ▸ Char.ofNat_toNat c
  unfold escapeChar
  split
  case isTrue hc => subst hc; simp [readText, shortEscape?]
  split
  case isTrue hc => subst hc; simp [readText, shortEscape?]
  split
  case isTrue hc => subst hc; simp [readText, shortEscape?]
  split
  case isTrue hc => subst hc; simp [readText, shortEscape?]
  split
  case isTrue hc => subst hc; simp [readText, shortEscape?]
  split
  case isTrue hc => obtain rfl := hcode 8 hc; simp [readText, shortEscape?]
  split
  case isTrue hc => obtain rfl := hcode 12 hc; simp [readText, shortEscape?]
  split
  case isTrue hc =>
    have hlow : ¬0xD800 ≤ c.toNat := by omega
    have hhigh : ¬0xDC00 ≤ c.toNat := by omega
    simp [readText, hexUnit?_hexDigit hc, hlow, hhigh, hcode c.toNat rfl]
  case isFalse hcontrol =>
    rw [List.singleton_append, readText, if_neg hcontrol] <;> simp_all

/-- A quoted text is read as it was. -/
theorem readText_flatMap (cs rest : List Char) :
    readText (cs.flatMap escapeChar ++ '"' :: rest) = some (cs, rest) := by
  induction cs with
  | nil => simp [readText]
  | cons c cs ih =>
    rw [List.flatMap_cons, List.append_assoc, readText_escapeChar, ih, Option.map_some]

theorem toList_quoted (s : String) :
    (quoted s).toList = '"' :: (s.toList.flatMap escapeChar ++ ['"']) := by
  simp [quoted]

/-! ## Trees -/

mutual

/-- The numbers of the tree are read back from their texts. -/
def Legible : Json → Prop
  | int n => IntFits n
  | float x => x.ReadsBack
  | array items => AllLegible items
  | object fields => FieldsLegible fields
  | _ => True

/-- The numbers of a list of trees are read back. -/
def AllLegible : List Json → Prop
  | [] => True
  | j :: js => j.Legible ∧ AllLegible js

/-- The numbers of a list of fields are read back. -/
def FieldsLegible : List (String × Json) → Prop
  | [] => True
  | (_, j) :: fs => j.Legible ∧ FieldsLegible fs

end

mutual

/-- The number of steps in which a tree is read. -/
def size : Json → Nat
  | array items => listSize items + 1
  | object fields => fieldsSize fields + 1
  | _ => 1

/-- The number of steps in which a list of trees is read. -/
def listSize : List Json → Nat
  | [] => 0
  | j :: js => j.size + 1 + listSize js

/-- The number of steps in which a list of fields is read. -/
def fieldsSize : List (String × Json) → Nat
  | [] => 0
  | (_, j) :: fs => j.size + 1 + fieldsSize fs

end

/-- The characters other than digits that a tree may begin with. -/
def openings : List Char :=
  ['n', 't', 'f', '"', '[', '\x7b', '-']

/-- A character that a tree may begin with. -/
def IsOpening (c : Char) : Prop :=
  c ∈ openings ∨ c.isDigit = true

theorem IsOpening.ne {c d : Char} (h : IsOpening c) (hd : d ∉ openings)
    (hdigit : d.isDigit = false) : c ≠ d := by
  rintro rfl
  obtain h | h := h
  · exact hd h
  · exact absurd h (by simp [hdigit])

/-- White space is skipped before a tree, but nothing of the tree. -/
theorem IsOpening.skipSpace {c : Char} (h : IsOpening c) (cs : List Char) :
    skipSpace (c :: cs) = c :: cs := by
  have hspace : ¬(c = ' ' ∨ c = '\n' ∨ c = '\r' ∨ c = '\t') := by
    rintro (hc | hc | hc | hc) <;> exact absurd hc (h.ne (by decide) rfl)
  rw [Json.skipSpace, if_neg hspace]

/-- A number stands where no other tree does. -/
theorem readTree_of_readNumber {cs rest : List Char} {j : Json} (n : Nat)
    (h : readNumber cs = some (j, rest)) : readTree (n + 1) cs = some (j, rest) := by
  obtain ⟨c, cs, rfl, hc⟩ := exists_cons_of_readNumber h
  have hopening : IsOpening c := by
    obtain rfl | hc := hc
    · exact .inl (by decide)
    · exact .inr hc
  have hne : ∀ d, d.isDigit = false → d ≠ '-' → c ≠ d := by
    rintro d hd hminus rfl
    simp_all
  rw [readTree, hopening.skipSpace]
  split
  all_goals
    first
    | exact h
    | (rename_i heq
       exact absurd (List.cons.inj heq).1 (hne _ rfl (by decide)))

/-- The front of the text of a tree. -/
theorem exists_cons_render {j : Json} (h : j.Legible) :
    ∃ c cs, j.render.toList = c :: cs ∧ IsOpening c := by
  have hnumber : ∀ {cs k}, readNumber cs = some (k, []) →
      ∃ c cs', cs = c :: cs' ∧ IsOpening c := by
    intro cs k hread
    obtain ⟨c, cs', hcs, rfl | hc⟩ := exists_cons_of_readNumber hread
    · exact ⟨'-', cs', hcs, .inl (by decide)⟩
    · exact ⟨c, cs', hcs, .inr hc⟩
  cases j with
  | null => exact ⟨'n', _, rfl, .inl (by decide)⟩
  | bool b =>
    cases b with
    | false => exact ⟨'f', _, rfl, .inl (by decide)⟩
    | true => exact ⟨'t', _, rfl, .inl (by decide)⟩
  | int n =>
    rw [Legible] at h
    rw [render]
    exact hnumber (readNumber_intText h)
  | float x =>
    rw [Legible] at h
    rw [render, floatText, if_pos h.1]
    exact hnumber h.2
  | text s => exact ⟨'"', _, by rw [render, toList_quoted], .inl (by decide)⟩
  | array items => exact ⟨'[', _, by simp [render]; rfl, .inl (by decide)⟩
  | object fields => exact ⟨'\x7b', _, by simp [render]; rfl, .inl (by decide)⟩

/-- The front of the text of the items of an array. -/
theorem exists_cons_renderList {j : Json} (h : j.Legible) (js : List Json) :
    ∃ c cs, (String.intercalate "," (renderList (j :: js))).toList = c :: cs ∧ IsOpening c := by
  obtain ⟨c, cs, hcs, hc⟩ := exists_cons_render h
  cases js with
  | nil => exact ⟨c, cs, by rw [renderList, renderList, String.intercalate_singleton, hcs], hc⟩
  | cons k ks =>
    exact ⟨c, _, by simp [renderList, String.intercalate_cons_cons, hcs]; rfl, hc⟩

/-- The front of the text of the fields of an object. -/
theorem exists_cons_renderFields (name : String) (j : Json) (fs : List (String × Json)) :
    ∃ cs, (String.intercalate "," (renderFields ((name, j) :: fs))).toList = '"' :: cs := by
  cases fs with
  | nil => exact ⟨_, by simp [renderFields, toList_quoted]; rfl⟩
  | cons f fs =>
    obtain ⟨n, k⟩ := f
    exact ⟨_, by simp [renderFields, String.intercalate_cons_cons, toList_quoted]; rfl⟩

theorem afterWord_append (word : String) (rest : List Char) :
    afterWord word (word.toList ++ rest) = some rest := by
  rw [afterWord, if_pos (List.isPrefixOf_iff_prefix.mpr (List.prefix_append _ _)),
    ← String.length_toList, List.drop_left]

/-- An array that has items. -/
theorem readTree_items {c : Char} (h : IsOpening c) (n : Nat) (cs : List Char) :
    readTree (n + 1) ('[' :: c :: cs) =
      (readItems n (c :: cs)).map fun (js, rest) => (array js, rest) := by
  have hbracket : c ≠ ']' := h.ne (by decide) rfl
  have hskip : skipSpace ('[' :: c :: cs) = '[' :: c :: cs :=
    IsOpening.skipSpace (.inl (by decide)) _
  rw [readTree, hskip]
  simp [h.skipSpace, hbracket]

/-- An object that has fields. -/
theorem readTree_fields (n : Nat) (cs : List Char) :
    readTree (n + 1) ('\x7b' :: '"' :: cs) =
      (readFields n ('"' :: cs)).map fun (fs, rest) => (object fs, rest) :=
  rfl

/-- The last field of an object. -/
theorem readFields_last (name : String) {n : Nat} {cs rest : List Char} {j : Json}
    (h : readTree n cs = some (j, '\x7d' :: rest)) :
    readFields (n + 1) ((quoted name).toList ++ ':' :: cs) = some ([(name, j)], rest) := by
  have hname := readText_flatMap name.toList (':' :: cs)
  simp [readFields, toList_quoted, skipSpace, hname, h]

/-- A field of an object before others. -/
theorem readFields_before (name : String) {n : Nat} {cs others rest : List Char} {j : Json}
    {fs : List (String × Json)} (h : readTree n cs = some (j, ',' :: others))
    (hfs : readFields n others = some (fs, rest)) :
    readFields (n + 1) ((quoted name).toList ++ ':' :: cs) = some ((name, j) :: fs, rest) := by
  have hname := readText_flatMap name.toList (':' :: cs)
  simp [readFields, toList_quoted, skipSpace, hname, h, hfs]

mutual

/-- A tree is read from its text. -/
theorem readTree_render : ∀ (j : Json) (n : Nat) (rest : List Char), j.size ≤ n → j.Legible →
    EndsTree rest → readTree n (j.render.toList ++ rest) = some (j, rest)
  | j, 0, _, hsize, _, _ => by cases j <;> simp [size] at hsize
  | .null, n + 1, rest, _, _, _ => by
    change (afterWord "ull" ("ull".toList ++ rest)).map _ = _
    rw [afterWord_append]
    rfl
  | .bool true, n + 1, rest, _, _, _ => by
    change (afterWord "rue" ("rue".toList ++ rest)).map _ = _
    rw [afterWord_append]
    rfl
  | .bool false, n + 1, rest, _, _, _ => by
    change (afterWord "alse" ("alse".toList ++ rest)).map _ = _
    rw [afterWord_append]
    rfl
  | .int m, n + 1, rest, _, h, hrest => by
    rw [Legible] at h
    rw [render]
    refine readTree_of_readNumber n ?_
    rw [stopsAtEnd_readNumber _ rest hrest, readNumber_intText h]
    rfl
  | .float x, n + 1, rest, _, h, hrest => by
    rw [Legible] at h
    rw [render, floatText, if_pos h.1]
    refine readTree_of_readNumber n ?_
    rw [stopsAtEnd_readNumber _ rest hrest, h.2]
    rfl
  | .text s, n + 1, rest, _, _, _ => by
    have hread := readText_flatMap s.toList rest
    simp [render, toList_quoted, readTree, skipSpace, hread]
  | .array [], n + 1, rest, _, _, _ => by
    simp [render, renderList, readTree, skipSpace]
  | .array (j :: js), n + 1, rest, hsize, h, _ => by
    rw [size] at hsize
    rw [Legible] at h
    have hitems := readItems_renderList (j :: js) n rest (List.cons_ne_nil j js) (by omega) h
    rw [AllLegible] at h
    obtain ⟨c, cs, hcs, hc⟩ := exists_cons_renderList h.1 js
    have htext : (array (j :: js)).render.toList ++ rest = '[' :: c :: (cs ++ ']' :: rest) := by
      simp [render, hcs]
    rw [hcs, List.cons_append] at hitems
    rw [htext, readTree_items hc, hitems]
    rfl
  | .object [], n + 1, rest, _, _, _ => by
    simp [render, renderFields, readTree, skipSpace]
  | .object ((name, j) :: fs), n + 1, rest, hsize, h, _ => by
    rw [size] at hsize
    rw [Legible] at h
    have hfields := readFields_renderFields ((name, j) :: fs) n rest (List.cons_ne_nil _ fs)
      (by omega) h
    obtain ⟨cs, hcs⟩ := exists_cons_renderFields name j fs
    have htext : (object ((name, j) :: fs)).render.toList ++ rest =
        '\x7b' :: '"' :: (cs ++ '\x7d' :: rest) := by
      simp [render, hcs]
    rw [hcs, List.cons_append] at hfields
    rw [htext, readTree_fields, hfields]
    rfl

/-- The items of an array are read from their texts. -/
theorem readItems_renderList : ∀ (js : List Json) (n : Nat) (rest : List Char), js ≠ [] →
    listSize js ≤ n → AllLegible js →
    readItems n ((String.intercalate "," (renderList js)).toList ++ ']' :: rest) = some (js, rest)
  | [], _, _, hne, _, _ => absurd rfl hne
  | j :: js, 0, _, _, hsize, _ => by simp [listSize] at hsize
  | [j], n + 1, rest, _, hsize, h => by
    rw [listSize] at hsize
    rw [AllLegible] at h
    have hj := readTree_render j n (']' :: rest) (by omega) h.1 (endsTree_cons (by simp) rest)
    rw [renderList, renderList, String.intercalate_singleton, readItems, hj]
    rfl
  | j :: k :: ks, n + 1, rest, _, hsize, h => by
    rw [listSize] at hsize
    rw [AllLegible] at h
    let others := (String.intercalate "," (renderList (k :: ks))).toList ++ ']' :: rest
    have hj := readTree_render j n (',' :: others) (by omega) h.1 (endsTree_cons (by simp) _)
    have hks := readItems_renderList (k :: ks) n rest (List.cons_ne_nil k ks) (by omega) h.2
    have htext : (String.intercalate "," (renderList (j :: k :: ks))).toList ++ ']' :: rest =
        j.render.toList ++ ',' :: others := by
      simp [others, renderList, String.intercalate_cons_cons]
    rw [htext, readItems, hj]
    change (readItems n others).bind _ = _
    rw [hks]
    rfl

/-- The fields of an object are read from their texts. -/
theorem readFields_renderFields : ∀ (fs : List (String × Json)) (n : Nat) (rest : List Char),
    fs ≠ [] → fieldsSize fs ≤ n → FieldsLegible fs →
    readFields n ((String.intercalate "," (renderFields fs)).toList ++ '\x7d' :: rest) =
      some (fs, rest)
  | [], _, _, hne, _, _ => absurd rfl hne
  | (_, j) :: fs, 0, _, _, hsize, _ => by simp [fieldsSize] at hsize
  | [(name, j)], n + 1, rest, _, hsize, h => by
    rw [fieldsSize] at hsize
    rw [FieldsLegible] at h
    have hj := readTree_render j n ('\x7d' :: rest) (by omega) h.1 (endsTree_cons (by simp) rest)
    have htext : (String.intercalate "," (renderFields [(name, j)])).toList ++ '\x7d' :: rest =
        (quoted name).toList ++ ':' :: (j.render.toList ++ '\x7d' :: rest) := by
      simp [renderFields]
    rw [htext, readFields_last name hj]
  | (name, j) :: (name', k) :: fs, n + 1, rest, _, hsize, h => by
    rw [fieldsSize] at hsize
    rw [FieldsLegible] at h
    let others :=
      (String.intercalate "," (renderFields ((name', k) :: fs))).toList ++ '\x7d' :: rest
    have hj := readTree_render j n (',' :: others) (by omega) h.1 (endsTree_cons (by simp) _)
    have hfs := readFields_renderFields ((name', k) :: fs) n rest (List.cons_ne_nil _ fs)
      (by omega) h.2
    have htext : (String.intercalate "," (renderFields ((name, j) :: (name', k) :: fs))).toList ++
        '\x7d' :: rest = (quoted name).toList ++ ':' :: (j.render.toList ++ ',' :: others) := by
      simp [others, renderFields, String.intercalate_cons_cons]
    rw [htext, readFields_before name hj hfs]

end

/-! ## Whole texts -/

mutual

/-- The text of a tree is long enough for the steps in which the tree is read. -/
theorem size_le : ∀ j : Json, j.size ≤ 2 * j.render.toList.length + 1
  | .array items => by
    have hitems := listSize_le items
    have hopening : "[".toList.length = 1 := rfl
    simp only [size, render, String.toList_append, List.length_append]
    omega
  | .object fields => by
    have hfields := fieldsSize_le fields
    have hopening : "\x7b".toList.length = 1 := rfl
    simp only [size, render, String.toList_append, List.length_append]
    omega
  | .null | .bool _ | .int _ | .float _ | .text _ => by simp [size]

theorem listSize_le : ∀ js : List Json,
    listSize js ≤ 2 * (String.intercalate "," (renderList js)).toList.length + 2
  | [] => by simp [listSize]
  | [j] => by
    have hj := size_le j
    simp only [listSize, renderList, String.intercalate_singleton]
    omega
  | j :: k :: ks => by
    have hj := size_le j
    have hks := listSize_le (k :: ks)
    simp only [listSize, renderList, String.intercalate_cons_cons, String.toList_append,
      List.length_append] at hks ⊢
    have hcomma : ",".toList.length = 1 := rfl
    omega

theorem fieldsSize_le : ∀ fs : List (String × Json),
    fieldsSize fs ≤ 2 * (String.intercalate "," (renderFields fs)).toList.length + 2
  | [] => by simp [fieldsSize]
  | [(name, j)] => by
    have hj := size_le j
    simp only [fieldsSize, renderFields, String.intercalate_singleton, String.toList_append,
      List.length_append]
    omega
  | (name, j) :: f :: fs => by
    have hj := size_le j
    have hfs := fieldsSize_le (f :: fs)
    obtain ⟨name', k⟩ := f
    simp only [fieldsSize, renderFields, String.intercalate_cons_cons, String.toList_append,
      List.length_append] at hfs ⊢
    have hcomma : ",".toList.length = 1 := rfl
    omega

end

/-- **Text.**  The text of a tree whose numbers are read back is read as the tree, if the tree is
not nested too deep, and is refused otherwise. -/
theorem read?_render {j : Json} (h : j.Legible) :
    read? j.render = if j.depth ≤ nestingLimit then some j else none := by
  have hsize := size_le j
  have hread := readTree_render j (2 * j.render.toList.length + 2) [] (by omega) h endsTree_nil
  rw [List.append_nil] at hread
  simp [read?, hread, skipSpace]

/-! ### Fields in order -/

mutual

/-- The fields of every object in the tree have different names and stand in their order. -/
def Ordered : Json → Prop
  | array items => AllOrdered items
  | object fields => (fields.map Prod.fst).Pairwise (· < ·) ∧ FieldsOrdered fields
  | _ => True

/-- The fields of every object in a list of trees stand in order. -/
def AllOrdered : List Json → Prop
  | [] => True
  | j :: js => j.Ordered ∧ AllOrdered js

/-- The fields of every object in a list of fields stand in order. -/
def FieldsOrdered : List (String × Json) → Prop
  | [] => True
  | (_, j) :: fs => j.Ordered ∧ FieldsOrdered fs

end

/-- A field with a greater name than all others comes last. -/
theorem insertField_of_lt {name : String} {fs : List (String × Json)}
    (h : ∀ f ∈ fs, f.1 < name) (value : Json) :
    insertField name value fs = fs ++ [(name, value)] := by
  induction fs with
  | nil => rfl
  | cons f fs ih =>
    rw [List.forall_mem_cons] at h
    obtain ⟨n, v⟩ := f
    have hne : name ≠ n := fun heq => String.lt_irrefl n (heq ▸ h.1)
    have hlt : ¬name < n := String.lt_asymm h.1
    rw [insertField, if_neg hne, if_neg hlt, ih h.2, List.cons_append]

/-- Fields that stand in order are kept in their order. -/
theorem ofFields_of_pairwise {fs : List (String × Json)}
    (h : (fs.map Prod.fst).Pairwise (· < ·)) : ofFields fs = object fs := by
  have hfold : ∀ fs acc : List (String × Json), ((acc ++ fs).map Prod.fst).Pairwise (· < ·) →
      fs.foldl (fun acc f => insertField f.1 f.2 acc) acc = acc ++ fs := by
    intro fs
    induction fs with
    | nil => simp
    | cons f fs ih =>
      intro acc hacc
      have hlast : ∀ g ∈ acc, g.1 < f.1 := by
        rw [List.map_append, List.pairwise_append] at hacc
        exact fun g hg => hacc.2.2 g.1 (List.mem_map_of_mem hg) f.1 (by simp)
      rw [List.foldl_cons, insertField_of_lt hlast, ih _ (by simpa using hacc)]
      simp
  rw [ofFields, hfold fs [] h, List.nil_append]

mutual

theorem sorted_eq_self : ∀ j : Json, j.Ordered → j.sorted = j
  | .array items, h => by
    rw [Ordered] at h
    rw [sorted, sortedList_eq_self items h]
  | .object fields, h => by
    rw [Ordered] at h
    rw [sorted, sortedFields_eq_self fields h.2, ofFields_of_pairwise h.1]
  | .null, _ | .bool _, _ | .int _, _ | .float _, _ | .text _, _ => by simp [sorted]

theorem sortedList_eq_self : ∀ js : List Json, AllOrdered js → sortedList js = js
  | [], _ => rfl
  | j :: js, h => by
    rw [AllOrdered] at h
    rw [sortedList, sorted_eq_self j h.1, sortedList_eq_self js h.2]

theorem sortedFields_eq_self : ∀ fs : List (String × Json), FieldsOrdered fs →
    sortedFields fs = fs
  | [], _ => rfl
  | (name, j) :: fs, h => by
    rw [FieldsOrdered] at h
    rw [sortedFields, sorted_eq_self j h.1, sortedFields_eq_self fs h.2]

end

/-- A tree whose fields stand in order is read from its text by the reader that puts them there. -/
theorem parse?_render {j : Json} (h : j.Legible) (hordered : j.Ordered) :
    parse? j.render = if j.depth ≤ nestingLimit then some j else none := by
  rw [parse?, read?_render h]
  split
  · rw [Option.map_some, sorted_eq_self j hordered]
  · rfl

end Json

end SqlBuilder
