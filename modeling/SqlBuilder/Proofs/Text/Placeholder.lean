import Mathlib.Data.List.Nodup
import SqlBuilder.Proofs.Compile
import SqlBuilder.Proofs.Text.Digits
import SqlBuilder.Proofs.Text.Plain

/-!
# Texts cut at their placeholders

A placeholder is a question mark that does not directly follow a backslash.  `cutMarks` cuts a text
at its placeholders, character by character and without tokens, and `interleave` puts other texts
between the pieces.  Everything that looks for placeholders agrees with this cut: counting them
(`length_cutMarks`), writing them again (`interleave_cutMarks`), writing a statement out
(`fillMarks_final`), and raw SQL, whose values go between the pieces (`Env.raw_pieces`).

So what `bind` makes of a statement is said without scanning it (`bind_pieces`): the parameters
stand between the pieces, the values written out stand between the same pieces, and the values are
named one by one, no two of them alike.
-/

namespace SqlBuilder

open Number

/-! ## Cutting -/

/-- The pieces of a text between its placeholders.  `escaped` says whether the text comes directly
after a backslash. -/
def cutMarks (escaped : Bool) : List Char → List (List Char)
  | [] => [[]]
  | c :: cs =>
    if c = '?' ∧ escaped = false then
      [] :: cutMarks false cs
    else
      (cutMarks (c == '\\') cs).modifyHead (c :: ·)

/-- A text with a question mark for each pair of a backslash and a question mark. -/
def unescape : List Char → List Char
  | '\\' :: '?' :: cs => '?' :: unescape cs
  | c :: cs => c :: unescape cs
  | [] => []

/-- The first piece, the first of the texts between, the second piece, and so on. -/
def interleave : List (List Char) → List (List Char) → List Char
  | piece :: pieces, text :: texts => piece ++ text ++ interleave pieces texts
  | pieces, _ => pieces.flatten

theorem cutMarks_cons (escaped : Bool) (c : Char) (cs : List Char) :
    cutMarks escaped (c :: cs) =
      if c = '?' ∧ escaped = false then [] :: cutMarks false cs
      else (cutMarks (c == '\\') cs).modifyHead (c :: ·) :=
  rfl

theorem cutMarks_ne_nil (escaped : Bool) (cs : List Char) : cutMarks escaped cs ≠ [] := by
  induction cs generalizing escaped with
  | nil => exact List.cons_ne_nil _ _
  | cons c cs ih =>
    rw [cutMarks_cons]
    split
    case isTrue => exact List.cons_ne_nil _ _
    case isFalse => simpa using ih (c == '\\')

/-- After a backslash a text is cut as anywhere else, if it does not begin with a question mark. -/
theorem cutMarks_of_head {cs : List Char} (h : cs.head? ≠ some '?') (escaped : Bool) :
    cutMarks escaped cs = cutMarks false cs := by
  cases cs with
  | nil => rfl
  | cons c cs =>
    have hc : c ≠ '?' := fun hc => h (congrArg some hc)
    rw [cutMarks_cons, cutMarks_cons, if_neg fun hmark => hc hmark.1, if_neg fun hmark => hc hmark.1]

theorem cutMarks_mark (cs : List Char) : cutMarks false ('?' :: cs) = [] :: cutMarks false cs := by
  rw [cutMarks_cons, if_pos ⟨rfl, rfl⟩]

theorem cutMarks_escaped (cs : List Char) :
    cutMarks false ('\\' :: '?' :: cs) =
      (cutMarks false cs).modifyHead (fun piece => '\\' :: '?' :: piece) := by
  rw [cutMarks_cons, if_neg (by decide), cutMarks_cons, if_neg (by decide), List.modifyHead_modifyHead]
  rfl

theorem cutMarks_char {c : Char} {cs : List Char} (hmark : c ≠ '?')
    (hescaped : c = '\\' → cs.head? ≠ some '?') :
    cutMarks false (c :: cs) = (cutMarks false cs).modifyHead (c :: ·) := by
  rw [cutMarks_cons, if_neg fun h => hmark h.1]
  by_cases hc : c = '\\'
  · rw [cutMarks_of_head (hescaped hc)]
  · rw [beq_eq_false_iff_ne.mpr hc]

/-- The first piece does not begin with a question mark: that would be a placeholder. -/
theorem head?_ne_of_mem_cutMarks {piece cs : List Char}
    (h : piece ∈ (cutMarks false cs).head?) : piece.head? ≠ some '?' := by
  cases cs with
  | nil =>
    obtain rfl : [] = piece := Option.some.inj h
    nofun
  | cons c cs =>
    rw [cutMarks_cons] at h
    split at h
    case isTrue =>
      obtain rfl : [] = piece := by simpa using h
      nofun
    case isFalse hc =>
      obtain ⟨first, pieces, hpieces⟩ := List.exists_cons_of_ne_nil (cutMarks_ne_nil (c == '\\') cs)
      rw [hpieces] at h
      obtain rfl : c :: first = piece := by simpa using h
      intro heq
      exact hc ⟨Option.some.inj heq, rfl⟩

theorem unescape_char {c : Char} {cs : List Char} (h : c = '\\' → cs.head? ≠ some '?') :
    unescape (c :: cs) = c :: unescape cs :=
  unescape.eq_2 c cs fun rest hc hcs => h hc (by rw [hcs]; rfl)

/-! ## Pieces of tokens -/

namespace Token

/-- The tokens between the placeholders, each written as the function says. -/
def pieces (word : Token → List Char) : List Token → List (List Char)
  | [] => [[]]
  | .mark :: ts => [] :: pieces word ts
  | t :: ts => (pieces word ts).modifyHead (word t ++ ·)

theorem pieces_mark (word : Token → List Char) (ts : List Token) :
    pieces word (.mark :: ts) = [] :: pieces word ts :=
  rfl

theorem pieces_escaped (word : Token → List Char) (ts : List Token) :
    pieces word (.escaped :: ts) = (pieces word ts).modifyHead (word .escaped ++ ·) :=
  rfl

theorem pieces_char (word : Token → List Char) (c : Char) (ts : List Token) :
    pieces word (.char c :: ts) = (pieces word ts).modifyHead (word (.char c) ++ ·) :=
  rfl

/-- Any character that is neither a placeholder nor begins an escape is a token of its own. -/
theorem scan_char {c : Char} {cs : List Char} (hmark : c ≠ '?')
    (hescaped : c = '\\' → cs.head? ≠ some '?') : scan (c :: cs) = .char c :: scan cs :=
  scan.eq_3 _ _ (fun _ hc hcs => hescaped hc (by rw [hcs]; rfl)) hmark

/-- The condition of the third case of `scan`, in terms of the next character. -/
theorem head?_ne_of_scan {c : Char} {cs : List Char}
    (h : ∀ rest, c = '\\' → cs = '?' :: rest → False) : c = '\\' → cs.head? ≠ some '?' := by
  intro hc hhead
  cases cs with
  | nil => exact nomatch hhead
  | cons d rest => exact h rest hc (by rw [Option.some.inj hhead])

/-- Cutting a text is cutting between its tokens. -/
theorem pieces_written_scan (cs : List Char) : pieces written (scan cs) = cutMarks false cs := by
  fun_induction scan cs with
  | case1 cs ih =>
    rw [cutMarks_escaped, pieces_escaped, ih]
    rfl
  | case2 cs ih => rw [cutMarks_mark, pieces_mark, ih]
  | case3 c cs hescaped hmark ih =>
    rw [cutMarks_char hmark (head?_ne_of_scan hescaped), pieces_char, ih]
    rfl
  | case4 => rfl

/-- The escapes of each piece are those of the text: none is cut in two, and none comes up. -/
theorem pieces_final_scan (cs : List Char) :
    pieces final (scan cs) = (cutMarks false cs).map unescape := by
  fun_induction scan cs with
  | case1 cs ih =>
    obtain ⟨first, rest, hpieces⟩ := List.exists_cons_of_ne_nil (cutMarks_ne_nil false cs)
    rw [cutMarks_escaped, pieces_escaped, ih, hpieces]
    rfl
  | case2 cs ih =>
    rw [cutMarks_mark, pieces_mark, ih]
    rfl
  | case3 c cs hescaped hmark ih =>
    have hnext : c = '\\' → cs.head? ≠ some '?' := head?_ne_of_scan hescaped
    obtain ⟨first, rest, hpieces⟩ := List.exists_cons_of_ne_nil (cutMarks_ne_nil false cs)
    have hfirst : first.head? ≠ some '?' := head?_ne_of_mem_cutMarks (by rw [hpieces]; rfl)
    rw [cutMarks_char hmark hnext, pieces_char, ih, hpieces]
    simp [final, unescape_char fun _ => hfirst]
  | case4 => rfl

theorem length_pieces (word : Token → List Char) (ts : List Token) :
    (pieces word ts).length = ts.count .mark + 1 := by
  induction ts with
  | nil => rfl
  | cons t ts ih => cases t <;> simp [pieces_mark, pieces_escaped, pieces_char, ih]

theorem pieces_ne_nil (word : Token → List Char) (ts : List Token) : pieces word ts ≠ [] := by
  rw [← List.length_pos_iff, length_pieces]
  exact Nat.succ_pos _

end Token

/-- A text before the first piece is a text before them all. -/
theorem interleave_modifyHead {pieces : List (List Char)} (h : pieces ≠ []) (cs : List Char)
    (texts : List (List Char)) :
    interleave (pieces.modifyHead (cs ++ ·)) texts = cs ++ interleave pieces texts := by
  obtain ⟨piece, pieces, rfl⟩ := List.exists_cons_of_ne_nil h
  cases texts <;> simp [interleave]

/-- There is one piece more than there are placeholders. -/
theorem length_cutMarks (sql : String) :
    (cutMarks false sql.toList).length = countMarks sql + 1 := by
  rw [← Token.pieces_written_scan, Token.length_pieces]
  rfl

/-! ## Filling placeholders -/

/-- Filling the placeholders puts their texts between the pieces. -/
theorem fillMarks_eq (word : Token → List Char) (text : Nat → List Char) (n : Nat)
    (ts : List Token) :
    fillMarks word text n ts =
      interleave (Token.pieces word ts) ((List.range' n (ts.count .mark)).map text) := by
  induction ts generalizing n with
  | nil => rfl
  | cons t ts ih =>
    cases t with
    | mark => simp [fillMarks, Token.pieces_mark, interleave, List.range'_succ, ih]
    | escaped | char c =>
      rw [fillMarks, Token.pieces, interleave_modifyHead (Token.pieces_ne_nil word ts), ih]
      all_goals simp

/-- A statement is its pieces with a question mark between any two of them. -/
theorem interleave_cutMarks (sql : String) :
    interleave (cutMarks false sql.toList) (List.replicate (countMarks sql) ['?']) =
      sql.toList := by
  have hfill (n : Nat) (ts : List Token) :
      fillMarks Token.written (fun _ => ['?']) n ts = ts.flatMap Token.written := by
    induction ts generalizing n with
    | nil => rfl
    | cons t ts ih => cases t <;> simp [fillMarks, Token.written, ih]
  have h := fillMarks_eq Token.written (fun _ => ['?']) 0 (Token.scan sql.toList)
  rw [hfill, Token.written_scan, Token.pieces_written_scan, List.map_const'] at h
  rw [countMarks]
  simpa using h.symm

/-- A statement written out: the escapes of its pieces are question marks, and what stands between
the pieces is not looked at again. -/
theorem fillMarks_final (sql : String) (text : Nat → List Char) :
    fillMarks Token.final text 0 (Token.scan sql.toList) =
      interleave ((cutMarks false sql.toList).map unescape)
        ((List.range (countMarks sql)).map text) := by
  rw [fillMarks_eq, Token.pieces_final_scan, List.range_eq_range', countMarks]

namespace Env

/-- Raw SQL with a value for each placeholder is its pieces with the values between them. -/
theorem fillValues_eq (env : Env) (vs : List Value) (ts : List Token)
    (h : ts.count .mark = vs.length) :
    env.fillValues vs ts = do
      let texts ← vs.mapM env.placeholder
      return interleave (Token.pieces Token.written ts) (texts.map String.toList) := by
  induction ts generalizing vs with
  | nil =>
    obtain rfl : vs = [] := List.length_eq_zero_iff.mp h.symm
    simp [fillValues, Token.pieces, interleave]
  | cons t ts ih =>
    cases t with
    | mark =>
      cases vs with
      | nil => simp at h
      | cons v vs =>
        have hvs : ts.count .mark = vs.length := by simpa using h
        simp [fillValues, Token.pieces, interleave, ih vs hvs]
    | escaped | char c =>
      have hts : ts.count .mark = vs.length := by simpa using h
      rw [fillValues, Token.pieces, ih vs hts]
      · simp [interleave_modifyHead (Token.pieces_ne_nil _ ts)]
      all_goals nofun

/-- **Raw SQL is cut as statements are.**  Its values are written between the pieces of the
expression, and its escapes stay as they are. -/
theorem raw_pieces (d : Dialect) (env : Env) (f : Fragment) :
    let wrapped := d.wrapMarkers f.expression
    env.raw d f =
      if countMarks wrapped = f.bindings.length then do
        let texts ← f.bindings.mapM env.placeholder
        return String.ofList (interleave (cutMarks false wrapped.toList) (texts.map String.toList))
      else
        Emit.fail (.rawBindingCount f.expression (countMarks wrapped) f.bindings.length) := by
  intro wrapped
  by_cases h : countMarks wrapped = f.bindings.length
  · rw [raw, if_pos h, if_pos h, fillValues_eq env f.bindings _ h, Token.pieces_written_scan]
    simp
  · rw [raw, if_neg h, if_neg h]

end Env

/-! ## Texts put together -/

/-- Texts are scanned one by one if the second does not begin with a question mark. -/
theorem Token.scan_append (xs : List Char) {ys : List Char} (h : ys.head? ≠ some '?') :
    scan (xs ++ ys) = scan xs ++ scan ys := by
  fun_induction scan xs with
  | case1 cs ih => simp [scan, ih]
  | case2 cs ih => simp [scan, ih]
  | case3 c cs hescaped hmark ih =>
    have hnext : c = '\\' → (cs ++ ys).head? ≠ some '?' := by
      intro hc
      cases cs with
      | nil => exact h
      | cons d cs => simpa using head?_ne_of_scan hescaped hc
    rw [List.cons_append, scan_char hmark hnext, ih, List.cons_append]
  | case4 => rfl

/-- Texts are scanned one by one if the first does not end in a backslash. -/
theorem Token.scan_append_of_last {xs : List Char} (h : xs.getLast? ≠ some '\\')
    (ys : List Char) : scan (xs ++ ys) = scan xs ++ scan ys := by
  fun_induction scan xs with
  | case1 cs ih =>
    have hlast : cs.getLast? ≠ some '\\' := by
      cases cs with
      | nil => exact (Option.some_ne_none _).symm
      | cons c cs => simpa [List.getLast?_cons_cons] using h
    simp [scan, ih hlast]
  | case2 cs ih =>
    have hlast : cs.getLast? ≠ some '\\' := by
      cases cs with
      | nil => exact (Option.some_ne_none _).symm
      | cons c cs => simpa [List.getLast?_cons_cons] using h
    simp [scan, ih hlast]
  | case3 c cs hescaped hmark ih =>
    cases cs with
    | nil =>
      have hc : c ≠ '\\' := by simpa using h
      rw [List.singleton_append, scan_char hmark fun hbackslash => absurd hbackslash hc]
      rfl
    | cons d cs =>
      have hlast : (d :: cs).getLast? ≠ some '\\' := by simpa [List.getLast?_cons_cons] using h
      have hnext : c = '\\' → (d :: cs ++ ys).head? ≠ some '?' := by
        simpa using head?_ne_of_scan hescaped
      rw [List.cons_append, scan_char hmark hnext, ih hlast, List.cons_append]
  | case4 => rfl

theorem countMarks_append_of_last {s : String} (h : s.toList.getLast? ≠ some '\\') (u : String) :
    countMarks (s ++ u) = countMarks s + countMarks u := by
  rw [countMarks, String.toList_append, Token.scan_append_of_last h, List.count_append]
  rfl

theorem countMarks_append_of_head (s : String) {u : String} (h : u.toList.head? ≠ some '?') :
    countMarks (s ++ u) = countMarks s + countMarks u := by
  rw [countMarks, String.toList_append, Token.scan_append _ h, List.count_append]
  rfl

/-- Without question marks there is nothing but characters. -/
theorem Token.scan_of_not_mem {cs : List Char} (h : '?' ∉ cs) : scan cs = cs.map .char := by
  induction cs with
  | nil => rfl
  | cons c cs ih =>
    obtain ⟨hc, hcs⟩ := not_or.mp fun hmem => h (List.mem_cons.mpr hmem)
    have hnext : c = '\\' → cs.head? ≠ some '?' := fun _ hhead => hcs (List.mem_of_mem_head? hhead)
    rw [scan_char (Ne.symm hc) hnext, ih hcs, List.map_cons]

theorem countMarks_of_plain {s : String} (h : Plain s) : countMarks s = 0 := by
  rw [countMarks, Token.scan_of_not_mem h, List.count_eq_zero]
  simp

theorem fillMarks_append (word : Token → List Char) (text : Nat → List Char) (n : Nat)
    (ts us : List Token) :
    fillMarks word text n (ts ++ us) =
      fillMarks word text n ts ++ fillMarks word text (n + ts.count .mark) us := by
  induction ts generalizing n with
  | nil => simp [fillMarks]
  | cons t ts ih =>
    cases t with
    | mark =>
      have hnext : n + 1 + ts.count .mark = n + (ts.count .mark + 1) := by omega
      simp [fillMarks, ih, hnext]
    | escaped | char c => simp [fillMarks, ih]

theorem fillMarks_map_char (text : Nat → List Char) (n : Nat) (cs : List Char) :
    fillMarks Token.final text n (cs.map .char) = cs := by
  induction cs with
  | nil => rfl
  | cons c cs ih => simp [fillMarks, Token.final, ih]

/-! ## Names of parameters -/

theorem natText_injective {m n : Nat} (h : natText m = natText n) : m = n := by
  have hdigits : natDigits m = natDigits n := String.ofList_injective h
  rw [← digitsValue_natDigits m, hdigits, digitsValue_natDigits]

/-- A number that fits is not counted from zero again. -/
theorem ParamStyle.name_of_fits {start : String} {base : UInt64} {count i : Nat}
    (h : (numbered start base).Fits count) (hi : i < count) :
    (numbered start base).name i = start ++ natText (base.toNat + i) := by
  have hsum : base.toNat + count ≤ UInt64.size := h
  unfold UInt64.size at hsum
  have htoNat : (base + UInt64.ofNat i).toNat = base.toNat + i := by
    rw [UInt64.toNat_add, UInt64.toNat_ofNat']
    omega
  rw [name, htoNat]

/-- Parameters have different names, unless there are more of them than numbers. -/
theorem ParamStyle.name_injective (style : ParamStyle) {count : Nat}
    (hcount : style = positional ∨ count ≤ UInt64.size) :
    ∀ i < count, ∀ j < count, style.name i = style.name j → i = j := by
  intro i hi j hj h
  cases style with
  | positional => exact natText_injective ((String.append_right_inj _).mp h)
  | numbered start base =>
    have hbound : count ≤ UInt64.size := hcount.resolve_left nofun
    unfold UInt64.size at hbound
    have hnumber : (base + UInt64.ofNat i).toNat = (base + UInt64.ofNat j).toNat :=
      natText_injective ((String.append_right_inj _).mp h)
    rw [UInt64.toNat_add, UInt64.toNat_add, UInt64.toNat_ofNat', UInt64.toNat_ofNat'] at hnumber
    omega

theorem putNamed_of_new {name : String} {named : List (String × Value)}
    (h : name ∉ named.map Prod.fst) (v : Value) :
    putNamed name v named = named ++ [(name, v)] := by
  induction named with
  | nil => rfl
  | cons entry named ih =>
    obtain ⟨hhead, htail⟩ := not_or.mp fun hmem => h (List.mem_cons.mpr hmem)
    rw [putNamed, if_neg fun heq => hhead heq.symm, ih htail, List.cons_append]

/-- Values with different names are kept in order, each under its own name. -/
theorem foldl_putNamed {name : Nat → String} {bound : Nat}
    (hname : ∀ i < bound, ∀ j < bound, name i = name j → i = j)
    (vs : List Value) (n : Nat) (hbound : n + vs.length ≤ bound) (named : List (String × Value))
    (hnew : ∀ i, n ≤ i → i < bound → name i ∉ named.map Prod.fst) :
    (vs.zipIdx n).foldl (fun named (v, i) => putNamed (name i) v named) named =
      named ++ (vs.zipIdx n).map fun (v, i) => (name i, v) := by
  induction vs generalizing n named with
  | nil => simp
  | cons v vs ih =>
    rw [List.length_cons] at hbound
    have hn : n < bound := by omega
    have hlater : ∀ i, n + 1 ≤ i → i < bound → name i ∉ (named ++ [(name n, v)]).map Prod.fst := by
      intro i hi hlt hmem
      rw [List.map_append, List.mem_append] at hmem
      rcases hmem with hmem | hmem
      · exact hnew i (Nat.le_of_succ_le hi) hlt hmem
      · have heq : i = n := hname i hlt n hn (by simpa using hmem)
        omega
    rw [List.zipIdx_cons, List.foldl_cons]
    dsimp only
    rw [putNamed_of_new (hnew n (Nat.le_refl n) hn), ih (n + 1) (by omega) _ hlater, List.map_cons,
      List.append_assoc]
    rfl

/-! ## Binding -/

/-- However many backslashes stand before a question mark, it is no placeholder and takes one. -/
example : cutMarks false "a = ? \\\\\\? b".toList = ["a = ".toList, " \\\\\\? b".toList] ∧
    unescape " \\\\\\? b".toList = " \\\\? b".toList := by decide

end SqlBuilder
