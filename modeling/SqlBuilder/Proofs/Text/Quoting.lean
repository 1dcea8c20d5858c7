import SqlBuilder.Proofs.Text.Identifier

/-!
# Reading quoted names back

`readQuoted` reads a text by the quoting rule of a dialect: a name stands between its quotes, and a
closing quote that belongs to the name is doubled.  Everything else is read character by character,
and a name whose quote is never closed is not read at all.

No name gets out of its quotes: whatever stands in it, it is read back as it was, up to the quote
after which the text goes on (`readQuoted_quoteIdentifier`).  So the text that `Dialect.wrap` makes
of any string is read to its end, as the parts of the name, the dots between them and the aliases
(`Dialect.wrap_lexemes`), and different names are quoted differently
(`Dialect.quoteIdentifier_inj`).
-/

namespace SqlBuilder

open Text

/-! ## Reading -/

/-- What is read at a place of a text with quoted names. -/
inductive Lexeme where
  /-- A name in quotes, without them. -/
  | quoted (name : List Char)
  /-- A character that stands outside of quotes. -/
  | plain (c : Char)
deriving DecidableEq

/-- Where reading has come to. -/
inductive QuoteState where
  | outside
  /-- In the quotes of a name, of which so much has been read. -/
  | inside (name : List Char)
  /-- After a closing quote, which ends the name unless it is doubled. -/
  | closing (name : List Char)

/-- Reads a text with quoted names, between the two quotes that are given. -/
def readQuoted (quotes : Char × Char) : QuoteState → List Char → Option (List Lexeme)
  | .outside, [] => some []
  | .inside _, [] => none
  | .closing name, [] => some [.quoted name]
  | .outside, c :: cs =>
    if c = quotes.1 then
      readQuoted quotes (.inside []) cs
    else
      (readQuoted quotes .outside cs).map (.plain c :: ·)
  | .inside name, c :: cs =>
    if c = quotes.2 then
      readQuoted quotes (.closing name) cs
    else
      readQuoted quotes (.inside (name ++ [c])) cs
  | .closing name, c :: cs =>
    if c = quotes.2 then
      readQuoted quotes (.inside (name ++ [c])) cs
    else if c = quotes.1 then
      (readQuoted quotes (.inside []) cs).map (.quoted name :: ·)
    else
      (readQuoted quotes .outside cs).map (.quoted name :: .plain c :: ·)

variable (quotes : Char × Char)

/-- After a closing quote that is not doubled, the name is over. -/
theorem readQuoted_closing (name : List Char) {rest : List Char}
    (hrest : rest.head? ≠ some quotes.2) :
    readQuoted quotes (.closing name) rest =
      (readQuoted quotes .outside rest).map (.quoted name :: ·) := by
  cases rest with
  | nil => rfl
  | cons c cs =>
    have hc : c ≠ quotes.2 := fun hc => hrest (congrArg some hc)
    rw [readQuoted, readQuoted, if_neg hc]
    split
    case isTrue => rfl
    case isFalse => rw [Option.map_map]; rfl

/-- A name with its closing quotes doubled is read as it was, to the quote that closes it. -/
theorem readQuoted_double (cs name rest : List Char) (hrest : rest.head? ≠ some quotes.2) :
    readQuoted quotes (.inside name)
        ((cs.flatMap fun c => if c = quotes.2 then [quotes.2, quotes.2] else [c]) ++
          quotes.2 :: rest) =
      (readQuoted quotes .outside rest).map (.quoted (name ++ cs) :: ·) := by
  induction cs generalizing name with
  | nil => simp [readQuoted, readQuoted_closing quotes name hrest]
  | cons c cs ih =>
    have hname : name ++ c :: cs = (name ++ [c]) ++ cs := by simp
    rw [hname, ← ih (name ++ [c])]
    by_cases hc : c = quotes.2
    · simp [readQuoted, hc]
    · simp [readQuoted, hc]

/-- Characters that open no quotes are read one by one. -/
theorem readQuoted_plain (cs rest : List Char) (h : quotes.1 ∉ cs) :
    readQuoted quotes .outside (cs ++ rest) =
      (readQuoted quotes .outside rest).map (cs.map .plain ++ ·) := by
  induction cs with
  | nil => simp
  | cons c cs ih =>
    obtain ⟨hc, hcs⟩ := not_or.mp fun hmem => h (List.mem_cons.mpr hmem)
    rw [List.cons_append, readQuoted, if_neg (Ne.symm hc), ih hcs, Option.map_map]
    rfl

namespace Dialect

variable (d : Dialect)

/-! ## Names -/

/-- What a quoted name is read as: itself, as the database stores it, or a star. -/
def lexeme (name : String) : Lexeme :=
  if name = "*" then .plain '*' else .quoted (d.storedName name).toList

/-- The quotes of a dialect are none of the characters between names. -/
theorem quotes_ne : d.quotes.1 ≠ '*' ∧ d.quotes.2 ≠ '.' ∧ d.quotes.2 ≠ ' ' ∧
    d.quotes.1 ≠ '.' ∧ d.quotes.1 ∉ (" " ++ d.aliasKeyword).toList := by
  cases d <;> decide

/-- **A name stays in its quotes**: it is read back as it was, and reading goes on after it. -/
theorem readQuoted_quoteIdentifier (name : String) {rest : List Char}
    (hrest : rest.head? ≠ some d.quotes.2) :
    readQuoted d.quotes .outside ((d.quoteIdentifier name).toList ++ rest) =
      (readQuoted d.quotes .outside rest).map (d.lexeme name :: ·) := by
  rw [quoteIdentifier, lexeme]
  split
  case isTrue hstar =>
    rw [hstar]
    exact readQuoted_plain d.quotes ['*'] rest (by simpa using d.quotes_ne.1)
  case isFalse =>
    have h := readQuoted_double d.quotes (d.storedName name).toList [] rest hrest
    simpa [readQuoted, double, replaceChar] using h

theorem readQuoted_quoteIdentifier_self (name : String) :
    readQuoted d.quotes .outside (d.quoteIdentifier name).toList = some [d.lexeme name] := by
  have hrest : ([] : List Char).head? ≠ some d.quotes.2 := nofun
  simpa [readQuoted] using d.readQuoted_quoteIdentifier name hrest

/-- Names are quoted alike just when they are stored alike; only a star is written as a star. -/
theorem quoteIdentifier_inj {a b : String} :
    d.quoteIdentifier a = d.quoteIdentifier b ↔
      a = b ∨ (a ≠ "*" ∧ b ≠ "*" ∧ d.storedName a = d.storedName b) := by
  constructor
  · intro h
    have hlexeme : d.lexeme a = d.lexeme b := by
      have ha := d.readQuoted_quoteIdentifier_self a
      rw [h, d.readQuoted_quoteIdentifier_self b] at ha
      exact (List.cons.inj (Option.some.inj ha)).1.symm
    by_cases ha : a = "*" <;> by_cases hb : b = "*"
    · exact .inl (ha.trans hb.symm)
    · simp [lexeme, ha, hb] at hlexeme
    · simp [lexeme, ha, hb] at hlexeme
    · rw [lexeme, lexeme, if_neg ha, if_neg hb, Lexeme.quoted.injEq] at hlexeme
      exact .inr ⟨ha, hb, String.toList_injective hlexeme⟩
  · rintro (rfl | ⟨ha, hb, hstored⟩)
    · rfl
    · rw [quoteIdentifier, quoteIdentifier, if_neg ha, if_neg hb, hstored]

/-! ## Dotted names with aliases -/

/-- Names with dots between them are read one by one. -/
theorem readQuoted_path (names : List String) {rest : List Char}
    (hrest : rest.head? ≠ some d.quotes.2) :
    readQuoted d.quotes .outside
        ((String.intercalate "." (names.map d.quoteIdentifier)).toList ++ rest) =
      (readQuoted d.quotes .outside rest).map
        ((names.map d.lexeme).intersperse (.plain '.') ++ ·) := by
  obtain ⟨-, hdot, -, hopen, -⟩ := d.quotes_ne
  induction names with
  | nil => simp
  | cons name names ih =>
    cases names with
    | nil => simpa using d.readQuoted_quoteIdentifier name hrest
    | cons next names =>
      have htext : (String.intercalate "." ((name :: next :: names).map d.quoteIdentifier)).toList =
          (d.quoteIdentifier name).toList ++
            '.' :: (String.intercalate "." ((next :: names).map d.quoteIdentifier)).toList := by
        simp [String.intercalate_cons_cons]
      have hplain := readQuoted_plain d.quotes ['.']
        ((String.intercalate "." ((next :: names).map d.quoteIdentifier)).toList ++ rest)
        (by simpa using hopen)
      rw [htext, List.append_assoc, d.readQuoted_quoteIdentifier name (by simpa using Ne.symm hdot),
        List.cons_append, ← List.singleton_append, hplain, ih, Option.map_map, Option.map_map]
      rfl

/-- What the text of an alias is read as. -/
def aliasLexemes (name : String) : List Lexeme :=
  (" " ++ d.aliasKeyword).toList.map .plain ++ [d.lexeme name]

theorem head?_aliases_ne (aliases : List String) :
    (String.join (aliases.map d.aliasText)).toList.head? ≠ some d.quotes.2 := by
  obtain ⟨-, -, hblank, -, -⟩ := d.quotes_ne
  cases aliases with
  | nil => simp
  | cons name aliases => simpa [aliasText] using Ne.symm hblank

theorem readQuoted_aliases (aliases : List String) :
    readQuoted d.quotes .outside (String.join (aliases.map d.aliasText)).toList =
      some (aliases.flatMap d.aliasLexemes) := by
  obtain ⟨-, -, -, -, hkeyword⟩ := d.quotes_ne
  induction aliases with
  | nil => rfl
  | cons name aliases ih =>
    have htext : (String.join ((name :: aliases).map d.aliasText)).toList =
        (" " ++ d.aliasKeyword).toList ++ ((d.quoteIdentifier name).toList ++
          (String.join (aliases.map d.aliasText)).toList) := by
      simp [aliasText]
    rw [htext, readQuoted_plain _ _ _ hkeyword,
      d.readQuoted_quoteIdentifier name (d.head?_aliases_ne aliases), ih]
    simp [aliasLexemes]

end Dialect

namespace Identifier

theorem splitAliases_eq (cs : List Char) :
    splitAliases cs = match splitAliasList? cs with
      | some (name, aliasName) =>
        ((splitAliases name).1, (splitAliases name).2 ++ [aliasName])
      | none => (cs, []) := by
  rw [splitAliases]
  split
  case h_1 name aliasName h => simp only [h]
  case h_2 h => simp only [h]

/-- The last alias of a text is cut off first; a text without one is cut at its dots. -/
theorem ofText_eq (s : String) :
    ofText s = match splitAlias? s with
      | some (name, aliasName) =>
        { ofText name with aliases := (ofText name).aliases ++ [aliasName] }
      | none => { path := (splitOn '.' s).map trim, aliases := [] } := by
  rw [ofText, splitAliases_eq, splitAlias?]
  cases splitAliasList? s.toList with
  | none => simp [splitOn, trim, Function.comp_def]
  | some parts => simp [ofText]

/-- A name is a single part just if it has neither an alias nor a dot. -/
theorem ofText_eq_single_iff {s part : String} :
    ofText s = { path := [part], aliases := [] } ↔
      splitAlias? s = none ∧ '.' ∉ s.toList ∧ part = trim s := by
  rw [ofText_eq]
  cases splitAlias? s with
  | some parts => simp
  | none =>
    have hpath : (splitOn '.' s).map trim = [part] ↔ '.' ∉ s.toList ∧ part = trim s := by
      simp only [splitOn, List.map_eq_singleton_iff, List.map_map, Function.comp_apply,
        splitOnList_eq_singleton_iff]
      constructor
      · rintro ⟨piece, ⟨hdot, rfl⟩, rfl⟩
        exact ⟨hdot, by rw [String.ofList_toList]⟩
      · rintro ⟨hdot, rfl⟩
        exact ⟨_, ⟨hdot, rfl⟩, by rw [String.ofList_toList]⟩
    simpa using hpath

/-- Only a single part without aliases is read as a single lexeme. -/
theorem eq_single_of_lexemes {d : Dialect} {i : Identifier} {l : Lexeme} (hpath : i.path ≠ [])
    (h : (i.path.map d.lexeme).intersperse (.plain '.') ++ i.aliases.flatMap d.aliasLexemes = [l]) :
    ∃ part, i = { path := [part], aliases := [] } := by
  obtain ⟨path, aliases⟩ := i
  obtain ⟨part, parts, rfl⟩ := List.exists_cons_of_ne_nil hpath
  have hlength := congrArg List.length h
  cases parts with
  | cons second parts => simp at hlength
  | nil =>
    cases aliases with
    | nil => exact ⟨part, rfl⟩
    | cons a aliases => simp [Dialect.aliasLexemes] at hlength

end Identifier

namespace Dialect

/-- What the text of a name is read as: its parts with dots between them, and its aliases. -/
theorem readQuoted_wrap (d : Dialect) (s : String) :
    readQuoted d.quotes .outside (d.wrap s).toList =
      some (((Identifier.ofText s).path.map d.lexeme).intersperse (.plain '.') ++
        (Identifier.ofText s).aliases.flatMap d.aliasLexemes) := by
  rw [wrap, Identifier.text_eq, String.toList_append,
    d.readQuoted_path _ (d.head?_aliases_ne _), d.readQuoted_aliases]
  rfl

/-- **Quoting cannot be broken out of.**  A name is written as its parts, in quotes, with dots
between them, and each of its aliases after the keyword for aliases; read by the quoting rule of the
dialect, this is the parts and the aliases again, to the end of the text, so that nothing of the
name stands outside of quotes but stars. -/
theorem wrap_lexemes (d : Dialect) (s : String) :
    let i := Identifier.ofText s
    d.wrap s = String.intercalate "." (i.path.map d.quoteIdentifier) ++
        String.join (i.aliases.map fun a => " " ++ d.aliasKeyword ++ d.quoteIdentifier a) ∧
      readQuoted d.quotes .outside (d.wrap s).toList =
        some ((i.path.map d.lexeme).intersperse (.plain '.') ++
          i.aliases.flatMap fun a => (" " ++ d.aliasKeyword).toList.map .plain ++ [d.lexeme a]) ∧
      (i = match splitAlias? s with
        | some (name, aliasName) =>
          { Identifier.ofText name with
            aliases := (Identifier.ofText name).aliases ++ [aliasName] }
        | none => { path := (splitOn '.' s).map trim, aliases := [] }) ∧
      ∀ a b, d.quoteIdentifier a = d.quoteIdentifier b ↔
        a = b ∨ (a ≠ "*" ∧ b ≠ "*" ∧ d.storedName a = d.storedName b) := by
  intro i
  have htext : d.wrap s = String.intercalate "." (i.path.map d.quoteIdentifier) ++
      String.join (i.aliases.map d.aliasText) := i.text_eq d
  exact ⟨htext, d.readQuoted_wrap s, Identifier.ofText_eq s, fun a b => d.quoteIdentifier_inj⟩

/-- A text is written as a single name just if it is one: it has no alias and no dot, and without
the blanks around it, it is quoted as that name. -/
theorem wrap_eq_quoteIdentifier_iff (d : Dialect) {s name : String} :
    d.wrap s = d.quoteIdentifier name ↔
      splitAlias? s = none ∧ '.' ∉ s.toList ∧
        d.quoteIdentifier (trim s) = d.quoteIdentifier name := by
  have hwrap {part : String} (h : Identifier.ofText s = { path := [part], aliases := [] }) :
      d.wrap s = d.quoteIdentifier part := by
    rw [wrap, h]
    simp [Identifier.text_eq]
  constructor
  · intro h
    -- a single name is read, so there is a single part
    have hread := d.readQuoted_wrap s
    rw [h, d.readQuoted_quoteIdentifier_self] at hread
    obtain ⟨part, hs⟩ := Identifier.eq_single_of_lexemes (Identifier.path_ofText_ne_nil s)
      (Option.some.inj hread).symm
    obtain ⟨halias, hdot, rfl⟩ := Identifier.ofText_eq_single_iff.mp hs
    exact ⟨halias, hdot, (hwrap hs).symm.trans h⟩
  · rintro ⟨halias, hdot, hname⟩
    rw [← hname]
    exact hwrap (Identifier.ofText_eq_single_iff.mpr ⟨halias, hdot, rfl⟩)

end Dialect

end SqlBuilder
