import SqlBuilder.Proofs.Markup.Marker
import SqlBuilder.Proofs.Text.Alias
import SqlBuilder.Proofs.Text.Placeholder
import SqlBuilder.Proofs.Text.Quoting
import SqlBuilder.Query.Step

/-!
# Marked names in raw SQL

In raw SQL a name between markers, `{name}` or `[name]`, is put between the quotes of the dialect
as it stands (`Dialect.wrapMarkers_marking`).  Everywhere else a name is written by
`Dialect.quoteIdentifier`, which writes it as the database stores it.  The two agree for a name
that is stored as it is written (`Dialect.quoted_eq_quoteIdentifier_iff`): for every name in every
dialect but Firebird, which stores names in capital letters.
-/

namespace SqlBuilder

open Text Dialect

/-- A name that holds nothing with a meaning of its own between markers: no marker, no backslash, no
placeholder and no quote. -/
def Markable (name : String) : Prop :=
  ∀ c ∈ name.toList, c ∉ ['{', '}', '[', ']', '\\', '?', '"', '\x60']

-- Inference may decide this over every character there is; the name's own are enough.
instance (name : String) : Decidable (Markable name) :=
  List.decidableBAll (fun c => c ∉ _) name.toList

/-- The two ways in which raw SQL marks a name. -/
def markings (name : String) : List Fragment :=
  [⟨"\x7b" ++ name ++ "\x7d", []⟩, ⟨"[" ++ name ++ "]", []⟩]

/-- Nothing is doubled in a text without the character. -/
theorem Text.double_of_not_mem {c : Char} {s : String} (h : c ∉ s.toList) : double c s = s := by
  have hlist : s.toList.flatMap (fun x => if x = c then [c, c] else [x]) =
      s.toList.flatMap fun x => [x] := by
    refine List.flatMap_congr fun x hx => if_neg ?_
    rintro rfl
    exact h hx
  rw [double, replaceChar, hlist, List.flatMap_singleton', String.ofList_toList]

namespace Dialect

/-- A text between the quotes of a dialect, as it stands. -/
def quoted (d : Dialect) (s : String) : String :=
  String.singleton d.quotes.1 ++ s ++ String.singleton d.quotes.2

variable {d : Dialect} {name : String}

/-- Characters that are neither markers nor backslashes stay what they are. -/
theorem wrapMarkersList_append_of_unmarked {cs : List Char} (rest : List Char)
    (h : ∀ c ∈ cs, c ≠ '\\' ∧ opensMarker c = false ∧ closesMarker c = false) :
    d.wrapMarkersList (cs ++ rest) = cs ++ d.wrapMarkersList rest := by
  induction cs with
  | nil => rfl
  | cons c cs ih =>
    obtain ⟨⟨hbackslash, hopen, hclose⟩, hcs⟩ := List.forall_mem_cons.mp h
    rw [List.cons_append, wrapMarkersList_cons fun h => absurd h hbackslash, hopen, hclose,
      ih hcs]
    rfl

/-- A marker before a name and a marker after it become the quotes of the dialect. -/
theorem wrapMarkers_marked (h : Markable name) (first last : Char) (hfirst : opensMarker first)
    (hlast : closesMarker last) :
    d.wrapMarkers (String.singleton first ++ name ++ String.singleton last) = d.quoted name := by
  have hname : ∀ c ∈ name.toList, c ≠ '\\' ∧ opensMarker c = false ∧ closesMarker c = false := by
    intro c hc
    have hplain := h c hc
    simp only [List.mem_cons, not_or] at hplain
    simp [opensMarker, closesMarker, hplain]
  have hopen : first ≠ '\\' := by
    rintro rfl
    exact absurd hfirst (by decide)
  have hclose : last ≠ '\\' ∧ opensMarker last = false := by
    have hlast : last = '}' ∨ last = ']' := by simpa [closesMarker] using hlast
    obtain rfl | rfl := hlast <;> decide
  have hlist : d.wrapMarkersList (first :: (name.toList ++ [last])) =
      d.quotes.1 :: (name.toList ++ [d.quotes.2]) := by
    rw [wrapMarkersList_cons fun h => absurd h hopen, if_pos hfirst,
      wrapMarkersList_append_of_unmarked _ hname,
      wrapMarkersList_cons fun h => absurd h hclose.1, hclose.2, hlast]
    rfl
  apply String.toList_injective
  simp [wrapMarkers, quoted, hlist]

/-- Both ways of marking a name put it between the quotes of the dialect. -/
theorem wrapMarkers_marking (h : Markable name) {f : Fragment} (hf : f ∈ markings name) :
    d.wrapMarkers f.expression = d.quoted name ∧ f.bindings = [] := by
  simp only [markings, List.mem_cons, List.not_mem_nil, or_false] at hf
  obtain rfl | rfl := hf
  · exact ⟨wrapMarkers_marked h '{' '}' rfl rfl, rfl⟩
  · exact ⟨wrapMarkers_marked h '[' ']' rfl rfl, rfl⟩

/-- The quotes of a dialect are in no markable name. -/
theorem quotes_not_mem (h : Markable name) :
    d.quotes.1 ∉ name.toList ∧ d.quotes.2 ∉ name.toList := by
  refine ⟨fun hmem => h _ hmem ?_, fun hmem => h _ hmem ?_⟩ <;> cases d <;> decide

/-- A text in quotes is read back as it stands if it does not hold the closing one. -/
theorem readQuoted_quoted (hclose : d.quotes.2 ∉ name.toList) :
    readQuoted d.quotes .outside (d.quoted name).toList = some [.quoted name.toList] := by
  have hdouble := double_of_not_mem hclose
  have hread := readQuoted_double d.quotes name.toList [] [] nofun
  have hlist := congrArg String.toList hdouble
  simp only [double, replaceChar, String.toList_ofList] at hlist
  rw [hlist] at hread
  simpa [quoted, readQuoted] using hread

/-- A name is quoted as it stands just if it is stored as it stands. -/
theorem quoted_eq_quoteIdentifier_iff (hclose : d.quotes.2 ∉ name.toList) (hstar : name ≠ "*") :
    d.quoted name = d.quoteIdentifier name ↔ d.storedName name = name := by
  constructor
  · intro h
    have hread := d.readQuoted_quoteIdentifier_self name
    rw [← h, readQuoted_quoted hclose, lexeme, if_neg hstar] at hread
    obtain ⟨hstored, -⟩ := List.cons.inj (Option.some.inj hread)
    exact (String.toList_injective (Lexeme.quoted.inj hstored)).symm
  · intro h
    rw [quoteIdentifier, if_neg hstar, h, double_of_not_mem hclose, quoted]

/-- Only Firebird stores a name in another way than it is written. -/
theorem storedName_eq_self (hd : d ≠ .firebird) : d.storedName name = name := by
  cases d
  case firebird => exact absurd rfl hd
  all_goals rfl

end Dialect

theorem Markable.plain_quoted {d : Dialect} {name : String} (h : Markable name) :
    Plain (d.quoted name) := by
  obtain ⟨hopen, hclose, -⟩ := d.quotes_unmarked
  have hname : Plain name := fun hmem => h _ hmem (by decide)
  exact ((plain_singleton hopen).append hname).append (plain_singleton hclose)

/-! ## Raw expressions -/

/-- Raw SQL without placeholders and values is written with its markers turned into quotes. -/
theorem Env.raw_of_plain (d : Dialect) (env : Env) {f : Fragment}
    (hplain : Plain (d.wrapMarkers f.expression)) (hvalues : f.bindings = []) :
    env.raw d f = pure (d.wrapMarkers f.expression) := by
  have hcount := countMarks_of_plain hplain
  have hpieces := interleave_cutMarks (d.wrapMarkers f.expression)
  rw [hcount, List.replicate_zero] at hpieces
  rw [Env.raw_pieces, hvalues, List.length_nil, if_pos hcount]
  simp [hpieces]

/-- A text that carries an alias holds ` as `. -/
theorem Text.infix_of_splitAlias? {s : String} {parts : String × String}
    (h : splitAlias? s = some parts) : " as ".toList <:+: s.toList.map Char.toLower := by
  obtain ⟨⟨name, aliasName⟩, hlist, -⟩ := Option.map_eq_some_iff.mp h
  obtain ⟨before, after, hcut, -⟩ := splitAliasList?_eq_some.mp hlist
  obtain ⟨c, rest, hs, hhere, -, -⟩ := cutLast?_eq_some hcut
  have hmark : ((c :: rest).take 4).map Char.toLower = " as ".toList := by
    simpa [atAliasMark] using hhere
  refine ⟨before.map Char.toLower, ((c :: rest).drop 4).map Char.toLower, ?_⟩
  rw [← hmark, List.append_assoc, ← List.map_append, List.take_append_drop, ← List.map_append, hs]

/-- **Marked names and identifiers.**  In every dialect, both ways of marking a name in raw SQL
write it between the quotes of the dialect, as it stands.  That is how the name is written
elsewhere just if the database stores it as it is written, which Firebird alone may not do. -/
theorem Env.raw_marking (d : Dialect) (env : Env) {name : String} (hname : Markable name)
    (hstar : name ≠ "*") {f : Fragment} (hf : f ∈ markings name) :
    env.raw d f = pure (d.quoted name) ∧
    (env.raw d f = pure (d.quoteIdentifier name) ↔ d.storedName name = name) ∧
    (d ≠ .firebird → env.raw d f = pure (d.quoteIdentifier name)) ∧
    ('.' ∉ name.toList → ¬ " as ".toList <:+: name.toList.map Char.toLower → trim name = name →
      d.wrap name = d.quoteIdentifier name) := by
  obtain ⟨htext, hvalues⟩ := wrapMarkers_marking (d := d) hname hf
  obtain ⟨-, hclose⟩ := quotes_not_mem (d := d) hname
  have hraw : env.raw d f = pure (d.quoted name) := by
    rw [← htext]
    exact env.raw_of_plain d (htext ▸ hname.plain_quoted) hvalues
  have hiff : env.raw d f = pure (d.quoteIdentifier name) ↔ d.storedName name = name := by
    rw [hraw, ← quoted_eq_quoteIdentifier_iff hclose hstar]
    exact ⟨fun h => Except.ok.inj (congrArg Emit.outcome h), congrArg pure⟩
  refine ⟨hraw, hiff, fun hd => hiff.mpr (storedName_eq_self hd), fun hdot halias hblank => ?_⟩
  have hnone : splitAlias? name = none :=
    Option.eq_none_iff_forall_ne_some.mpr fun parts h => halias (infix_of_splitAlias? h)
  exact d.wrap_eq_quoteIdentifier_iff.mpr ⟨hnone, hdot, by rw [hblank]⟩

theorem Env.raw_marking_order :
    Markable "order" ∧ "order" ≠ "*" ∧ ⟨"[order]", []⟩ ∈ markings "order" ∧
      ({} : Env).raw .mySql ⟨"[order]", []⟩ = pure (Dialect.mySql.wrap "order") := by
  have hname : Markable "order" := by decide
  have hstar : "order" ≠ "*" := by decide
  have hf : ⟨"[order]", []⟩ ∈ markings "order" := by simp [markings]
  obtain ⟨-, -, hraw, hwrap⟩ := Env.raw_marking .mySql {} hname hstar hf
  refine ⟨hname, hstar, hf, ?_⟩
  rw [hwrap (by decide) (by decide) (by decide), hraw (by decide)]

/-- Firebird stores `id` as `ID`, but a marked `id` is not written so: the rows of this query are
ordered by two columns. -/
theorem compile_marking_firebird :
    let f : Fragment := ⟨"\x7bid\x7d", []⟩
    let q : Query := runAll [.fromTable "t", .orderBy "id" true, .orderByRaw f] {}
    Markable "id" ∧ f ∈ markings "id" ∧
    (({} : Env).raw .firebird f).outcome.toOption = some "\"id\"" ∧
    Dialect.firebird.quoteIdentifier "id" = "\"ID\"" ∧
    (compile ⟨.firebird, {}⟩ q).toOption.map (·.rawSql) =
      some "SELECT * FROM \"T\" ORDER BY \"ID\", \"id\"" := by
  refine ⟨by decide, by simp [markings], ?_⟩
  decide +kernel

end SqlBuilder
