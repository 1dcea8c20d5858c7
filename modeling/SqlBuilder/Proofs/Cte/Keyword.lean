import SqlBuilder.Proofs.Paging.Text
import SqlBuilder.Render.Statement

/-!
# What a statement begins with

A select that is rendered begins with SELECT, whatever its paging puts around it, and a mutation
begins with its own word (`renderData_begins`).  So the WITH before a statement can be told from the
statement, and the body of a common table expression has no WITH at its front
(`Source.renderBody_begins`).
-/

namespace SqlBuilder

/-! ## Results with a property -/

namespace Emit

variable {α β : Type} {P : α → Prop}

/-- Whatever the part comes to has the property. -/
def Ensures (P : α → Prop) (x : Emit α) : Prop :=
  ∀ a, x.outcome = .ok a → P a

theorem Ensures.pure {a : α} (h : P a) : Ensures P (pure a) := by
  intro b hb
  obtain rfl := Except.ok.inj hb
  exact h

theorem Ensures.fail (e : Error) : Ensures P (fail e) :=
  fun _ ha => nomatch ha

theorem Ensures.bind {x : Emit β} {f : β → Emit α} {R : β → Prop} (hx : Ensures R x)
    (hf : ∀ b, R b → Ensures P (f b)) : Ensures P (x >>= f) := by
  intro a ha
  obtain ⟨b, hb, ha⟩ := of_bind_ok ha
  exact hf b (hx b hb) a ha

/-- Only what comes last matters. -/
theorem Ensures.last {x : Emit β} {f : β → Emit α} (hf : ∀ b, Ensures P (f b)) :
    Ensures P (x >>= f) :=
  .bind (R := fun _ => True) (fun _ _ => trivial) fun b _ => hf b

theorem Ensures.mapM {f : β → Emit α} {xs : List β} (hf : ∀ x, Ensures P (f x)) :
    Ensures (fun ys => ys.length = xs.length ∧ ∀ y ∈ ys, P y) (xs.mapM f) := by
  induction xs with
  | nil => exact .pure ⟨rfl, fun y hy => absurd hy List.not_mem_nil⟩
  | cons x xs ih =>
    rw [List.mapM_cons]
    refine .bind (hf x) fun y hy => .bind ih fun ys hys => .pure ?_
    exact ⟨congrArg Nat.succ hys.1, List.forall_mem_cons.mpr ⟨hy, hys.2⟩⟩

theorem Ensures.ite {c : Prop} [Decidable c] {x y : Emit α} (hx : Ensures P x)
    (hy : Ensures P y) : Ensures P (if c then x else y) := by
  by_cases hc : c
  · rwa [if_pos hc]
  · rwa [if_neg hc]

end Emit

/-! ## Words at the front -/

/-- The text begins with the word. -/
def Begins (word text : String) : Prop :=
  ∃ rest, text = word ++ rest

namespace Begins

variable {word text : String}

theorem append (h : Begins word text) (rest : String) : Begins word (text ++ rest) := by
  obtain ⟨middle, rfl⟩ := h
  exact ⟨middle ++ rest, String.append_assoc ..⟩

theorem self (word : String) : Begins word word :=
  ⟨"", (String.append_empty ..).symm⟩

theorem isEmpty (h : Begins word text) (hword : word.isEmpty = false) : text.isEmpty = false := by
  obtain ⟨rest, rfl⟩ := h
  simp_all

/-- The first of several sections is at their front. -/
theorem joinSections (h : Begins word text) (hword : word.isEmpty = false) (rest : List String) :
    Begins word (joinSections (text :: rest)) := by
  rw [joinSections_cons (h.isEmpty hword)]
  exact h.append _

end Begins

variable {t : Target} {env : Env} (s : Sections Rendered)

/-! ## Selects -/

theorem renderSections_begins : (renderSections t env s).Ensures (Begins "SELECT ") := by
  have hhead : (renderHead t env s).Ensures fun head => Begins "SELECT " head.1 := by
    refine .last fun (words, rest) => .last fun list => .pure ?_
    exact (((Begins.self _).append _).append _).append _ |>.append _
  refine .bind hhead fun (head, paging) h => ?_
  refine .last fun source => .last fun joins => .last fun filters => .last fun groups => ?_
  refine .last fun havings => .last fun orders => .last fun page => .last fun combines => ?_
  exact .last fun lock => .pure (h.joinSections (by decide) _)

theorem renderPlain_begins : (renderPlain t env s).Ensures (Begins "SELECT ") := by
  have hwrapped : ∀ rest, Begins "SELECT " ("SELECT * FROM (" ++ rest) :=
    fun rest => ⟨"* FROM (" ++ rest, by rw [← String.append_assoc]; rfl⟩
  have hnumber : ∀ (p : Paging) body,
      (wrapRowNumber t.dialect p body).Ensures (Begins "SELECT ") := by
    intro p body
    have hpage : ∀ filter : String, (pure ("SELECT * FROM (" ++ body ++ ") " ++
        t.dialect.aliasKeyword ++ rowNumberTable t.dialect ++ " WHERE " ++ filter) :
        Emit String).Ensures (Begins "SELECT ") := by
      intro filter
      refine .pure ?_
      simp only [String.append_assoc]
      exact hwrapped _
    refine .last fun first => .last fun firstMark => .ite ?_ (.last hpage)
    exact .last fun last => .last fun lastMark => .last hpage
  have hcount : ∀ (p : Paging) body,
      (wrapRowCount t.dialect p body).Ensures (Begins "SELECT ") := by
    intro p body
    refine .ite (.last fun m => .pure ?_) (.ite (.last fun n => .pure ?_) ?_)
    · simp only [String.append_assoc]
      exact hwrapped _
    · simp only [String.append_assoc]
      exact hwrapped _
    · refine .last fun last => .last fun lastMark => .last fun m => .pure ?_
      simp only [String.append_assoc]
      exact hwrapped _
  unfold renderPlain
  cases t.pagination with
  | topRowNumber =>
    exact .ite (.last fun numbered => .last fun body => hnumber _ _) (renderSections_begins s)
  | rowCount => exact .ite (.last fun body => hcount _ _) (renderSections_begins s)
  | limitOffset _ | offsetFetch _ | firstSkip => exact renderSections_begins s

/-- A select or an aggregate begins with SELECT. -/
theorem renderBody_begins : (renderBody t env s).Ensures (Begins "SELECT ") := by
  unfold renderBody
  refine .ite ?_ (renderPlain_begins s)
  cases s.aggregateForm with
  | flat select => exact renderSections_begins select
  | wrapped function rows =>
    refine .last fun sql => .pure ?_
    exact ((((Begins.self _).append _).append _).append _).append _ |>.append _
  | hollow => exact renderSections_begins {}

/-! ## Statements -/

theorem renderInsert_begins : (renderInsert t env s).Ensures (Begins "INSERT ") := by
  have hinto : ∀ rest, Begins "INSERT " ("INSERT INTO " ++ rest) :=
    fun rest => ⟨"INTO " ++ rest, by rw [← String.append_assoc]; rfl⟩
  have hall : ∀ rest, Begins "INSERT " ("INSERT ALL " ++ rest) :=
    fun rest => ⟨"ALL " ++ rest, by rw [← String.append_assoc]; rfl⟩
  refine .last fun table => ?_
  cases s.inserts with
  | nil => exact .fail _
  | cons i rest =>
    cases i with
    | query columns query =>
      refine .last fun select => .pure ?_
      simp only [String.append_assoc]
      exact hinto _
    | row columns values returnId =>
      refine .last fun insert => ?_
      have hrows : ∀ rows, (renderRowInserts t env table
          (columnList t.dialect insert.columns) rows).Ensures (Begins "INSERT ") := by
        intro rows
        refine .last fun lists => ?_
        cases t.dialect.multiInsert with
        | valuesList =>
          refine .pure ?_
          simp only [String.append_assoc]
          exact hinto _
        | insertAll =>
          refine .pure ?_
          simp only [String.append_assoc]
          exact hall _
        | unionSelect =>
          refine .pure ?_
          simp only [String.append_assoc]
          exact hinto _
      match insert.rows with
      | [] => exact hrows _
      | _ :: _ :: _ => exact hrows _
      | [row] =>
        refine .last fun list => .last fun suffix => .pure ?_
        simp only [String.append_assoc]
        exact hinto _

theorem renderUpdate_begins : (renderUpdate t env s).Ensures (Begins "UPDATE ") := by
  refine .last fun table => ?_
  cases s.update with
  | none => exact .fail _
  | some update =>
    refine .last fun assignments => .last fun filters => .pure ?_
    exact ((((Begins.self _).append _).append _).append _).joinSections (by decide) _

theorem renderDelete_begins : (renderDelete t env s).Ensures (Begins "DELETE ") := by
  refine .last fun table => .bind (R := Begins "DELETE ") ?_ fun head hhead =>
    .last fun filters => .pure (hhead.joinSections (by decide) _)
  refine .ite (.last fun target => .last fun joins => .pure ?_) (.pure ?_)
  · simp only [String.append_assoc]
    exact ⟨_, rfl⟩
  · exact ⟨"FROM " ++ table, by rw [← String.append_assoc]; rfl⟩

/-- The words that a select or a mutation begins with. -/
def dataKeywords : List String :=
  ["SELECT ", "INSERT ", "UPDATE ", "DELETE "]

/-- A select or a mutation begins with its own word. -/
theorem renderData_begins :
    (renderData t env s).Ensures fun sql => ∃ word ∈ dataKeywords, Begins word sql := by
  have hword : ∀ {word : String} {x : Emit String}, word ∈ dataKeywords →
      x.Ensures (Begins word) → x.Ensures fun sql => ∃ word ∈ dataKeywords, Begins word sql :=
    fun hmem h sql hsql => ⟨_, hmem, h sql hsql⟩
  unfold renderData
  cases s.method with
  | select | aggregate => exact hword (by decide) (renderBody_begins s)
  | insert => exact hword (by decide) (renderInsert_begins s)
  | update => exact hword (by decide) (renderUpdate_begins s)
  | delete => exact hword (by decide) (renderDelete_begins s)
  | createTable | createTableAs | dropTable | truncateTable => exact .fail _

/-- Rows written out are selects. -/
theorem renderRows_begins (columns : List String) (values : List Value) :
    (renderRows t env columns values).Ensures (Begins "SELECT ") := by
  have hselect : ∀ row, (renderRowSelect t env columns row).Ensures (Begins "SELECT ") := by
    intro row
    refine .last fun cells => .pure ?_
    exact ((Begins.self _).append _).append _
  have hpieces : ∀ {values : List Value}, values ≠ [] → pieces columns.length values ≠ [] := by
    intro values hvalues
    cases values with
    | nil => exact absurd rfl hvalues
    | cons v vs =>
      rw [pieces]
      split
      · exact List.cons_ne_nil _ _
      · split <;> exact List.cons_ne_nil _ _
  unfold renderRows
  by_cases hbad : columns.isEmpty ∨ values.isEmpty ∨ values.length % columns.length ≠ 0
  · rw [if_pos hbad]
    exact .fail _
  · rw [if_neg hbad]
    have hvalues : values ≠ [] := by
      rintro rfl
      exact hbad (.inr (.inl rfl))
    cases t.dialect.rowsStyle with
    | valuesTable =>
      refine .last fun rows => .pure ?_
      simp only [String.append_assoc]
      exact ⟨_, rfl⟩
    | unionAll =>
      refine .bind (.mapM hselect) fun selects hselects => .pure ?_
      obtain ⟨hlength, hselects⟩ := hselects
      cases selects with
      | nil => exact absurd (List.length_eq_zero_iff.mp hlength.symm) (hpieces hvalues)
      | cons first rest =>
        have hfirst : Begins "SELECT " first := hselects first List.mem_cons_self
        cases rest with
        | nil => simpa using hfirst
        | cons second rest =>
          rw [String.intercalate_cons_cons, String.append_assoc]
          exact hfirst.append _

/-- The body of a common table expression begins with SELECT, unless it is raw SQL. -/
theorem Source.renderBody_begins {source : Source Rendered}
    (hraw : ∀ aliasName fragment, source ≠ .raw aliasName fragment)
    (hquery : ∀ r, source = .query r → (r.select env).Ensures (Begins "SELECT ")) :
    (source.renderBody t env).Ensures (Begins "SELECT ") := by
  cases source with
  | table name =>
    have hselect : Begins "SELECT " "SELECT * FROM " := ⟨"* FROM ", by decide⟩
    exact .pure (hselect.append _)
  | query r => exact hquery r rfl
  | raw aliasName fragment => exact absurd rfl (hraw aliasName fragment)
  | rows aliasName columns values => exact renderRows_begins columns values

end SqlBuilder
