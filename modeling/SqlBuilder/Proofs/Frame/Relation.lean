import SqlBuilder.Proofs.Frame.Context
import SqlBuilder.Proofs.Markup.Relation
import SqlBuilder.Proofs.Paging.Clause

/-!
# The frame of a renderer

A renderer that works on the shared context keeps its frame if it comes to an outcome and to
bindings that its surroundings alone decide, appends the bindings to those that are there, and
leaves everything else on the context as it was (`Rendering.RunsAs`).  It implements a renderer that
is handed its surroundings if these are that outcome and those bindings (`Rendering.Implements`).

`Emit.Sane` says what can be bound at all, which is values that stand for themselves, and that an
error about a row number is about one that does not fit into 64 bits.

All of this is kept when renderers are put together, which is what the laws here say: a scope that
is entered is left again after an error as well (`RunsAs.within`), and cutting off the bindings of a
part cuts off no others (`RunsAs.captured`).
-/

namespace SqlBuilder

/-! ## Outcomes and bindings -/

/-- A style of paging, and the limits and offsets that it is used for. -/
structure PagingUse where
  style : Pagination
  /-- Is this the limit and the offset of a query? -/
  IsUsed : Paging → Prop

/-- A style that is used for any limit and offset. -/
def PagingUse.any (style : Pagination) : PagingUse where
  style := style
  IsUsed _ := True

/-- A limit and an offset are among those of a use, unless there are none. -/
def PagingUse.Covers (use : PagingUse) (p : Paging) : Prop :=
  p = ⟨0, 0⟩ ∨ use.IsUsed p

/-- An error about the range of a row number is about one that the style has to bind for a limit and
an offset that it is used for, and the number does not fit into 64 bits. -/
def Error.Justified (use : PagingUse) : Error → Prop
  | .offsetOutOfRange o =>
    ∃ p, use.IsUsed p ∧ p.offset = o ∧
      UInt64.size ≤ o.toNat + 1 ∧ o.toNat + 1 ∈ Paging.rowNumbers use.style p
  | .pageEndOutOfRange l o =>
    use.IsUsed ⟨l, o⟩ ∧
      UInt64.size ≤ l.toNat + o.toNat ∧ l.toNat + o.toNat ∈ Paging.rowNumbers use.style ⟨l, o⟩
  | _ => True

/-- Only values that stand for themselves are bound, and only a row number that does not fit is
complained about. -/
structure Emit.Sane {α : Type} (use : PagingUse) (x : Emit α) : Prop where
  scalar : ∀ v ∈ x.bindings, v.IsScalar
  justified : ∀ e, x.outcome = .error e → e.Justified use

namespace Emit.Sane

variable {α β : Type} {use : PagingUse} {x : Emit α}

theorem pure (a : α) : Sane use (pure a) where
  scalar _ hv := absurd hv List.not_mem_nil
  justified _ he := nomatch he

theorem ofExcept {y : Except Error α} (h : ∀ e, y = .error e → e.Justified use) :
    Sane use (Emit.ofExcept y) where
  scalar _ hv := absurd hv List.not_mem_nil
  justified := h

theorem fail {e : Error} (h : e.Justified use) : Sane use (Emit.fail e : Emit α) where
  scalar _ hv := absurd hv List.not_mem_nil
  justified _ he := Except.error.inj he ▸ h

theorem bound {v : Value} (h : v.IsScalar) : Sane use (Emit.bound v) where
  scalar _ hv := List.mem_singleton.mp hv ▸ h
  justified _ he := nomatch he

theorem bind {f : α → Emit β} (h : x.Sane use) (hf : ∀ a, (f a).Sane use) :
    (x >>= f).Sane use := by
  cases hx : x.outcome with
  | error e =>
    rw [bind_of_error hx]
    exact ⟨h.scalar, fun e' he => Except.error.inj he ▸ h.justified e hx⟩
  | ok a =>
    rw [bind_of_ok hx]
    refine ⟨fun v hv => ?_, (hf a).justified⟩
    obtain hv | hv := List.mem_append.mp hv
    · exact h.scalar v hv
    · exact (hf a).scalar v hv

theorem mapM {γ : Type} {f : γ → Emit α} {xs : List γ} (h : ∀ c ∈ xs, (f c).Sane use) :
    (xs.mapM f).Sane use := by
  induction xs with
  | nil =>
    rw [List.mapM_nil]
    exact pure []
  | cons c cs ih =>
    rw [List.mapM_cons]
    refine bind (h c List.mem_cons_self) fun a => bind (ih fun c hc => ?_) fun as => pure _
    exact h c (List.mem_cons_of_mem _ hc)

theorem ite {c : Prop} [Decidable c] {y : Emit α} (h : c → x.Sane use)
    (h' : ¬c → y.Sane use) : (if c then x else y).Sane use := by
  by_cases hc : c
  · rw [if_pos hc]
    exact h hc
  · rw [if_neg hc]
    exact h' hc

theorem capture (h : x.Sane use) : x.capture.Sane use := by
  unfold Emit.capture
  cases hx : x.outcome with
  | error e => exact ⟨h.scalar, fun e' he => Except.error.inj he ▸ h.justified e hx⟩
  | ok a => exact pure (a, x.bindings)

end Emit.Sane

/-! ## Frames -/

/-- Everything on a context but the bindings. -/
structure Surroundings where
  env : Env
  resolving : List String

/-- The surroundings on a context. -/
def Context.surroundings (ctx : Context) : Surroundings where
  env := ctx.env
  resolving := ctx.resolving

namespace Surroundings

/-- The context with the surroundings and some bindings. -/
def context (around : Surroundings) (bindings : List Value) : Context where
  scopes := around.env.scopes
  ctes := around.env.ctes
  resolving := around.resolving
  bindings := bindings

/-- The surroundings inside a query with the given scope. -/
def enter (around : Surroundings) (scope : Scope) : Surroundings :=
  { around with env := around.env.enter scope }

/-- The surroundings while a variable is replaced. -/
def resolve (around : Surroundings) (name : String) : Surroundings :=
  { around with resolving := name :: around.resolving }

end Surroundings

namespace Rendering

variable {α β : Type} {use : PagingUse} {around : Surroundings}

/-- In the surroundings the renderer comes to the outcome of `x`, appends its bindings to those that
are there, and changes nothing else. -/
structure RunsAs (use : PagingUse) (around : Surroundings) (m : Rendering α) (x : Emit α) :
    Prop where
  run : ∀ bindings,
    m (around.context bindings) = (x.outcome, around.context (bindings ++ x.bindings))
  sane : x.Sane use

namespace RunsAs

variable {m : Rendering α} {x : Emit α}

theorem pure (a : α) : RunsAs use around (pure a) (pure a) where
  run bindings := by
    rw [Emit.bindings_pure, List.append_nil]
    rfl
  sane := .pure a

theorem ofExcept {y : Except Error α} (h : ∀ e, y = .error e → e.Justified use) :
    RunsAs use around (Rendering.ofExcept y) (Emit.ofExcept y) where
  run bindings := by
    rw [Emit.ofExcept, List.append_nil]
    rfl
  sane := .ofExcept h

theorem raise {e : Error} (h : e.Justified use) :
    RunsAs use around (Rendering.raise e : Rendering α) (Emit.fail e) where
  run bindings := by
    rw [Emit.fail, List.append_nil]
    rfl
  sane := .fail h

theorem push {v : Value} (h : v.IsScalar) :
    RunsAs use around (Rendering.push v) (Emit.bound v) where
  run _ := rfl
  sane := .bound h

theorem emit (h : x.Sane use) : RunsAs use around (Rendering.emit x) x where
  run _ := rfl
  sane := h

/-- What a renderer looks up does not depend on the bindings. -/
theorem read {f : Context → β} {b : β} (hf : ∀ bindings, f (around.context bindings) = b)
    {k : β → Rendering α} (h : RunsAs use around (k b) x) :
    RunsAs use around (Rendering.read f >>= k) x where
  run bindings := by
    change k (f (around.context bindings)) (around.context bindings) = _
    rw [hf]
    exact h.run bindings
  sane := h.sane

/-- One renderer after another. -/
theorem bind {k : α → Rendering β} {f : α → Emit β} (h : RunsAs use around m x)
    (hk : ∀ a, RunsAs use around (k a) (f a)) : RunsAs use around (m >>= k) (x >>= f) where
  run bindings := by
    have hrun := h.run bindings
    cases hx : x.outcome with
    | error e =>
      rw [hx] at hrun
      rw [Rendering.bind_of_error hrun, Emit.bind_of_error hx]
    | ok a =>
      rw [hx] at hrun
      rw [Rendering.bind_of_ok hrun, Emit.bind_of_ok hx, (hk a).run, List.append_assoc]
  sane := h.sane.bind fun a => (hk a).sane

/-- A scope is left again, whatever happened inside. -/
theorem within {scope : Scope} (h : RunsAs use (around.enter scope) m x) :
    RunsAs use around (Rendering.within scope m) x where
  run bindings := by
    have hinside : m { around.context bindings with
        scopes := scope :: (around.context bindings).scopes } = _ := h.run bindings
    unfold Rendering.within
    rw [hinside]
    rfl
  sane := h.sane

/-- A variable is no longer being replaced afterwards, whatever happened meanwhile. -/
theorem resolving {name : String} (h : RunsAs use (around.resolve name) m x) :
    RunsAs use around (Rendering.resolving name m) x where
  run bindings := by
    have hinside : m { around.context bindings with
        resolving := name :: (around.context bindings).resolving } = _ := h.run bindings
    unfold Rendering.resolving
    rw [hinside]
    rfl
  sane := h.sane

/-- Exactly the bindings of the part are cut off; after an error they stay. -/
theorem captured (h : RunsAs use around m x) :
    RunsAs use around (Rendering.captured m) x.capture where
  run bindings := by
    have hrun := h.run bindings
    change (m >>= fun a ctx => (.ok (a, ctx.bindings.drop bindings.length),
      { ctx with bindings := ctx.bindings.take bindings.length })) (around.context bindings) = _
    unfold Emit.capture
    cases hx : x.outcome with
    | error e =>
      rw [hx] at hrun
      exact Rendering.bind_of_error hrun _
    | ok a =>
      rw [hx] at hrun
      refine (Rendering.bind_of_ok hrun _).trans ?_
      simp only [Surroundings.context, List.drop_left, List.take_left, List.append_nil]
  sane := h.sane.capture

end RunsAs

/-! ## Implementations -/

/-- The renderer keeps its frame, and where no variable is being replaced it comes to what the other
one comes to in the same surroundings. -/
def Implements (use : PagingUse) (m : Rendering α) (e : Env → Emit α) : Prop :=
  ∀ around : Surroundings,
    ∃ x, RunsAs use around m x ∧ (around.resolving = [] → x = e around.env)

namespace Implements

variable {m : Rendering α} {e : Env → Emit α}

theorem pure (a : α) : Implements use (pure a) fun _ => pure a :=
  fun _ => ⟨_, .pure a, fun _ => rfl⟩

theorem raise {err : Error} (h : err.Justified use) :
    Implements use (Rendering.raise err : Rendering α) fun _ => Emit.fail err :=
  fun _ => ⟨_, .raise h, fun _ => rfl⟩

theorem ofExcept {y : Except Error α} (h : ∀ err, y = .error err → err.Justified use) :
    Implements use (Rendering.ofExcept y) fun _ => Emit.ofExcept y :=
  fun _ => ⟨_, .ofExcept h, fun _ => rfl⟩

theorem emit {x : Emit α} (h : x.Sane use) : Implements use (Rendering.emit x) fun _ => x :=
  fun _ => ⟨x, .emit h, fun _ => rfl⟩

theorem bind {k : α → Rendering β} {f : α → Env → Emit β} (h : Implements use m e)
    (hk : ∀ a, Implements use (k a) (f a)) :
    Implements use (m >>= k) fun env => e env >>= fun a => f a env := by
  intro around
  obtain ⟨x, hx, hagree⟩ := h around
  choose y hy hagree' using fun a => hk a around
  refine ⟨x >>= y, hx.bind hy, fun hresolving => ?_⟩
  rw [hagree hresolving, funext fun a => hagree' a hresolving]

theorem map (f : α → β) (h : Implements use m e) :
    Implements use (m >>= fun a => Pure.pure (f a)) fun env =>
      e env >>= fun a => Pure.pure (f a) :=
  h.bind fun a => pure (f a)

theorem within (scope : Scope) (h : Implements use m e) :
    Implements use (Rendering.within scope m) fun env => e (env.enter scope) := by
  intro around
  obtain ⟨x, hx, hagree⟩ := h (around.enter scope)
  exact ⟨x, hx.within, hagree⟩

theorem captured (h : Implements use m e) :
    Implements use (Rendering.captured m) fun env => (e env).capture := by
  intro around
  obtain ⟨x, hx, hagree⟩ := h around
  exact ⟨x.capture, hx.captured, fun hresolving => congrArg Emit.capture (hagree hresolving)⟩

theorem ite {c : Prop} [Decidable c] {m' : Rendering α} {e' : Env → Emit α}
    (h : c → Implements use m e) (h' : ¬c → Implements use m' e') :
    Implements use (if c then m else m') fun env => if c then e env else e' env := by
  by_cases hc : c
  · simpa only [if_pos hc] using h hc
  · simpa only [if_neg hc] using h' hc

/-- What a renderer looks up is part of its surroundings. -/
theorem read {f : Context → β} {g : Env → β} (hf : ∀ ctx : Context, f ctx = g ctx.env)
    {k : β → Rendering α} {e : β → Env → Emit α} (h : ∀ b, Implements use (k b) (e b)) :
    Implements use (Rendering.read f >>= k) fun env => e (g env) env := by
  intro around
  obtain ⟨x, hx, hagree⟩ := h (g around.env) around
  exact ⟨x, hx.read fun bindings => hf _, hagree⟩

/-- A renderer for each member of a list. -/
theorem mapM {γ δ ε : Type} {p : γ → δ} {q : γ → ε} {k : δ → Rendering α}
    {f : ε → Env → Emit α} (xs : List γ)
    (h : ∀ c ∈ xs, Implements use (k (p c)) (f (q c))) :
    Implements use ((xs.map p).mapM k) fun env => (xs.map q).mapM fun c => f c env := by
  induction xs with
  | nil => simpa only [List.map_nil, List.mapM_nil] using pure []
  | cons c cs ih =>
    simp only [List.map_cons, List.mapM_cons]
    refine bind (h c List.mem_cons_self) fun a => bind (ih fun c hc => ?_) fun as => pure _
    exact h c (List.mem_cons_of_mem _ hc)

/-- What an implementation comes to in surroundings of no special kind is sane. -/
theorem sane (h : Implements use m e) (env : Env) : (e env).Sane use := by
  obtain ⟨x, hx, hagree⟩ := h ⟨env, []⟩
  rw [← hagree rfl]
  exact hx.sane

end Implements

end Rendering

end SqlBuilder
