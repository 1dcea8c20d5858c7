import SqlBuilder.Proofs.Alike.Value
import SqlBuilder.Render.Statement

/-!
# Renderings that agree

Two renderings of a query agree if an enclosing statement gets the same answers from one in some
surroundings as from the other in others (`Rendered.AgreeAt`).  What a query wants defined as common
table expressions is no part of it: no renderer of a select asks for that.

A WITH comes to the same if the bodies of its common table expressions do, one by one
(`renderPrologue_agree`).
-/

namespace SqlBuilder

variable {t : Target} {env env' : Env}

/-- One rendering comes to the same in some surroundings as the other does in others. -/
structure Rendered.AgreeAt (env env' : Env) (r r' : Rendered) : Prop where
  aliasName : r.aliasName = r'.aliasName
  hasSource : r.hasSource = r'.hasSource
  select : r.select env = r'.select env'
  existsOperand : r.existsOperand env = r'.existsOperand env'
  group : r.group env = r'.group env'
  filter : r.filter env = r'.filter env'

/-! ## Common table expressions -/

/-- A common table expression comes to the same in some surroundings as another does in others. -/
structure Cte.AgreeAt (env env' : Env) (c c' : Cte) : Prop where
  aliasName : c.aliasName = c'.aliasName
  body : c.body env = c'.body env'

theorem Cte.AgreeAt.render {c c' : Cte} (h : c.AgreeAt env env' c') :
    c.render t env = c'.render t env' := by
  simp only [Cte.render, h.aliasName, h.body]

/-- A WITH comes to the same if its common table expressions do, one by one. -/
theorem renderPrologue_agree {cs cs' : List Cte} (h : List.Forall₂ (Cte.AgreeAt env env') cs cs') :
    renderPrologue t env cs = renderPrologue t env' cs' := by
  have hparts : cs.mapM (Cte.render t env) = cs'.mapM (Cte.render t env') := by
    induction h with
    | nil => rfl
    | cons hc hcs ih => rw [List.mapM_cons, List.mapM_cons, hc.render, ih]
  simp only [renderPrologue, hparts]

end SqlBuilder
