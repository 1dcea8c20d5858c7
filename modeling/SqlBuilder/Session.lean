import SqlBuilder.Compiler

/-!
# Rendering parts one after another

A `Session` renders parts of statements by themselves, one after another, and gathers their
bindings.  Scopes are entered and left by hand, and the common table expressions of a statement that
has been rendered stay known.  What a part has bound stays bound when it fails.
-/

namespace SqlBuilder

/-- The surroundings of the next part, and what has been bound so far. -/
structure Session where
  env : Env := {}
  bindings : List Value := []

namespace Session

variable (t : Target)

/-- Enters the scope of a query. -/
def enter (q : Query) (s : Session) : Session :=
  { s with env := s.env.enter q.scope }

/-- Leaves the innermost scope, if there is one. -/
def leave (s : Session) : Session :=
  { s with env := { s.env with scopes := s.env.scopes.tail } }

/-- Renders a part. -/
def emit {α : Type} (part : Env → Emit α) (s : Session) : Except Error α × Session :=
  let result := part s.env
  (result.outcome, { s with bindings := s.bindings ++ result.bindings })

/-- Renders a select. -/
def select (q : Query) : Session → Except Error String × Session :=
  emit fun env => renderSelect t env (q.sections t)

/-- Renders a statement; the names of its common table expressions stay known. -/
def statement (q : Query) (s : Session) : Except Error String × Session :=
  let sections := q.sections t
  let (sql, s) := s.emit fun env => renderStatement t env sections
  (sql, { s with env := { s.env with ctes := s.env.ctes ++ cteNames (sections.hoistedCtes t) } })

/-- Renders one condition. -/
def condition (c : Condition Subquery) : Session → Except Error (Option String) × Session :=
  emit fun env => (c.map (Subquery.rendered t)).render t env

/-- Renders a list of conditions. -/
def conditions (cs : List (Condition Subquery)) : Session → Except Error String × Session :=
  emit fun env => renderConditions t env (cs.map (Condition.map (Subquery.rendered t)))

end Session

end SqlBuilder
