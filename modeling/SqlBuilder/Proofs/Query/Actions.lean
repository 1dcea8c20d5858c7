import SqlBuilder.Proofs.Query.Sections
import SqlBuilder.Query.Step

/-!
# What a step does

A step of construction changes the clauses of a query and its error in a few ways only.  An `Action`
is one such way, `Step.actions` lists what a step comes to on a given query, and `Step.draft_run`
says that nothing else happens: running the step has the effect of its actions, one after another,
on the clauses and the error (`Draft`).

Clauses are listed with the engine that they are scoped to, so that the steps inside of `forEngine`
need no actions of their own.  What is built inside of a step, a subquery or a join, is finished
before the step acts; the step hands on its error (`inherited`) and takes it up into a clause.

Conditions are added to queries and to joins by the same calls.  `ConditionCall.fault?` is the error
that a call reports, and `ConditionCall.demand?` the condition that it adds.

What a step passes on of its arguments are its `handedOn` actions.  All others are plain
(`Step.plain_or_handedOn`), which is all that most statements about runs need to know of them.
-/

namespace SqlBuilder

/-! ## Actions -/

/-- What has been taken up of a query: its clauses and its first error. -/
structure Draft where
  clauses : List (Clause Subquery) := []
  error : Option Error := none

/-- The clauses and the error of a query. -/
def QueryOver.draft (q : QueryOver Subquery) : Draft :=
  ⟨q.clauses, q.error⟩

/-- A change of the clauses or of the error of a query. -/
inductive Action where
  /-- Adds a clause, unless there is an error. -/
  | add (clause : Clause Subquery)
  /-- Puts a clause in the place of the one with its component and engine, unless there is an
  error. -/
  | replace (clause : Clause Subquery)
  /-- Removes the clauses of a component, and adds one instead unless there is an error. -/
  | refill (clause : Clause Subquery)
  /-- Removes the clauses of a component. -/
  | clear (component : Component)
  /-- Removes the clauses of a component that are scoped exactly to an engine. -/
  | remove (component : Component) (engine : Option Dialect)
  /-- Adds a clause whatever the error. -/
  | push (clause : Clause Subquery)
  /-- Records an error, unless there is one. -/
  | record (error : Error)
  /-- Begins anew. -/
  | restart

namespace Draft

/-- Adds a clause, unless there is an error. -/
def add (s : Draft) (clause : Clause Subquery) : Draft :=
  if s.error.isSome then s else { s with clauses := s.clauses ++ [clause] }

/-- Carries out an action. -/
def perform (s : Draft) : Action → Draft
  | .add clause => s.add clause
  | .replace clause =>
    if s.error.isSome then s
    else
      match Clauses.addOrReplace clause s.clauses with
      | .ok clauses => { s with clauses }
      | .error e => { s with error := some e }
  | .refill clause => { s with clauses := Clauses.clear clause.component s.clauses }.add clause
  | .clear component => { s with clauses := Clauses.clear component s.clauses }
  | .remove component engine => { s with clauses := Clauses.remove component engine s.clauses }
  | .push clause => { s with clauses := s.clauses ++ [clause] }
  | .record e => { s with error := s.error <|> some e }
  | .restart => {}

/-- Carries out a list of actions. -/
def performAll (s : Draft) (as : List Action) : Draft :=
  as.foldl perform s

@[simp] theorem performAll_nil (s : Draft) : s.performAll [] = s := rfl

@[simp] theorem performAll_cons (s : Draft) (a : Action) (as : List Action) :
    s.performAll (a :: as) = (s.perform a).performAll as := rfl

@[simp] theorem performAll_append (s : Draft) (as bs : List Action) :
    s.performAll (as ++ bs) = (s.performAll as).performAll bs :=
  List.foldl_append

end Draft

/-- Hands on the error of a part. -/
def inherited (e : Option Error) : List Action :=
  e.toList.map .record

namespace QueryOver

variable (q : QueryOver Subquery)

/-- Adds a clause in the engine scope of the query. -/
def adding (c : Component) (k : ClauseKind Subquery) : Action :=
  .add ⟨c, q.engineScope, k⟩

/-- Puts a clause in its place in the engine scope of the query. -/
def replacing (c : Component) (k : ClauseKind Subquery) : Action :=
  .replace ⟨c, q.engineScope, k⟩

/-- Puts a clause in the place of all of its component, in the engine scope of the query. -/
def refilling (c : Component) (k : ClauseKind Subquery) : Action :=
  .refill ⟨c, q.engineScope, k⟩

/-- Adds a condition that takes up the pending modifiers, negated once more if it is `negated`. -/
def demanding (c : Component) (negated : Bool) (k : ConditionKind Subquery) : Action :=
  q.adding c (.condition ⟨q.pending.or, q.pending.not ^^ negated, k⟩)

end QueryOver

/-! ## The actions of conditions and joins -/

/-- What a comparison demands, and whether it negates that: tests for null and for truth values take
the place of comparisons with them. -/
def comparisonTest (column : String) (operator : Operator) (value : Value) :
    Bool × ConditionKind Subquery :=
  match value with
  | .null => (operator != .eq, .null column)
  | .bool b =>
    if Conditions.isEquality operator then (operator != .eq, .boolean column b)
    else (false, .compare column operator (.bool b))
  | v => (false, .compare column operator v)

namespace ConditionCall

/-- The error that a call reports: that of its subquery, or the lack of a source of rows. -/
def fault? : ConditionCall Query → Option Error
  | inQuery _ sub | queryCompare sub _ _ | columnQuery _ _ sub | group sub => sub.error
  | existsIn sub =>
    if sub.hasComponent .source none then sub.error else some .existsWithoutSource
  | _ => none

/-- What the condition that a call adds demands, and whether the call negates it.  A test without a
source of rows and a group without conditions are not added. -/
def demand? : ConditionCall Query → Option (Bool × ConditionKind Subquery)
  | or | not | resetPending => none
  | filter c o v => some (comparisonTest c o v)
  | columns a o b => some (false, .columns a o b)
  | null c => some (false, .null c)
  | boolean c v => some (false, .boolean c v)
  | pattern c m v s e => some (false, .pattern c m v s e)
  | between c l h => some (false, .between c l h)
  | inList c vs => some (false, .inList c vs)
  | inQuery c sub => some (false, .inQuery c ⟨sub⟩)
  | queryCompare sub o v => some (false, .queryCompare ⟨sub⟩ o v)
  | columnQuery c o sub => some (false, .columnQuery c o ⟨sub⟩)
  | existsIn sub => if sub.hasComponent .source none then some (false, .nonempty ⟨sub⟩) else none
  | raw f => some (false, .raw f)
  | group sub => if sub.hasComponent .filter none then some (false, .group ⟨sub⟩) else none
  | datePart p c o v => some (false, .datePart p c o v)

/-- What a call comes to on a query. -/
def actions (call : ConditionCall Query) (q : Query) : List Action :=
  inherited call.fault? ++ call.demand?.toList.map fun d => q.demanding .filter d.1 d.2

end ConditionCall

/-- What a finished join comes to on a query: it is added, or its error is handed on. -/
def JoinBuilder.actions (b : JoinBuilder) (q : Query) : List Action :=
  match b.error with
  | some e => [.record e]
  | none => [q.adding .join (.join b.built)]

/-! ## The actions of a step -/

/-- Actions that are only taken if nothing is wrong. -/
def ifSound (wrong : Option Error) (as : List Action) : List Action :=
  match wrong with
  | some e => [.record e]
  | none => as

/-- What is wrong with rows of values for columns; `empty` is the error if there are none. -/
def rowsFault? (empty : Error) (columns : List String) (rows : List (List Value)) : Option Error :=
  if columns.isEmpty || rows.isEmpty then some empty
  else if rows.any (·.length != columns.length) then some .raggedRows
  else none

/-- What is wrong with the assignments of an update. -/
def updateFault? (columns : List String) (values : List Value) : Option Error :=
  if columns.length != values.length then some .raggedUpdate
  else if columns.isEmpty then some .emptyUpdate
  else none

/-- The number of rows before a page, if it is in range. -/
def pageStart? (page perPage : UInt64) : Option UInt64 :=
  let skipped := (page.toNat - 1) * perPage.toNat
  if skipped < UInt64.size then some (UInt64.ofNat skipped) else none

mutual

/-- What a step comes to on a query. -/
def Step.actions : Step → Query → List Action
  | .fromTable name, q => [q.replacing .source (.source (.table name))]
  | .fromQuery sub, q =>
    let sub := sub.build q.child
    inherited sub.error ++ [q.replacing .source (.source (.query ⟨sub⟩))]
  | .fromRaw f, q => [q.replacing .source (.source (.raw none f))]
  | .named _, _ | .define _ _, _ | .setMethod _, _ | .distinctRows, _ | .asDelete, _
  | .dropTable, _ | .truncateTable, _ => []
  | .child, _ => [.restart]
  | .forEngine engine body, q => actionsOf body { q with engineScope := some engine }
  | .addComponent c k, q => [q.adding c k]
  | .replaceComponent c k, q => [q.replacing c k]
  | .clearComponent c, _ => [.clear c]
  | .pushClause c, _ => [.push c]
  | .removeClauses c engine, _ => [.remove c engine]
  | .condition call, q => (buildCall call q.child).actions q
  | .select columns, q =>
    (columns.flatMap expandColumns).map fun c => q.adding .select (.column (.named c))
  | .selectRaw f, q => [q.adding .select (.column (.raw f))]
  | .selectQuery sub aliasName, q =>
    let sub := sub.build q.child
    inherited sub.error ++ [q.adding .select (.column (.query ⟨sub.named aliasName⟩))]
  | .selectAggregate f column, q => [q.adding .select (.column (.aggregated f column none))]
  | .selectAggregateWhere f column sub, q =>
    let sub := sub.build q.child
    inherited sub.error ++ [q.adding .select (.column (.aggregated f column (some ⟨sub⟩)))]
  | .asAggregate f columns, q => [q.refilling .aggregate (.aggregate ⟨f, columns⟩)]
  | .asCount columns, q =>
    let columns := if columns.isEmpty then ["*"] else columns
    [q.refilling .aggregate (.aggregate ⟨.count, columns⟩)]
  | .groupBy columns, q => columns.map fun c => q.adding .group (.column (.named c))
  | .groupByRaw f, q => [q.adding .group (.column (.raw f))]
  | .having c o v, q => [q.demanding .having false (.compare c o v)]
  | .havingRaw f, q => [q.demanding .having false (.raw f)]
  | .havingBetween c l h, q => [q.demanding .having false (.between c l h)]
  | .havingIn c vs, q => [q.demanding .having false (.inList c vs)]
  | .orderBy c ascending, q => [q.adding .order (.order (.column c ascending))]
  | .orderByRaw f, q => [q.adding .order (.order (.raw f))]
  | .orderByRandom seed, q => [q.adding .order (.order (.random seed))]
  | .limit n, q => [q.replacing .limit (.limit n)]
  | .offset n, q => [q.replacing .offset (.offset n)]
  | .forPage page perPage, q =>
    match pageStart? page perPage with
    | some n => [q.replacing .offset (.offset n), q.replacing .limit (.limit perPage)]
    | none => [.record (.pageOutOfRange page perPage)]
  | .lock mode, q => [q.replacing .lock (.lock mode)]
  | .joinTable kind table body, q =>
    (runJoin body ((JoinBuilder.within q kind).table table)).actions q
  | .joinQuery kind sub body, q =>
    (runJoin body ((JoinBuilder.within q kind).query (sub.build q.child))).actions q
  | .combine operation all sub, q =>
    let sub := sub.build q.child
    if q.method = .select ∧ sub.method = .select then
      inherited sub.error ++ [q.adding .combine (.combine (.query operation all ⟨sub⟩))]
    else [.record .combinedNonSelect]
  | .combineRaw f, q =>
    if q.method = .select then [q.adding .combine (.combine (.raw f))]
    else [.record .combinedNonSelect]
  | .withQuery sub, q =>
    let sub := sub.build q.child
    if sub.aliasName.isNone then [.record .cteWithoutAlias]
    else inherited sub.error ++ [q.adding .cte (.source (.query ⟨sub⟩))]
  | .withRaw aliasName f, q => [q.adding .cte (.source (.raw (some aliasName) f))]
  | .withValues aliasName columns rows, q =>
    ifSound (rowsFault? .emptyRows columns rows)
      [q.adding .cte (.source (.rows aliasName columns rows.flatten))]
  | .asInsert columns rows, q =>
    ifSound (rowsFault? .emptyInsert columns rows)
      (.clear .insert :: rows.map fun row => q.adding .insert (.insert (.row columns row false)))
  | .asInsertRow pairs returnId, q =>
    ifSound (if pairs.isEmpty then some .emptyInsert else none)
      [q.refilling .insert (.insert (.row (pairs.map Prod.fst) (pairs.map Prod.snd) returnId))]
  | .asInsertQuery columns sub, q =>
    let sub := sub.build q.child
    inherited sub.error ++ [q.refilling .insert (.insert (.query columns ⟨sub⟩))]
  | .asUpdate columns values, q =>
    ifSound (updateFault? columns values) [q.replacing .update (.update (.set columns values))]
  | .asIncrement c n, q => [q.replacing .update (.update (.increment c n))]
  | .asDecrement c n, q => [q.replacing .update (.update (.increment c (-n)))]
  | .createTable columns, q =>
    ifSound (if 1 < (columns.filter (·.identity)).length then some .severalIdentityColumns else none)
      (.clear .tableColumn :: columns.map fun c => q.adding .tableColumn (.tableColumn c))
  | .createTableAs sub, q =>
    let sub := sub.build q.child
    inherited sub.error ++ [q.replacing .tableSource (.source (.query ⟨sub⟩))]
  | .temporary, q => [q.replacing .tableKind (.tableKind .temporary)]
  | .onCommitPreserveRows preserve, q =>
    [q.replacing .tableExtension (.tableExtension (.onCommitPreserveRows preserve))]

/-- What a list of steps comes to on a query. -/
def actionsOf : List Step → Query → List Action
  | [], _ => []
  | s :: ss, q => s.actions q ++ actionsOf ss (s.run q)

end

/-! ## Steps are their actions -/

namespace QueryOver

variable {q : Query}

@[simp] theorem draft_addComponent (c : Component) (k : ClauseKind Subquery) :
    (q.addComponent c k).draft = q.draft.perform (q.adding c k) := by
  unfold addComponent adding Draft.perform Draft.add draft
  split <;> rfl

@[simp] theorem draft_replaceComponent (c : Component) (k : ClauseKind Subquery) :
    (q.replaceComponent c k).draft = q.draft.perform (q.replacing c k) := by
  unfold replaceComponent replacing Draft.perform draft
  by_cases herror : q.error.isSome = true
  · simp only [herror, ↓reduceIte]
  · have hnone : q.error = none := by simpa using herror
    simp only [herror, Bool.false_eq_true, ↓reduceIte]
    cases Clauses.addOrReplace ⟨c, q.engineScope, k⟩ q.clauses with
    | ok clauses => rfl
    | error e => simp [fail, hnone]

@[simp] theorem draft_clearComponent (c : Component) :
    (q.clearComponent c).draft = q.draft.perform (.clear c) := rfl

@[simp] theorem draft_fail (e : Error) : (q.fail e).draft = q.draft.perform (.record e) := rfl

@[simp] theorem draft_absorb (e : Option Error) :
    (q.absorb e).draft = q.draft.performAll (inherited e) := by
  cases e with
  | none => simp [absorb, inherited, draft]
  | some e => rfl

/-- Refilling a component is emptying it and adding a clause. -/
@[simp] theorem draft_refill (c : Component) (k : ClauseKind Subquery) :
    ((q.clearComponent c).addComponent c k).draft = q.draft.perform (q.refilling c k) := by
  rw [draft_addComponent]
  rfl

@[simp] theorem draft_pushCondition (c : Component) (k : ConditionKind Subquery) :
    (q.pushCondition c k).draft = q.draft.perform (q.demanding c false k) := by
  rw [pushCondition, draft_addComponent, demanding, Bool.xor_false]
  rfl

/-- Adding a clause for each member of a list. -/
theorem draft_foldl_addComponent {α : Type} (c : Component) (content : α → ClauseKind Subquery)
    (as : List α) (q : Query) :
    (as.foldl (fun q a => q.addComponent c (content a)) q).draft =
      q.draft.performAll (as.map fun a => q.adding c (content a)) := by
  induction as generalizing q with
  | nil => rfl
  | cons a as ih =>
    have hscope : (q.addComponent c (content a)).engineScope = q.engineScope := by
      unfold addComponent
      split <;> rfl
    rw [List.foldl_cons, ih, draft_addComponent, List.map_cons, Draft.performAll_cons]
    simp only [adding, hscope]

end QueryOver

/-- The error of a subquery is handed on; the rest of the query stays. -/
theorem Conditions.inheritError_eq (sub q : Query) :
    Conditions.inheritError sub q = q.absorb sub.error := by
  unfold Conditions.inheritError
  cases h : sub.error with
  | none => simp [QueryOver.absorb]
  | some e => rfl

/-- What a comparison adds. -/
theorem Conditions.draft_filter (column : String) (operator : Operator) (value : Value)
    (q : Query) :
    (Conditions.filter column operator value q).draft =
      q.draft.perform (q.demanding .filter (comparisonTest column operator value).1
        (comparisonTest column operator value).2) := by
  have hadd : ∀ k, (ConditionBuilder.addCondition k q).draft =
      q.draft.perform (q.demanding .filter false k) :=
    fun k => QueryOver.draft_pushCondition .filter k
  have htest : ∀ k, (ConditionBuilder.addCondition k
      (if operator = .eq then q else Conditions.not q)).draft =
        q.draft.perform (q.demanding .filter (operator != .eq) k) := by
    intro k
    by_cases h : operator = .eq
    · rw [if_pos h, hadd, h]
      rfl
    · have hne : (operator != .eq) = true := by simpa using h
      have hnot : (ConditionBuilder.addCondition k (Conditions.not q)).draft =
          (Conditions.not q).draft.perform
            (QueryOver.demanding (Conditions.not q) .filter false k) :=
        QueryOver.draft_pushCondition .filter k
      rw [if_neg h, hnot, hne]
      simp only [QueryOver.demanding, Bool.xor_false, Bool.xor_true]
      rfl
  unfold Conditions.filter comparisonTest
  cases value with
  | null => exact htest _
  | bool b =>
    dsimp only
    split
    · exact htest _
    · exact hadd _
  | _ => exact hadd _

/-- **Conditions.** What a call does to a query. -/
theorem ConditionCall.draft_apply (call : ConditionCall Query) (q : Query) :
    (call.apply q).draft = q.draft.performAll (call.actions q) := by
  have hadd : ∀ k, (ConditionBuilder.addCondition k q).draft =
      q.draft.performAll [q.demanding .filter false k] :=
    fun k => QueryOver.draft_pushCondition .filter k
  have hquery : ∀ (sub : Query) k,
      (ConditionBuilder.addCondition k (Conditions.inheritError sub q)).draft =
        q.draft.performAll (inherited sub.error ++ [q.demanding .filter false k]) := by
    intro sub k
    rw [Conditions.inheritError_eq, Draft.performAll_append, ← QueryOver.draft_absorb]
    exact QueryOver.draft_pushCondition .filter k
  cases call with
  | or | not | resetPending => rfl
  | filter c o v => exact Conditions.draft_filter c o v q
  | inQuery _ sub | queryCompare sub _ _ | columnQuery _ _ sub => exact hquery sub _
  | existsIn sub =>
    change (Conditions.existsIn sub q).draft = _
    by_cases hsource : sub.hasComponent .source none = true
    · simp only [Conditions.existsIn, actions, fault?, demand?, if_pos hsource]
      exact hquery sub _
    · simp only [Conditions.existsIn, actions, fault?, demand?, if_neg hsource]
      rfl
  | group sub =>
    change (Conditions.group sub q).draft = _
    by_cases hfilter : sub.hasComponent .filter none = true
    · simp only [Conditions.group, actions, fault?, demand?, if_pos hfilter]
      exact hquery sub _
    · simp only [Conditions.group, actions, fault?, demand?, if_neg hfilter]
      rw [Conditions.inheritError_eq, Option.toList_none, List.map_nil, List.append_nil,
        ← QueryOver.draft_absorb]
      rfl
  | columns _ _ _ | null _ | boolean _ _ | pattern _ _ _ _ _ | between _ _ _ | inList _ _
  | raw _ | datePart _ _ _ _ => exact hadd _

/-- What a finished join does to a query. -/
@[simp] theorem Query.draft_pushJoin (q : Query) (b : JoinBuilder) :
    (q.pushJoin b).draft = q.draft.performAll (b.actions q) := by
  unfold Query.pushJoin JoinBuilder.actions
  cases b.error with
  | some e => rfl
  | none =>
    dsimp only
    rw [QueryOver.draft_addComponent]
    rfl

/-! ### Whole steps -/

section Builders

variable (q : Query)

theorem QueryOver.draft_asInsert (columns : List String) (rows : List (List Value)) :
    (q.asInsert columns rows).draft =
      q.draft.performAll (ifSound (rowsFault? .emptyInsert columns rows)
        (.clear .insert ::
          rows.map fun row => q.adding .insert (.insert (.row columns row false)))) := by
  unfold asInsert rowsFault?
  split
  · rfl
  · split
    · rfl
    · exact draft_foldl_addComponent .insert (fun row => .insert (.row columns row false)) rows _

theorem QueryOver.draft_createTable (columns : List TableColumn) :
    (q.createTable columns).draft =
      q.draft.performAll (ifSound
        (if 1 < (columns.filter (·.identity)).length then some .severalIdentityColumns else none)
        (.clear .tableColumn ::
          columns.map fun c => q.adding .tableColumn (.tableColumn c))) := by
  unfold createTable
  split
  · rfl
  · exact draft_foldl_addComponent .tableColumn .tableColumn columns _

theorem QueryOver.draft_asUpdate (columns : List String) (values : List Value) :
    (q.asUpdate columns values).draft =
      q.draft.performAll (ifSound (updateFault? columns values)
        [q.replacing .update (.update (.set columns values))]) := by
  unfold asUpdate updateFault?
  split
  · rfl
  · split
    · rfl
    · exact draft_replaceComponent _ _

theorem QueryOver.draft_withValues (aliasName : String) (columns : List String)
    (rows : List (List Value)) :
    (q.withValues aliasName columns rows).draft =
      q.draft.performAll (ifSound (rowsFault? .emptyRows columns rows)
        [q.adding .cte (.source (.rows aliasName columns rows.flatten))]) := by
  unfold withValues rowsFault?
  split
  · rfl
  · split
    · rfl
    · exact draft_addComponent _ _

/-- A step that hands on the error of a subquery and adds a clause. -/
theorem QueryOver.draft_absorb_addComponent (e : Option Error) (m : Method) (c : Component)
    (k : ClauseKind Subquery) :
    (({ q with method := m }.absorb e).addComponent c k).draft =
      q.draft.performAll (inherited e ++ [q.adding c k]) := by
  rw [draft_addComponent, draft_absorb, Draft.performAll_append]
  rfl

/-- A step that hands on the error of a subquery and puts a clause in its place. -/
theorem QueryOver.draft_absorb_replaceComponent (e : Option Error) (m : Method) (c : Component)
    (k : ClauseKind Subquery) :
    (({ q with method := m }.absorb e).replaceComponent c k).draft =
      q.draft.performAll (inherited e ++ [q.replacing c k]) := by
  rw [draft_replaceComponent, draft_absorb, Draft.performAll_append]
  rfl

theorem Query.draft_asInsertQuery (columns : List String) (sub : Query) :
    (q.asInsertQuery columns sub).draft =
      q.draft.performAll
        (inherited sub.error ++ [q.refilling .insert (.insert (.query columns ⟨sub⟩))]) := by
  unfold Query.asInsertQuery
  rw [QueryOver.draft_refill, QueryOver.draft_absorb, Draft.performAll_append]
  rfl

theorem QueryOver.draft_forPage (page perPage : UInt64) :
    (q.forPage page perPage).draft =
      q.draft.performAll (match pageStart? page perPage with
        | some n => [q.replacing .offset (.offset n), q.replacing .limit (.limit perPage)]
        | none => [.record (.pageOutOfRange page perPage)]) := by
  have hoffset : ∀ n, (q.offset n).engineScope = q.engineScope := by
    intro n
    unfold offset replaceComponent
    split
    · rfl
    · split <;> rfl
  unfold forPage pageStart?
  dsimp only
  split
  · rw [limit, draft_replaceComponent, replacing, hoffset, offset, draft_replaceComponent]
    rfl
  · rfl

end Builders

mutual

/-- **Step.** What a step changes of the clauses and the error of a query are its actions. -/
theorem Step.draft_run : ∀ (s : Step) (q : Query),
    (s.run q).draft = q.draft.performAll (s.actions q)
  | .forEngine engine body, q => by
    simp only [Step.run, Step.actions]
    exact draft_runAll body { q with engineScope := some engine }
  | .named _, _ | .define _ _, _ | .setMethod _, _ | .distinctRows, _ | .asDelete, _
  | .dropTable, _ | .truncateTable, _ | .child, _ | .clearComponent _, _ | .pushClause _, _
  | .removeClauses _ _, _ => by
    simp only [Step.run, Step.actions]
    rfl
  | .fromTable _, _ | .fromRaw _, _ | .replaceComponent _ _, _ | .limit _, _ | .offset _, _
  | .lock _, _ | .temporary, _ | .onCommitPreserveRows _, _ | .asIncrement _ _, _
  | .asDecrement _ _, _ => by
    simp only [Step.run, Step.actions]
    exact QueryOver.draft_replaceComponent _ _
  | .addComponent _ _, _ | .selectRaw _, _ | .selectAggregate _ _, _ | .groupByRaw _, _
  | .orderBy _ _, _ | .orderByRaw _, _ | .orderByRandom _, _ | .withRaw _ _, _ => by
    simp only [Step.run, Step.actions]
    exact QueryOver.draft_addComponent _ _
  | .having _ _ _, _ | .havingRaw _, _ | .havingBetween _ _ _, _ | .havingIn _ _, _ => by
    simp only [Step.run, Step.actions]
    exact QueryOver.draft_pushCondition .having _
  | .selectQuery _ _, q | .selectAggregateWhere _ _ _, q => by
    simp only [Step.run, Step.actions]
    exact QueryOver.draft_absorb_addComponent q _ .select _ _
  | .fromQuery _, q => by
    simp only [Step.run, Step.actions]
    exact QueryOver.draft_absorb_replaceComponent q _ q.method _ _
  | .createTableAs _, q => by
    simp only [Step.run, Step.actions]
    exact QueryOver.draft_absorb_replaceComponent q _ .createTableAs _ _
  | .condition call, q => by
    simp only [Step.run, Step.actions]
    exact ConditionCall.draft_apply _ q
  | .select _, _ => by
    simp only [Step.run, Step.actions]
    exact QueryOver.draft_foldl_addComponent .select (fun c => .column (.named c)) _ _
  | .groupBy _, _ => by
    simp only [Step.run, Step.actions]
    exact QueryOver.draft_foldl_addComponent .group (fun c => .column (.named c)) _ _
  | .asAggregate _ _, _ | .asCount _, _ => by
    simp only [Step.run, Step.actions]
    exact QueryOver.draft_refill _ _
  | .forPage _ _, q => by
    simp only [Step.run, Step.actions]
    exact QueryOver.draft_forPage q _ _
  | .joinTable _ _ _, q | .joinQuery _ _ _, q => by
    simp only [Step.run, Step.actions]
    exact Query.draft_pushJoin q _
  | .combine _ _ _, q => by
    simp only [Step.run, Step.actions]
    unfold Query.combine
    split
    · exact QueryOver.draft_absorb_addComponent q _ q.method _ _
    · rfl
  | .combineRaw _, q => by
    simp only [Step.run, Step.actions]
    unfold QueryOver.combineRaw
    split
    · exact QueryOver.draft_addComponent _ _
    · rfl
  | .withQuery _, q => by
    simp only [Step.run, Step.actions]
    unfold Query.withQuery
    split
    · rfl
    · exact QueryOver.draft_absorb_addComponent q _ q.method _ _
  | .withValues _ _ _, q => by
    simp only [Step.run, Step.actions]
    exact QueryOver.draft_withValues q _ _ _
  | .asInsert _ _, q => by
    simp only [Step.run, Step.actions]
    exact QueryOver.draft_asInsert q _ _
  | .asInsertRow pairs _, q => by
    simp only [Step.run, Step.actions]
    unfold QueryOver.asInsertRow
    split
    · rfl
    · exact QueryOver.draft_refill _ _
  | .asInsertQuery _ _, q => by
    simp only [Step.run, Step.actions]
    exact Query.draft_asInsertQuery q _ _
  | .asUpdate _ _, q => by
    simp only [Step.run, Step.actions]
    exact QueryOver.draft_asUpdate q _ _
  | .createTable _, q => by
    simp only [Step.run, Step.actions]
    exact QueryOver.draft_createTable q _

/-- **Run.** What a list of steps changes are the actions of its steps, one after another. -/
theorem draft_runAll : ∀ (ss : List Step) (q : Query),
    (runAll ss q).draft = q.draft.performAll (actionsOf ss q)
  | [], q => by
    simp only [runAll, actionsOf]
    rfl
  | s :: ss, q => by
    simp only [runAll, actionsOf]
    rw [draft_runAll ss (s.run q), Step.draft_run s q, Draft.performAll_append]

end

/-! ## What a step does of its own accord -/

/-- The error is not about clauses that are there already. -/
def Error.IsOfArguments (e : Error) : Prop :=
  ∀ c n engine, e ≠ .ambiguousReplacement c n engine

/-- An action that a step takes of its own accord.  It adds no clause to a component that is filled
once, files no join, and records no error about clauses that are there already. -/
inductive Action.Plain : Action → Prop
  | add {c : Component} {engine : Option Dialect} {k : ClauseKind Subquery}
      (hc : c ∉ Component.single) (hk : k.join? = none) : Plain (.add ⟨c, engine, k⟩)
  | replace {c : Component} {engine : Option Dialect} {k : ClauseKind Subquery}
      (hk : k.join? = none) : Plain (.replace ⟨c, engine, k⟩)
  | refill {c : Component} {engine : Option Dialect} {k : ClauseKind Subquery}
      (hk : k.join? = none) : Plain (.refill ⟨c, engine, k⟩)
  | clear (c : Component) : Plain (.clear c)
  | remove (c : Component) (engine : Option Dialect) : Plain (.remove c engine)
  | record {e : Error} (he : e.IsOfArguments) : Plain (.record e)

/-- The actions that a step passes on of what it is given or has built. -/
def Step.handedOn : Step → Query → List Action
  | .fromQuery sub, q | .selectQuery sub _, q | .selectAggregateWhere _ _ sub, q
  | .combine _ _ sub, q | .withQuery sub, q | .asInsertQuery _ sub, q | .createTableAs sub, q =>
    inherited (sub.build q.child).error
  | .condition call, q => inherited (buildCall call q.child).fault?
  | .joinTable kind table body, q =>
    (runJoin body ((JoinBuilder.within q kind).table table)).actions q
  | .joinQuery kind sub body, q =>
    (runJoin body ((JoinBuilder.within q kind).query (sub.build q.child))).actions q
  | .forEngine engine body, q => actionsOf body { q with engineScope := some engine }
  | .addComponent c k, q => [q.adding c k]
  | .replaceComponent c k, q => [q.replacing c k]
  | .pushClause c, _ => [.push c]
  | .child, _ => [.restart]
  | _, _ => []

theorem mem_inherited {e : Option Error} {a : Action} :
    a ∈ inherited e ↔ ∃ err, e = some err ∧ a = .record err := by
  cases e <;> simp [inherited]

theorem rowsFault?_ofArguments {empty e : Error} {columns : List String} {rows : List (List Value)}
    (he : e ∈ rowsFault? empty columns rows) (hempty : empty.IsOfArguments) :
    e.IsOfArguments := by
  unfold rowsFault? at he
  split at he
  · obtain rfl := Option.mem_some_iff.mp he
    exact hempty
  · split at he
    · obtain rfl := Option.mem_some_iff.mp he
      nofun
    · nomatch he

theorem updateFault?_ofArguments {e : Error} {columns : List String} {values : List Value}
    (he : e ∈ updateFault? columns values) : e.IsOfArguments := by
  unfold updateFault? at he
  split at he
  · obtain rfl := Option.mem_some_iff.mp he
    nofun
  · split at he
    · obtain rfl := Option.mem_some_iff.mp he
      nofun
    · nomatch he

namespace Action.Plain

variable {wrong : Option Error} {as : List Action}

theorem ifSound (hwrong : ∀ e ∈ wrong, e.IsOfArguments) (has : ∀ a ∈ as, Plain a) :
    ∀ a ∈ ifSound wrong as, Plain a := by
  cases wrong with
  | none => exact has
  | some e => exact List.forall_mem_singleton.mpr (.record (hwrong e rfl))

end Action.Plain

/-- An action of a step is passed on, or plain. -/
theorem Step.plain_or_handedOn (s : Step) (q : Query) :
    ∀ a ∈ s.actions q, a ∈ s.handedOn q ∨ a.Plain := by
  have hown : ∀ {as : List Action}, s.actions q = as → (∀ a ∈ as, a.Plain) →
      ∀ a ∈ s.actions q, a ∈ s.handedOn q ∨ a.Plain := by
    rintro as rfl has a ha
    exact .inr (has a ha)
  have hpassed : ∀ {as : List Action}, s.actions q = s.handedOn q ++ as → (∀ a ∈ as, a.Plain) →
      ∀ a ∈ s.actions q, a ∈ s.handedOn q ∨ a.Plain := by
    intro as heq has a ha
    rw [heq] at ha
    exact (List.mem_append.mp ha).imp_right (has a)
  cases s with
  | named _ | define _ _ | setMethod _ | distinctRows | asDelete | dropTable | truncateTable =>
    exact hown (by simp only [actions]) (List.forall_mem_nil _)
  | child | addComponent _ _ | replaceComponent _ _ | pushClause _ | forEngine _ _
  | joinTable _ _ _ | joinQuery _ _ _ =>
    exact hpassed (by simp only [actions, handedOn, List.append_nil]) (List.forall_mem_nil _)
  | clearComponent c =>
    exact hown (by simp only [actions]) (List.forall_mem_singleton.mpr (.clear c))
  | removeClauses c engine =>
    exact hown (by simp only [actions]) (List.forall_mem_singleton.mpr (.remove c engine))
  | fromTable _ | fromRaw _ | limit _ | offset _ | lock _ | asIncrement _ _ | asDecrement _ _
  | temporary | onCommitPreserveRows _ =>
    exact hown (by simp only [actions]; rfl) (List.forall_mem_singleton.mpr (.replace rfl))
  | fromQuery _ | createTableAs _ =>
    exact hpassed (by simp only [actions, handedOn]; rfl)
      (List.forall_mem_singleton.mpr (.replace rfl))
  | selectQuery _ _ | selectAggregateWhere _ _ _ =>
    exact hpassed (by simp only [actions, handedOn]; rfl)
      (List.forall_mem_singleton.mpr (.add (by decide) rfl))
  | asInsertQuery _ _ =>
    exact hpassed (by simp only [actions, handedOn]; rfl)
      (List.forall_mem_singleton.mpr (.refill rfl))
  | condition call =>
    refine hpassed (by simp only [actions, handedOn]; rfl) fun a ha => ?_
    obtain ⟨d, -, rfl⟩ := List.mem_map.mp ha
    exact .add (by decide) rfl
  | selectRaw _ | selectAggregate _ _ | groupByRaw _ | having _ _ _ | havingRaw _
  | havingBetween _ _ _ | havingIn _ _ | orderBy _ _ | orderByRaw _ | orderByRandom _
  | withRaw _ _ =>
    exact hown (by simp only [actions]; rfl)
      (List.forall_mem_singleton.mpr (.add (by decide) rfl))
  | select _ | groupBy _ =>
    refine hown (by simp only [actions]; rfl) fun a ha => ?_
    obtain ⟨c, -, rfl⟩ := List.mem_map.mp ha
    exact .add (by decide) rfl
  | asAggregate _ _ | asCount _ =>
    exact hown (by simp only [actions]; rfl) (List.forall_mem_singleton.mpr (.refill rfl))
  | forPage page perPage =>
    intro a ha
    right
    simp only [actions] at ha
    split at ha
    · simp only [List.mem_cons, List.not_mem_nil, or_false] at ha
      obtain rfl | rfl := ha <;> exact .replace rfl
    · obtain rfl := List.mem_singleton.mp ha
      exact .record nofun
  | combine _ _ _ =>
    intro a ha
    simp only [actions] at ha
    split at ha
    · obtain ha | ha := List.mem_append.mp ha
      · exact .inl (by simpa only [handedOn] using ha)
      · obtain rfl := List.mem_singleton.mp ha
        exact .inr (.add (by decide) rfl)
    · obtain rfl := List.mem_singleton.mp ha
      exact .inr (.record nofun)
  | withQuery _ =>
    intro a ha
    simp only [actions] at ha
    split at ha
    · obtain rfl := List.mem_singleton.mp ha
      exact .inr (.record nofun)
    · obtain ha | ha := List.mem_append.mp ha
      · exact .inl (by simpa only [handedOn] using ha)
      · obtain rfl := List.mem_singleton.mp ha
        exact .inr (.add (by decide) rfl)
  | combineRaw _ =>
    intro a ha
    right
    simp only [actions] at ha
    split at ha
    · obtain rfl := List.mem_singleton.mp ha
      exact .add (by decide) rfl
    · obtain rfl := List.mem_singleton.mp ha
      exact .record nofun
  | withValues _ _ _ =>
    refine hown (by simp only [actions]; rfl) (.ifSound (fun e he => ?_) ?_)
    · exact rowsFault?_ofArguments he nofun
    · exact List.forall_mem_singleton.mpr (.add (by decide) rfl)
  | asInsert _ _ =>
    refine hown (by simp only [actions]; rfl) (.ifSound (fun e he => ?_) ?_)
    · exact rowsFault?_ofArguments he nofun
    · refine List.forall_mem_cons.mpr ⟨.clear _, fun a ha => ?_⟩
      obtain ⟨row, -, rfl⟩ := List.mem_map.mp ha
      exact .add (by decide) rfl
  | asInsertRow pairs _ =>
    refine hown (by simp only [actions]; rfl) (.ifSound (fun e he => ?_) ?_)
    · split at he <;> cases he
      nofun
    · exact List.forall_mem_singleton.mpr (.refill rfl)
  | asUpdate _ _ =>
    refine hown (by simp only [actions]; rfl) (.ifSound (fun e he => ?_) ?_)
    · exact updateFault?_ofArguments he
    · exact List.forall_mem_singleton.mpr (.replace rfl)
  | createTable _ =>
    refine hown (by simp only [actions]; rfl) (.ifSound (fun e he => ?_) ?_)
    · split at he <;> cases he
      nofun
    · refine List.forall_mem_cons.mpr ⟨.clear _, fun a ha => ?_⟩
      obtain ⟨c, -, rfl⟩ := List.mem_map.mp ha
      exact .add (by decide) rfl

end SqlBuilder
