import SqlBuilder.Dialect
import SqlBuilder.Number.Digits

/-!
# Errors

Everything that can be wrong with a statement, a configuration or an operator, as causes.
`Error.kind` groups the causes, `Error.detail` words each of them, and `Error.message` is the text
shown to the user.
-/

namespace SqlBuilder

/-- The groups of errors. -/
inductive ErrorKind where
  /-- An unknown dialect or an unusable configuration. -/
  | config
  /-- The clauses do not make up a statement. -/
  | structural
  /-- A table definition breaks a rule of tables. -/
  | validation
  /-- The dialect has no such construct. -/
  | unsupported
  | invalidOperator
  | undefinedVariable
deriving DecidableEq

/-- What can be wrong. -/
inductive Error where
  | unknownDialect (text : String)
  | unreadableConfig
  | invalidOperator (text : String)
  | undefinedVariable (name : String)
  -- Building a query
  | joinWithoutAlias
  | cteWithoutAlias
  | emptyInsert
  | emptyRows
  | emptyUpdate
  | raggedRows
  | raggedUpdate
  | existsWithoutSource
  | pageOutOfRange (page perPage : UInt64)
  | ambiguousReplacement (component : Component) (count : Nat) (engine : Option Dialect)
  | severalIdentityColumns
  | combinedNonSelect
  -- Values and placeholders
  | variableCycle (name : String)
  | rawBindingCount (expression : String) (placeholders bindings : Nat)
  | bindingCount (placeholders bindings : Nat)
  | patternNotText (column : String)
  -- Statements
  | offsetOutOfRange (offset : UInt64)
  | pageEndOutOfRange (limit offset : UInt64)
  | rowsOutsideCte (aliasName : String)
  | incompleteRows
  | joinWithoutTable
  | noTable (method : Method)
  | insertWithoutValues
  | mixedInsertColumns
  | mixedInsertSources
  | updateWithoutColumns
  | notDataStatement (method : Method)
  | noLastInsertId (dialect : Dialect)
  | unsupportedLock (mode : LockMode) (dialect : Dialect)
  -- Table definitions
  | tableStatementWithoutTable
  | createWithoutColumns
  | createWithoutSource
  | createAsUnsupported
deriving DecidableEq

namespace Error

open Number

/-- The group of a cause. -/
def kind : Error → ErrorKind
  | unknownDialect _ | unreadableConfig => .config
  | invalidOperator _ => .invalidOperator
  | undefinedVariable _ => .undefinedVariable
  | severalIdentityColumns => .validation
  | combinedNonSelect | notDataStatement _ | noLastInsertId _ | unsupportedLock _ _
  | createAsUnsupported => .unsupported
  | _ => .structural

/-- The dialect that clauses are scoped to, in messages. -/
def engineText : Option Dialect → String
  | some d => d.code
  | none => "generic"

/-- The cause in words. -/
def detail : Error → String
  | unknownDialect s =>
    "Unknown dialect '" ++ s ++
      "'. Expected one of: sqlserver, mysql, postgres, sqlite, oracle, firebird, generic"
  | unreadableConfig => "The configuration cannot be read"
  | invalidOperator s => s
  | undefinedVariable name => name
  | joinWithoutAlias => "No alias found for the joined subquery"
  | cteWithoutAlias => "No alias found for the CTE query"
  | emptyInsert => "Columns and values cannot be empty for an insert"
  | emptyRows => "Columns and values cannot be empty for an ad-hoc CTE"
  | emptyUpdate => "Columns and values cannot be empty for an update"
  | raggedRows => "Columns count should be equal to each values count"
  | raggedUpdate => "Columns count should be equal to values count"
  | existsWithoutSource => "Expected a 'from' clause on the EXISTS subquery"
  | pageOutOfRange page perPage =>
    "Page " ++ natText page.toNat ++ " of " ++ natText perPage.toNat ++ " rows is out of range"
  | ambiguousReplacement component count engine =>
    "Cannot replace component '" ++ component.text ++ "': " ++ natText count ++
      " clauses match engine " ++ engineText engine
  | severalIdentityColumns => "A table can have only one identity column"
  | combinedNonSelect => "Only select queries can be combined"
  | variableCycle name => "Variable '" ++ name ++ "' refers to itself"
  | rawBindingCount expression placeholders bindings =>
    "Raw expression '" ++ expression ++ "' has " ++ natText placeholders ++ " placeholders but " ++
      natText bindings ++ " bindings"
  | bindingCount placeholders bindings =>
    "Compiled SQL has " ++ natText placeholders ++ " placeholders but " ++ natText bindings ++
      " bindings"
  | patternNotText column => "String condition on '" ++ column ++ "' expects a string value"
  | offsetOutOfRange offset => "Offset " ++ natText offset.toNat ++ " is out of range"
  | pageEndOutOfRange limit offset =>
    "Limit " ++ natText limit.toNat ++ " with offset " ++ natText offset.toNat ++
      " is out of range"
  | rowsOutsideCte aliasName => "Ad-hoc table '" ++ aliasName ++ "' can only be used as a CTE"
  | incompleteRows => "Ad-hoc table rows must match the column count"
  | joinWithoutTable => "Join without a table"
  | noTable method => "No table set to " ++ method.text
  | insertWithoutValues => "Insert without values"
  | mixedInsertColumns => "Every inserted row must use the same columns"
  | mixedInsertSources => "Cannot mix an insert select with inserted rows"
  | updateWithoutColumns => "Update without columns"
  | notDataStatement method => method.text ++ " is not a data statement"
  | noLastInsertId dialect => dialect.code ++ " has no last insert id query"
  | unsupportedLock mode dialect =>
    Vocabulary.name mode ++ " row lock is not supported by " ++ dialect.code
  | tableStatementWithoutTable => "No table set for the table statement"
  | createWithoutColumns => "CREATE TABLE needs at least one column"
  | createWithoutSource => "CREATE TABLE AS needs a source query"
  | createAsUnsupported => "Firebird does not support CREATE TABLE AS SELECT"

/-- The text shown to the user: the group, then the cause. -/
def message (e : Error) : String :=
  match e.kind with
  | .config => "Configuration error: " ++ e.detail
  | .structural => "Structural error: " ++ e.detail
  | .validation => "Validation error: " ++ e.detail
  | .unsupported => "Unsupported operation: " ++ e.detail
  | .invalidOperator => "Invalid operator: '" ++ e.detail ++ "'"
  | .undefinedVariable => "Undefined variable: '" ++ e.detail ++ "'"

end Error

end SqlBuilder
