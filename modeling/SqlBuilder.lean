import SqlBuilder.Calendar.Basic
import SqlBuilder.Calendar.Text
import SqlBuilder.Compiler
import SqlBuilder.Compiler.Document
import SqlBuilder.Config
import SqlBuilder.Config.Toml
import SqlBuilder.Dialect
import SqlBuilder.Dialect.Feature
import SqlBuilder.Dialect.Identifier
import SqlBuilder.Dialect.Table
import SqlBuilder.Error
import SqlBuilder.Json.Basic
import SqlBuilder.Json.Document
import SqlBuilder.Json.Printer
import SqlBuilder.Json.Reader
import SqlBuilder.Number.Binary64
import SqlBuilder.Number.Decimal
import SqlBuilder.Number.Digits
import SqlBuilder.Number.Reader
import SqlBuilder.Number.Shortest
import SqlBuilder.Options
import SqlBuilder.Query.Basic
import SqlBuilder.Query.Build.Condition
import SqlBuilder.Query.Build.Join
import SqlBuilder.Query.Build.Mutation
import SqlBuilder.Query.Build.Select
import SqlBuilder.Query.Clause
import SqlBuilder.Query.Clauses
import SqlBuilder.Query.Document
import SqlBuilder.Query.Fold
import SqlBuilder.Query.Method
import SqlBuilder.Query.Sections
import SqlBuilder.Query.Step
import SqlBuilder.Render.Condition
import SqlBuilder.Render.Cte
import SqlBuilder.Render.Emit
import SqlBuilder.Render.Env
import SqlBuilder.Render.Mutation
import SqlBuilder.Render.Paging
import SqlBuilder.Render.Placeholder
import SqlBuilder.Render.Rendered
import SqlBuilder.Render.Select
import SqlBuilder.Render.Statement
import SqlBuilder.Render.Table
import SqlBuilder.Session
import SqlBuilder.Statement.Document
import SqlBuilder.Statement.Keyword
import SqlBuilder.Statement.Table
import SqlBuilder.Text.Alias
import SqlBuilder.Text.Blank
import SqlBuilder.Text.Case
import SqlBuilder.Text.Case.Table
import SqlBuilder.Text.Split
import SqlBuilder.Text.Template
import SqlBuilder.Uuid
import SqlBuilder.Value.Basic
import SqlBuilder.Value.Display
import SqlBuilder.Value.Document
import SqlBuilder.Proofs.Query.EngineScope
import SqlBuilder.Proofs.Query.Fold
import SqlBuilder.Proofs.Query.InForce
import SqlBuilder.Proofs.Query.Interleaving
import SqlBuilder.Proofs.Markup.Basic
import SqlBuilder.Proofs.Text.Plain
import SqlBuilder.Proofs.Markup.Relation
import SqlBuilder.Proofs.Markup.Unmarked
import SqlBuilder.Proofs.Markup.Value
import SqlBuilder.Proofs.Markup.Marker
import SqlBuilder.Proofs.Markup.Condition
import SqlBuilder.Proofs.Markup.Paging
import SqlBuilder.Proofs.Markup.Clause
import SqlBuilder.Proofs.Markup.Select
import SqlBuilder.Proofs.Markup.Cte
import SqlBuilder.Proofs.Markup.Mutation
import SqlBuilder.Proofs.Markup.Statement
import SqlBuilder.Proofs.Markup.Table
import SqlBuilder.Proofs.Compile
import SqlBuilder.Proofs.Markup.Order
import SqlBuilder.Proofs.Markup.Balance
import SqlBuilder.Proofs.Frame.Context
import SqlBuilder.Proofs.Frame.Relation
import SqlBuilder.Proofs.Frame.Value
import SqlBuilder.Proofs.Frame.Expansion
import SqlBuilder.Proofs.Frame.Condition
import SqlBuilder.Proofs.Frame.Select
import SqlBuilder.Proofs.Frame.Statement
import SqlBuilder.Proofs.Paging.Clause
import SqlBuilder.Proofs.Paging.Text
import SqlBuilder.Proofs.Paging.Place
import SqlBuilder.Proofs.Paging.Window
import SqlBuilder.Proofs.Paging.Pages
import SqlBuilder.Proofs.Query.Subqueries
import SqlBuilder.Proofs.Query.Values
import SqlBuilder.Proofs.Alike.Value
import SqlBuilder.Proofs.Alike.Rendered
import SqlBuilder.Proofs.Cte.Distinct
import SqlBuilder.Proofs.Cte.Tree
import SqlBuilder.Proofs.Rewrite.Layer
import SqlBuilder.Proofs.Rewrite.Select
import SqlBuilder.Proofs.Rewrite.Statement
import SqlBuilder.Proofs.Alike.Statement
import SqlBuilder.Proofs.Cte.Hoist
import SqlBuilder.Proofs.Cte.Keyword
import SqlBuilder.Proofs.Cte.Prologue
import SqlBuilder.Proofs.Cte.Reach
import SqlBuilder.Proofs.Scope.Lookup
import SqlBuilder.Proofs.Scope.Lexical
import SqlBuilder.Proofs.Scope.Definitions
import SqlBuilder.Proofs.Scope.Substitution
import SqlBuilder.Proofs.Scope.Expansion
import SqlBuilder.Proofs.Query.Pending
import SqlBuilder.Proofs.Options
import SqlBuilder.Proofs.Text.Alias
import SqlBuilder.Proofs.Text.Identifier
import SqlBuilder.Proofs.Text.Quoting
import SqlBuilder.Proofs.TablePrefix
import SqlBuilder.Proofs.Text.Digits
import SqlBuilder.Proofs.Text.Placeholder
import SqlBuilder.Proofs.Text.Uuid
import SqlBuilder.Proofs.Text.Decimal
import SqlBuilder.Proofs.Text.Calendar
import SqlBuilder.Proofs.Document.Lawful
import SqlBuilder.Proofs.Document.Value
import SqlBuilder.Proofs.Document.Depth
import SqlBuilder.Proofs.Document.Clause
import SqlBuilder.Proofs.Document.Query
import SqlBuilder.Proofs.Query.Actions
import SqlBuilder.Proofs.Query.Errors
import SqlBuilder.Proofs.Query.FilledOnce
import SqlBuilder.Proofs.Aggregate
import SqlBuilder.Proofs.Paging.Numbered
import SqlBuilder.Proofs.Select.Body
import SqlBuilder.Proofs.Select.Aggregate
import SqlBuilder.Proofs.Select.Lists
import SqlBuilder.Proofs.Select.Columns
import SqlBuilder.Proofs.Select.Lock
import SqlBuilder.Proofs.Text.Marker
import SqlBuilder.Proofs.Mutation
import SqlBuilder.Proofs.Condition.Connective
import SqlBuilder.Proofs.Condition.Blank
import SqlBuilder.Proofs.Condition.Kept
import SqlBuilder.Proofs.Query.Turns
import SqlBuilder.Proofs.Query.Modifiers
import SqlBuilder.Proofs.Insert.Layout
import SqlBuilder.Proofs.Insert.Operands
import SqlBuilder.Proofs.Insert.Rows
import SqlBuilder.Proofs.Insert.Width
import SqlBuilder.Proofs.Text.Template
import SqlBuilder.Proofs.Table.Layout
import SqlBuilder.Proofs.Table.Key
import SqlBuilder.Proofs.Text.Escape
