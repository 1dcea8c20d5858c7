import SqlBuilder.Compiler
import SqlBuilder.Query.Document

/-!
# Compiled statements as documents

A compiled statement is written as a record of its two texts, its values, and its values by the
names of their parameters.
-/

namespace SqlBuilder

open Json

instance : Document Compiled where
  encode c := .object
    [("raw_sql", encode c.rawSql), ("sql", encode c.sql), ("bindings", encode c.bindings),
      ("named_bindings", encode (c.namedBindings : Definitions))]
  decode? j := do
    let fs ← recordFields? ["raw_sql", "sql", "bindings", "named_bindings"] 4 j
    Compiled.mk <$> part? "raw_sql" fs <*> part? "sql" fs <*> part? "bindings" fs <*>
      (part? "named_bindings" fs : Option Definitions)

end SqlBuilder
