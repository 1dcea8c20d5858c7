import SqlBuilder.Dialect

/-!
# Targets

What a statement is compiled for: a dialect, and the options that hold for every statement.
-/

namespace SqlBuilder

/-- The options of a compilation. -/
structure Options where
  /-- Page with row numbers, on the dialects that had to before they had `OFFSET`. -/
  legacyPagination : Bool := false
  /-- Read tables without waiting for locks, on the dialect that has such a hint. -/
  noLock : Bool := false
  /-- The text before the number of a parameter; `?` stands for parameters without a name. -/
  parameterPrefix : Option String := none
  /-- The number of the first parameter. -/
  parameterBase : UInt64 := 0
  /-- The text before the name of every table. -/
  tablePrefix : Option String := none
  /-- Select only `1` in the subquery of an EXISTS. -/
  omitSelectInsideExists : Bool := true
deriving DecidableEq

/-- A dialect with the options to use. -/
structure Target where
  dialect : Dialect
  options : Options := {}
deriving DecidableEq

end SqlBuilder
