import SqlBuilder.Dialect.Feature
import SqlBuilder.Render.Env

/-!
# Rendering limits and offsets

A limit and an offset are written in the style of the target: at the head of a select, before its
set operations, or around the whole statement.  `Paging.head` writes the part at the head and says
what is left to write, `Paging.tail` writes what is left, and `wrapRowNumber` and `wrapRowCount` put
a finished statement into the selects that count its rows.

Rows are counted from one in these constructs; a row number beyond 64 bits is an error.
-/

namespace SqlBuilder

/-- A limit and an offset; zero stands for none. -/
structure Paging where
  limit : UInt64
  offset : UInt64
deriving DecidableEq

/-- Writes the placeholder of a row count. -/
def boundCount (n : UInt64) : Emit String := do
  Emit.bound (Value.ofUInt64 n)
  return "?"

/-- The number of the first row after an offset. -/
def firstRow (offset : UInt64) : Except Error UInt64 :=
  if offset.toNat + 1 < UInt64.size then .ok (offset + 1) else .error (.offsetOutOfRange offset)

/-- The number of the last row of a page. -/
def lastRow (limit offset : UInt64) : Except Error UInt64 :=
  if limit.toNat + offset.toNat < UInt64.size then .ok (limit + offset)
  else .error (.pageEndOutOfRange limit offset)

namespace Paging

/-- The words at the head of a select, before and after DISTINCT. -/
structure Head where
  beforeDistinct : String := ""
  afterDistinct : String := ""

/-- Writes what belongs at the head of a select, and says what is left to write. -/
def head (style : Pagination) (p : Paging) : Emit (Head × Paging) :=
  match style with
  | .topRowNumber =>
    if 0 < p.limit ∧ p.offset = 0 then do
      let n ← boundCount p.limit
      return ({ afterDistinct := "TOP (" ++ n ++ ") " }, { p with limit := 0 })
    else
      return ({}, p)
  | .firstSkip =>
    if 0 < p.limit ∧ p.offset = 0 then do
      let n ← boundCount p.limit
      return ({ beforeDistinct := "FIRST " ++ n ++ " " }, { p with limit := 0 })
    else if 0 < p.offset ∧ p.limit = 0 then do
      let n ← boundCount p.offset
      return ({ beforeDistinct := "SKIP " ++ n ++ " " }, { p with offset := 0 })
    else
      return ({}, p)
  | _ => return ({}, p)

/-- Writes what is left of a limit and an offset after the order; the text is empty when nothing
is left. -/
def tail (style : Pagination) (hasOrders : Bool) (p : Paging) : Emit String :=
  if p.limit = 0 ∧ p.offset = 0 then
    return ""
  else
    match style with
    | .limitOffset unbounded =>
      if p.offset = 0 then do
        let n ← boundCount p.limit
        return "LIMIT " ++ n
      else if p.limit = 0 then do
        let m ← boundCount p.offset
        return match unbounded with
          | some all => "LIMIT " ++ all ++ " OFFSET " ++ m
          | none => "OFFSET " ++ m
      else do
        let n ← boundCount p.limit
        let m ← boundCount p.offset
        return "LIMIT " ++ n ++ " OFFSET " ++ m
    | .offsetFetch safeOrder => do
      let order := if hasOrders then "" else safeOrder
      let m ← boundCount p.offset
      if p.limit = 0 then
        return order ++ "OFFSET " ++ m ++ " ROWS"
      else
        let n ← boundCount p.limit
        return order ++ "OFFSET " ++ m ++ " ROWS FETCH NEXT " ++ n ++ " ROWS ONLY"
    | .firstSkip => do
      let first ← Emit.ofExcept (firstRow p.offset)
      let firstMark ← boundCount first
      let last ← Emit.ofExcept (lastRow p.limit p.offset)
      let lastMark ← boundCount last
      return "ROWS " ++ firstMark ++ " TO " ++ lastMark
    | .topRowNumber | .rowCount => return ""

end Paging

/-- The name of the column with row numbers. -/
def rowNumberColumn (d : Dialect) : String :=
  d.quoteIdentifier "row_num"

/-- The name of the derived table whose rows are numbered. -/
def rowNumberTable (d : Dialect) : String :=
  d.quoteIdentifier "results_wrapper"

/-- A column with row numbers in the given order. -/
def rowNumberExpression (d : Dialect) (order : String) : String :=
  "ROW_NUMBER() OVER (" ++ order ++ ") AS " ++ rowNumberColumn d

/-- Keeps one page of a select whose rows are numbered in a column. -/
def wrapRowNumber (d : Dialect) (p : Paging) (body : String) : Emit String := do
  let first ← Emit.ofExcept (firstRow p.offset)
  let firstMark ← boundCount first
  let filter ←
    if 0 < p.limit then do
      let last ← Emit.ofExcept (lastRow p.limit p.offset)
      let lastMark ← boundCount last
      pure (rowNumberColumn d ++ " BETWEEN " ++ firstMark ++ " AND " ++ lastMark)
    else
      pure (rowNumberColumn d ++ " >= " ++ firstMark)
  return "SELECT * FROM (" ++ body ++ ") " ++ d.aliasKeyword ++ rowNumberTable d ++ " WHERE " ++
    filter

/-- Keeps one page of a select by counting its rows. -/
def wrapRowCount (d : Dialect) (p : Paging) (body : String) : Emit String := do
  let table := rowNumberTable d
  let numbered := "SELECT " ++ table ++ ".*, ROWNUM " ++ rowNumberColumn d ++ " FROM (" ++ body ++
    ") " ++ table
  if p.limit = 0 then
    let m ← boundCount p.offset
    return "SELECT * FROM (" ++ numbered ++ ") WHERE " ++ rowNumberColumn d ++ " > " ++ m
  else if p.offset = 0 then
    let n ← boundCount p.limit
    return "SELECT * FROM (" ++ body ++ ") WHERE ROWNUM <= " ++ n
  else
    let last ← Emit.ofExcept (lastRow p.limit p.offset)
    let lastMark ← boundCount last
    let m ← boundCount p.offset
    return "SELECT * FROM (" ++ numbered ++ " WHERE ROWNUM <= " ++ lastMark ++ ") WHERE " ++
      rowNumberColumn d ++ " > " ++ m

end SqlBuilder
