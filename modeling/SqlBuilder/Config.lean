import SqlBuilder.Config.Toml
import SqlBuilder.Error
import SqlBuilder.Options

/-!
# Configurations

A configuration names a dialect and gives the options of a target.  `Options.ofText` and
`Config.ofText` read them from a configuration file: what the file does not set has its default
value, and keys that are not known are skipped.  The dialect is kept as it is written, but it must
be a known one.
-/

namespace SqlBuilder

/-- A dialect, as it is written in the file, and options. -/
structure Config where
  dialect : String := Dialect.generic.code
  options : Options := {}

/-! ## Settings -/

namespace TomlFile

/-- The setting of a key at the top of the file, or a default value; a setting of another type is
refused. -/
def setting? {α : Type} (f : TomlFile) (key : String) (ofValue? : Toml → Option α) (default : α) :
    Option α :=
  match f.entry? [key] with
  | none => some default
  | some (.value v) => ofValue? v
  | some .table => none

/-- A truth value. -/
def bool? : Toml → Option Bool
  | .bool b => some b
  | _ => none

/-- A text. -/
def text? : Toml → Option String
  | .text s => some s
  | _ => none

/-- An integer that is not negative. -/
def unsigned? : Toml → Option UInt64
  | .int n => if 0 ≤ n ∧ n.toNat < UInt64.size then some (.ofNat n.toNat) else none
  | _ => none

/-- The options that a file sets. -/
def options? (f : TomlFile) : Option Options := do
  let standard : Options := {}
  return {
    legacyPagination := ← f.setting? "legacy_pagination" bool? standard.legacyPagination
    noLock := ← f.setting? "no_lock" bool? standard.noLock
    parameterPrefix := ← f.setting? "parameter_prefix" (Option.map some ∘ text?)
      standard.parameterPrefix
    parameterBase := ← f.setting? "parameter_base" unsigned? standard.parameterBase
    tablePrefix := ← f.setting? "table_prefix" (Option.map some ∘ text?) standard.tablePrefix
    omitSelectInsideExists := ← f.setting? "omit_select_inside_exists" bool?
      standard.omitSelectInsideExists }

/-- The configuration that a file sets, whatever the dialect is. -/
def config? (f : TomlFile) : Option Config := do
  let standard : Config := {}
  return {
    dialect := ← f.setting? "dialect" text? standard.dialect
    options := ← f.options? }

end TomlFile

/-! ## Reading -/

/-- Reads the options of a file. -/
def Options.ofText (s : String) : Except Error Options :=
  match (TomlFile.ofText? s).bind TomlFile.options? with
  | some options => .ok options
  | none => .error .unreadableConfig

namespace Config

/-- The target of a configuration. -/
def target (c : Config) : Except Error Target :=
  match Dialect.ofText? c.dialect with
  | some dialect => .ok { dialect, options := c.options }
  | none => .error (.unknownDialect c.dialect)

/-- Reads a file, which must name a known dialect. -/
def ofText (s : String) : Except Error Config :=
  match (TomlFile.ofText? s).bind TomlFile.config? with
  | some config =>
    match config.target with
    | .ok _ => .ok config
    | .error e => .error e
  | none => .error .unreadableConfig

end Config

end SqlBuilder
