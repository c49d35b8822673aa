/-
Settings, read from named text values such as environment variables. A
value that is missing or blank leaves the default; a value that names no
choice is an error.
-/
import SchemaSync.Dialect
import SchemaSync.Script
namespace SchemaSync

/-- What to do with a source file or an entity that cannot be read. -/
inductive ScanMode where
  /-- Leave it out and go on. -/
  | lenient
  /-- Give up. -/
  | strict
  deriving DecidableEq, Repr

/-- Why settings cannot be read. -/
inductive SettingsError where
  | invalid (key value : String)
  /-- A line of the environment file that is no assignment. -/
  | envFile
  deriving DecidableEq, Repr

/-- The text that reports an error in the settings. -/
def SettingsError.message : SettingsError → String
  | invalid key value => "invalid value '" ++ value ++ "' for " ++ key
  | envFile => "failed to load .env file"

/-- The settings of a run. -/
structure Settings where
  dialect : Dialect := .mySql
  scanMode : ScanMode := .lenient
  /-- The bookkeeping table, which is no part of an introspected schema. -/
  migrationsTable : String := "migrations"
  /-- The extension of source files, without a dot in front. -/
  sourceExtension : String := "rs"
  foreignKeys : ForeignKeyPlacement := .inTable
  databaseUrl : Option String := none
  deriving DecidableEq, Repr

namespace Settings

/-- The names of the settings. -/
def dialectKey : String := "TABULA_DIALECT"

@[inherit_doc dialectKey]
def scanModeKey : String := "TABULA_SCAN_MODE"

@[inherit_doc dialectKey]
def migrationsTableKey : String := "TABULA_MIGRATIONS_TABLE"

@[inherit_doc dialectKey]
def sourceExtensionKey : String := "TABULA_SOURCE_EXTENSION"

@[inherit_doc dialectKey]
def foreignKeysKey : String := "TABULA_FOREIGN_KEYS"

@[inherit_doc dialectKey]
def databaseUrlKey : String := "DATABASE_URL"

/-- The choice whose words include the given one, in any case and with blanks around it. -/
def choice (key : String) (choices : List (String × α)) (given : String) : Except SettingsError α :=
  match choices.lookup (Text.lower (Text.trim given)) with
  | some a => .ok a
  | none => .error (.invalid key given)

/-- The dialect a text names. -/
def readDialect : String → Except SettingsError Dialect :=
  choice dialectKey [("mysql", .mySql), ("mariadb", .mySql), ("postgres", .postgres),
    ("postgresql", .postgres), ("pg", .postgres)]

/-- The scan mode a text names. -/
def readScanMode : String → Except SettingsError ScanMode :=
  choice scanModeKey [("lenient", .lenient), ("strict", .strict)]

/-- The placement of foreign keys a text names. -/
def readForeignKeys : String → Except SettingsError ForeignKeyPlacement :=
  choice foreignKeysKey [("inline", .inTable), ("deferred", .deferred)]

/-- A value that is there and not blank. -/
def given? (lookup : String → Option String) (key : String) : Option String :=
  (lookup key).filter fun value => Text.trim value ≠ ""

/-- The value of a setting, or its default. -/
def readOr (lookup : String → Option String) (key : String) (default : α)
    (read : String → Except SettingsError α) : Except SettingsError α :=
  match given? lookup key with
  | some value => read value
  | none => .ok default

/-- A file extension without blanks around it and dots in front. -/
def cleanExtension (value : String) : String :=
  String.ofList ((Text.trim value).toList.dropWhile (· = '.'))

/-- The settings that a lookup of named values gives. -/
def ofLookup (lookup : String → Option String) : Except SettingsError Settings := do
  let defaults : Settings := {}
  let dialect ← readOr lookup dialectKey defaults.dialect readDialect
  let scanMode ← readOr lookup scanModeKey defaults.scanMode readScanMode
  let foreignKeys ← readOr lookup foreignKeysKey defaults.foreignKeys readForeignKeys
  return {
    dialect, scanMode, foreignKeys
    migrationsTable :=
      ((given? lookup migrationsTableKey).map Text.trim).getD defaults.migrationsTable
    sourceExtension :=
      ((given? lookup sourceExtensionKey).map cleanExtension).getD defaults.sourceExtension
    databaseUrl := given? lookup databaseUrlKey }

/-- The settings that a list of named values gives; of two values with one name the first counts. -/
def ofValues (values : List (String × String)) : Except SettingsError Settings :=
  ofLookup fun key => values.lookup key

end Settings

end SchemaSync
