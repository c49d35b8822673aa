/-
What can go wrong when entities are read, a catalog is read, or settings are
read, each cause with the text that reports it.
-/
import SchemaSync.Entity.Fault
import SchemaSync.Settings.Basic
namespace SchemaSync

/-- Why the program cannot go on, or leaves something out. -/
inductive Error where
  /-- A schema rule is broken. -/
  | violation (v : Violation)
  /-- A source file cannot be read as text, or a directory not listed in full. -/
  | unreadable (path reason : String)
  /-- A source file is not well formed. -/
  | malformed (path : String)
  /-- An attribute of an entity has a fault. -/
  | invalidAttribute (entity : String) (fault : Entity.Fault)
  /-- The type of a field says nothing about its column. -/
  | unsupportedType (entity field : String)
  /-- A relationship names no declaration, or several. -/
  | unknownTarget (entity target : String)
  /-- A relationship names a struct that is no entity. -/
  | missingTableMarker (entity : String)
  /-- A catalog query fails, or a row lacks a value. -/
  | catalog (sql reason : String)
  | settings (e : SettingsError)
  deriving DecidableEq, Repr

namespace Error

/-- The text that reports a fault of an entity's attributes. -/
def attributeMessage (entity fault : String) : String :=
  "invalid attribute on " ++ entity ++ ": " ++ fault

/-- The text that reports an error. -/
def message : Error → String
  | violation v => "invalid schema: " ++ v.message
  | unreadable path reason => "failed to read " ++ path ++ ": " ++ reason
  | malformed path => "failed to parse " ++ path
  | invalidAttribute entity fault => attributeMessage entity fault.message
  | unsupportedType entity field =>
    entity ++ " cannot infer a column type for field '" ++ field ++ "', add `ty = \"...\"`"
  | unknownTarget entity target => entity ++ " references unknown entity '" ++ target ++ "'"
  | missingTableMarker entity =>
    entity ++ " is used as a relationship target but has no #[orm(table = \"...\")] marker"
  | catalog sql reason => "catalog query failed: " ++ reason ++ " (query: " ++ sql ++ ")"
  | settings e => e.message

/-- Whether an error ends a whole read even where others are only noted. -/
def isFatal : Error → Bool
  | missingTableMarker _ => true
  | _ => false

/-- The outcome of a schema operation, with its violation as an error. -/
def ofSchema : Except Violation α → Except Error α
  | .ok a => .ok a
  | .error v => .error (violation v)

theorem ofSchema_eq_ok_iff {x : Except Violation α} {a : α} : ofSchema x = .ok a ↔ x = .ok a := by
  cases x <;> simp [ofSchema]

theorem ofSchema_eq_error_iff {x : Except Violation α} {e : Error} :
    ofSchema x = .error e ↔ ∃ v, x = .error v ∧ e = violation v := by
  cases x <;> simp [ofSchema, eq_comm]

end Error

end SchemaSync
