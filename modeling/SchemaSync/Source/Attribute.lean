/-
Attributes of source files: `#[path]`, `#[path(tokens)]` with any delimiter,
and `#[path = value]`. The tokens of a list are kept as they are, for whoever
the attribute is meant for; a value is not kept.
-/
import SchemaSync.Source.Token
namespace SchemaSync.Source

/-- A path of names; `rooted` when two colons stand in front of it. -/
structure Path where
  rooted : Bool
  segments : List String
  deriving DecidableEq, Repr

namespace Path

/-- Whether the path is this one name, with nothing in front. -/
def isName (p : Path) (name : String) : Bool :=
  p = ⟨false, [name]⟩

/-- The names with two colons between them. -/
def text (p : Path) : String :=
  "::".intercalate p.segments

end Path

/-- What follows the path of an attribute. -/
inductive AttributeInput where
  | absent
  /-- The tokens of a group. -/
  | list (tokens : List Token)
  /-- A value behind an equals sign. -/
  | value
  deriving Repr

/-- An attribute. -/
structure Attribute where
  path : Path
  input : AttributeInput
  deriving Repr

end SchemaSync.Source
