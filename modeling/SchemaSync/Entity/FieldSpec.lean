/-
What the attributes of a field say: its column, its relationship, and the
columns and table that carry the relationship.
-/
import SchemaSync.Entity.ColumnSpec
import SchemaSync.Entity.JoinSpec
import SchemaSync.Entity.Relation
namespace SchemaSync.Entity

open Source

/-- What one clause of a field's attributes says. -/
inductive FieldClause where
  | column (spec : ColumnSpec)
  | relation (r : Relation)
  | joinColumn (spec : JoinColumnSpec)
  | joinTable (spec : JoinTableSpec)
  deriving DecidableEq, Repr

namespace FieldClause

/-- The key of a clause. -/
def key : FieldClause → String
  | column _ => "column"
  | relation r => r.kind.key
  | joinColumn _ => "join_column"
  | joinTable _ => "join_table"

/-- The options of a column, which may be left out together with their parentheses. -/
def columnSpec (c : Clause) : Except Fault (Found ColumnSpec) :=
  match c.rest with
  | .group .paren inside :: rest => do return (← ColumnSpec.ofTokens inside, rest)
  | tokens => .ok ({}, tokens)

/-- A relationship of a kind. -/
def ofKind (kind : RelationKind) (c : Clause) : Except Fault (Found Relation) := do
  let (inside, rest) ← c.list
  return (← Relation.ofTokens kind inside, rest)

/-- What a clause says. -/
def read (c : Clause) : Except Fault (Found FieldClause) :=
  match c.path.text, RelationKind.ofKey? c.path.text with
  | _, some kind => giving relation (ofKind kind c)
  | "column", none => giving column (columnSpec c)
  | "join_column", none => giving joinColumn (JoinColumnSpec.read c)
  | "join_table", none => giving joinTable (JoinTableSpec.read c)
  | _, none => .error (c.unsupported .field)

end FieldClause

/-- What the attributes of a field say, as far as they say anything. -/
structure FieldSpec where
  column : Option ColumnSpec := none
  relation : Option Relation := none
  joinColumn : Option JoinColumnSpec := none
  joinTable : Option JoinTableSpec := none
  deriving DecidableEq, Repr

namespace FieldSpec

/-- The description with one more clause. A field has one relationship at most, of any kind. -/
def add (s : FieldSpec) (c : FieldClause) : Except Fault FieldSpec :=
  match c with
  | .column v => return { s with column := ← once c.key s.column v }
  | .relation v => return { s with relation := ← once c.key s.relation v }
  | .joinColumn v => return { s with joinColumn := ← once c.key s.joinColumn v }
  | .joinTable v => return { s with joinTable := ← once c.key s.joinTable v }

/-- What the attributes of a field say. -/
def ofAttributes (attributes : List Attribute) : Except Fault FieldSpec :=
  foldAttributes FieldClause.read add {} attributes

end FieldSpec

end SchemaSync.Entity
