/-
What a `column` clause says about a column.
-/
import SchemaSync.Entity.Clause
import SchemaSync.Text.ItemList
namespace SchemaSync.Entity

open Source

/-- An option of a column. -/
inductive ColumnOption where
  | name (name : String)
  /-- The text of a column type. -/
  | type (given : String)
  | length (n : UInt32)
  | nullable (b : Bool)
  | unique (b : Bool)
  | default (v : DefaultValue)
  | defaultExpression (sql : String)
  | enumOptions (labels : List String)
  | precision (n : UInt32)
  | scale (n : UInt32)
  | primaryKey (b : Bool)
  | autoIncrement (b : Bool)
  deriving DecidableEq, Repr

namespace ColumnOption

/-- The key that gives an option. -/
def key : ColumnOption → String
  | name _ => "name"
  | type _ => "ty"
  | length _ => "length"
  | nullable _ => "nullable"
  | unique _ => "unique"
  | default _ => "default"
  | defaultExpression _ => "default_expr"
  | enumOptions _ => "enum_options"
  | precision _ => "precision"
  | scale _ => "scale"
  | primaryKey _ => "primary_key"
  | autoIncrement _ => "auto_increment"

/-- The option that a clause gives. -/
def read (c : Clause) : Except Fault (Found ColumnOption) :=
  match c.path.text with
  | "name" => giving name c.string
  | "ty" => giving type c.string
  | "length" => giving length c.number
  | "nullable" => giving nullable c.flag
  | "unique" => giving unique c.flag
  | "default" => giving default c.default
  | "default_expr" => giving defaultExpression c.string
  | "enum_options" => giving (fun labels => enumOptions (Text.splitList labels)) c.string
  | "precision" => giving precision c.number
  | "scale" => giving scale c.number
  | "primary_key" => giving primaryKey c.flag
  | "auto_increment" => giving autoIncrement c.flag
  | _ => .error (c.unsupported .column)

end ColumnOption

/-- The options of a column, as far as they are given. -/
structure ColumnSpec where
  name : Option String := none
  type : Option String := none
  length : Option UInt32 := none
  nullable : Option Bool := none
  unique : Bool := false
  default : Option DefaultValue := none
  enumOptions : List String := []
  precision : Option UInt32 := none
  scale : Option UInt32 := none
  primaryKey : Bool := false
  autoIncrement : Option Bool := none
  deriving DecidableEq, Repr

namespace ColumnSpec

/--
The options with one more. A default value and a default expression exclude each other. Of the
options without a place for none, which are off or empty at first, the last one counts.
-/
def add (s : ColumnSpec) (o : ColumnOption) : Except Fault ColumnSpec :=
  match o with
  | .name v => return { s with name := ← once o.key s.name v }
  | .type v => return { s with type := ← once o.key s.type v }
  | .length v => return { s with length := ← once o.key s.length v }
  | .nullable v => return { s with nullable := ← once o.key s.nullable v }
  | .unique v => return { s with unique := v }
  | .default v => return { s with default := ← once o.key s.default v }
  | .defaultExpression v => return { s with default := ← once o.key s.default (.expression v) }
  | .enumOptions v => return { s with enumOptions := v }
  | .precision v => return { s with precision := ← once o.key s.precision v }
  | .scale v => return { s with scale := ← once o.key s.scale v }
  | .primaryKey v => return { s with primaryKey := v }
  | .autoIncrement v => return { s with autoIncrement := ← once o.key s.autoIncrement v }

/-- The options that a list of clauses gives. -/
def ofTokens (tokens : List Token) : Except Fault ColumnSpec :=
  foldClauses ColumnOption.read add {} tokens

end ColumnSpec

end SchemaSync.Entity
