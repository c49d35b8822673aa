/-
What `join_column` and `join_table` clauses say about the columns and the
table that carry a relationship.
-/
import SchemaSync.Entity.Clause
import SchemaSync.Schema.ForeignKey
namespace SchemaSync.Entity

open Source

/-- An option of a join column. -/
inductive JoinColumnOption where
  | name (name : String)
  | referencedColumn (column : String)
  | nullable (b : Bool)
  | onDelete (action : DeleteAction)
  deriving DecidableEq, Repr

namespace JoinColumnOption

/-- The key that gives an option. -/
def key : JoinColumnOption → String
  | name _ => "name"
  | referencedColumn _ => "referenced_column"
  | nullable _ => "nullable"
  | onDelete _ => "on_delete"

/-- A delete action as value. -/
def action (c : Clause) : Except Fault (Found DeleteAction) := do
  let (given, rest) ← c.string
  match DeleteAction.read given with
  | .ok action => return (action, rest)
  | .error v => throw (.invalidAction v)

/-- The option that a clause gives. -/
def read (c : Clause) : Except Fault (Found JoinColumnOption) :=
  match c.path.text with
  | "name" => giving name c.string
  | "referenced_column" => giving referencedColumn c.string
  | "nullable" => giving nullable c.flag
  | "on_delete" => giving onDelete (action c)
  | _ => .error (c.unsupported .joinColumn)

end JoinColumnOption

/-- The options of a join column, as far as they are given. -/
structure JoinColumnSpec where
  name : Option String := none
  referencedColumn : Option String := none
  nullable : Option Bool := none
  onDelete : Option DeleteAction := none
  deriving DecidableEq, Repr

namespace JoinColumnSpec

/-- The options with one more. -/
def add (s : JoinColumnSpec) (o : JoinColumnOption) : Except Fault JoinColumnSpec :=
  match o with
  | .name v => return { s with name := ← once o.key s.name v }
  | .referencedColumn v => return { s with referencedColumn := ← once o.key s.referencedColumn v }
  | .nullable v => return { s with nullable := ← once o.key s.nullable v }
  | .onDelete v => return { s with onDelete := ← once o.key s.onDelete v }

/-- The options that the list of a clause gives. -/
def read (c : Clause) : Except Fault (Found JoinColumnSpec) := do
  let (inside, rest) ← c.list
  return (← foldClauses JoinColumnOption.read add {} inside, rest)

end JoinColumnSpec

/-- An option of a join table. -/
inductive JoinTableOption where
  | name (name : String)
  | joinColumn (spec : JoinColumnSpec)
  | inverseJoinColumn (spec : JoinColumnSpec)
  deriving DecidableEq, Repr

namespace JoinTableOption

/-- The key that gives an option. -/
def key : JoinTableOption → String
  | name _ => "name"
  | joinColumn _ => "join_column"
  | inverseJoinColumn _ => "inverse_join_column"

/-- The option that a clause gives. -/
def read (c : Clause) : Except Fault (Found JoinTableOption) :=
  match c.path.text with
  | "name" => giving name c.string
  | "join_column" => giving joinColumn (JoinColumnSpec.read c)
  | "inverse_join_column" => giving inverseJoinColumn (JoinColumnSpec.read c)
  | _ => .error (c.unsupported .joinTable)

end JoinTableOption

/-- The options of a join table, as far as they are given. -/
structure JoinTableSpec where
  name : Option String := none
  joinColumn : Option JoinColumnSpec := none
  inverseJoinColumn : Option JoinColumnSpec := none
  deriving DecidableEq, Repr

namespace JoinTableSpec

/-- The options with one more. -/
def add (s : JoinTableSpec) (o : JoinTableOption) : Except Fault JoinTableSpec :=
  match o with
  | .name v => return { s with name := ← once o.key s.name v }
  | .joinColumn v => return { s with joinColumn := ← once o.key s.joinColumn v }
  | .inverseJoinColumn v =>
    return { s with inverseJoinColumn := ← once o.key s.inverseJoinColumn v }

/-- The options that the list of a clause gives. -/
def read (c : Clause) : Except Fault (Found JoinTableSpec) := do
  let (inside, rest) ← c.list
  return (← foldClauses JoinTableOption.read add {} inside, rest)

end JoinTableSpec

end SchemaSync.Entity
