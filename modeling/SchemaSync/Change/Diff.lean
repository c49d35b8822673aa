/-
The difference of two schemas, as the changes that turn the current one into
the desired one. Columns are compared with the implicit parts of their
definitions spelled out (`Column.effective`), foreign keys without their
constraint names.
-/
import SchemaSync.Change.Basic
import SchemaSync.Schema.Basic
namespace SchemaSync

/--
A column with the implicit parts of its definition spelled out: the usual length or precision, no
NULL in a primary key, and no generated values where the request for them is void.
-/
def Column.effective (c : Column) : Column :=
  { c with
    length :=
      if c.type = .string ∨ c.type = .binary then some (c.length.getD defaultLength) else c.length
    precision := if c.type = .decimal then some (c.precision.getD defaultPrecision) else c.precision
    scale := if c.type = .decimal then some (c.scale.getD defaultScale) else c.scale
    nullable := c.takesNull
    autoIncrement := c.wantsAutoIncrement }

/-- The column of a list with the given name. -/
def columnNamed? (columns : List Column) (name : String) : Option Column :=
  columns.find? fun c => c.name == name

/-- The changes between two lists of columns: additions, then drops, then modifications. -/
def diffColumns (desired current : List Column) : List Change :=
  (desired.filter fun c => (columnNamed? current c.name).isNone).map .addColumn ++
  (current.filter fun c => (columnNamed? desired c.name).isNone).map
    (fun c => .dropColumn c.name) ++
  desired.filterMap fun new =>
    match columnNamed? current new.name with
    | some old => if new.effective = old.effective then none else some (.modifyColumn old new)
    | none => none

/-- The changes between two lists of foreign keys: additions, then drops. -/
def diffForeignKeys (desired current : List ForeignKey) : List Change :=
  (desired.filter fun fk => !current.any (·.sameTarget fk)).map .addForeignKey ++
  (current.filter fun fk => !desired.any (·.sameTarget fk)).map .dropForeignKey

/-- The changes between two states of a table. -/
def diffTable (desired current : Table) : List Change :=
  diffColumns desired.columns current.columns ++
  diffForeignKeys desired.foreignKeys current.foreignKeys

/--
The changes that turn `current` into `desired`, table by table: tables to add, then tables to
drop, then tables on both sides that differ.
-/
def diff (desired current : Schema) : List TableDiff :=
  (desired.tables.filter fun t => !current.contains t.name).map
    (fun t => ⟨t.name, [.addTable t]⟩) ++
  (current.tables.filter fun t => !desired.contains t.name).map
    (fun t => ⟨t.name, [.dropTable t.name]⟩) ++
  desired.tables.filterMap fun t =>
    match current.get? t.name with
    | some u => match diffTable t u with
      | [] => none
      | changes => some ⟨t.name, changes⟩
    | none => none

/-- The number of changes. -/
def changeCount (diffs : List TableDiff) : Nat :=
  (diffs.flatMap (·.changes)).length

/-- The lines that describe the changes, each table's under its name. -/
def describeDiff (diffs : List TableDiff) : String :=
  if diffs.isEmpty then "No changes detected.\n"
  else String.join <| diffs.map fun d =>
    d.table ++ ":\n" ++ String.join (d.changes.map fun c => "  " ++ c.describe ++ "\n")

/-- The nonempty statements that carry out the changes of one table. -/
def TableDiff.statements (dialect : Dialect) (d : TableDiff) : List String :=
  (d.changes.map fun c => (c.statement d.table).sql dialect).filter (· ≠ "")

/-- The script that carries out the changes, each table's under a comment with its name. -/
def diffScript (dialect : Dialect) (diffs : List TableDiff) : String :=
  String.join <| diffs.map fun d =>
    "-- Table: " ++ d.table ++ "\n" ++ String.join ((d.statements dialect).map (· ++ "\n")) ++ "\n"

end SchemaSync
