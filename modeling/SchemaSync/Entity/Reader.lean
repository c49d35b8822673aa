/-
Reading the schema that a source tree declares.

Each entity becomes a table: the columns of its fields, and for each
relationship to one entity a column with a foreign key. A relationship
between many entities that is declared here becomes a pivot table, which is
added behind all entities' tables unless a table of its name is there. An
entity that cannot be read contributes nothing and is noted, or ends the read
in strict mode; a target that is no entity always ends it.
-/
import SchemaSync.Entity.FieldSpec
import SchemaSync.Entity.Inference
import SchemaSync.Entity.Target
import SchemaSync.Schema.Basic
import SchemaSync.Text.Names
namespace SchemaSync.Entity

open Source

/-! ## Tables of one entity -/

/-- The column that a foreign key references unless another one is given. -/
def defaultReferencedColumn : String := "id"

/-- The column and the foreign key of a relationship to one entity. -/
def joinColumn (table field target : String) (s : JoinColumnSpec) : Column × ForeignKey :=
  let name := s.name.getD (Text.joinColumnName field)
  ({ name, type := .integer, nullable := s.nullable.getD true },
    { name := Text.foreignKeyName table name
      column := name
      referencesTable := target
      referencesColumn := s.referencedColumn.getD defaultReferencedColumn
      onDelete := s.onDelete })

/-- The column and the foreign key of a pivot table for one of the two tables that it joins. -/
def pivotSide (pivot table : String) (s : JoinColumnSpec) : Column × ForeignKey :=
  let name := s.name.getD (Text.joinColumnName table)
  ({ name, type := .integer, primaryKey := true },
    { name := Text.foreignKeyName pivot name
      column := name
      referencesTable := table
      referencesColumn := s.referencedColumn.getD defaultReferencedColumn
      onDelete := some (s.onDelete.getD .cascade) })

/-- The pivot table between the tables of an owner and a target. -/
def pivotTable (owner target : String) (s : JoinTableSpec) : Except Violation Table :=
  let name := s.name.getD (Text.pivotTableName owner target)
  let owning := pivotSide name owner (s.joinColumn.getD {})
  let inverse := pivotSide name target (s.inverseJoinColumn.getD {})
  Table.build name [owning.1, inverse.1] [owning.2, inverse.2]

/-- What an entity, or a part of it, adds to a schema. -/
structure Parts where
  columns : List Column := []
  foreignKeys : List ForeignKey := []
  pivots : List Table := []

/-- What the relationship of a field adds. -/
def relationParts (declarations : List Declaration) (entity table field : String) (s : FieldSpec) :
    Except Error Parts := do
  match s.relation with
  | none => return {}
  | some (.manyToMany _ _ (some _)) => return {}
  | some (.manyToMany target _ none) =>
    let target ← targetTable declarations entity target
    return { pivots := [← Error.ofSchema (pivotTable table target (s.joinTable.getD {}))] }
  | some (.manyToOne target _) | some (.oneToMany target _) =>
    let target ← targetTable declarations entity target
    let (column, foreignKey) := joinColumn table field target (s.joinColumn.getD {})
    return { columns := [column], foreignKeys := [foreignKey] }

/-- What a field of an entity adds. -/
def fieldParts (declarations : List Declaration) (entity table : String) (f : Field) :
    Except Error Parts := do
  let s ← (FieldSpec.ofAttributes f.attributes).mapError (Error.invalidAttribute entity)
  let own ← match s.column with
    | some column => (column.column entity f.name f.type).map fun c => [c]
    | none => .ok []
  let parts ← relationParts declarations entity table f.name s
  return { parts with columns := own ++ parts.columns }

/-- The table of an entity, and the pivot tables of its relationships. -/
def readEntity (declarations : List Declaration) (d : Declaration) :
    Except Error (Table × List Table) := do
  let name ← d.tableName
  let parts ← d.item.fields.mapM (fieldParts declarations d.id name)
  let table ← Error.ofSchema
    (Table.build name (parts.flatMap (·.columns)) (parts.flatMap (·.foreignKeys)))
  return (table, parts.flatMap (·.pivots))

/-! ## The whole schema -/

/-- An entity that is left out of a schema, and why. -/
structure Skipped where
  entity : String
  error : Error
  deriving DecidableEq, Repr

/-- A schema, and the entities that are left out of it. -/
structure Report where
  schema : Schema
  skipped : List Skipped

/-- How far a read has come. -/
structure Progress where
  schema : Schema := .empty
  /-- The pivot tables of the entities that were read. -/
  pivots : List Table := []
  skipped : List Skipped := []

/-- The progress with the table of one more entity, and its pivot tables to come. -/
def addEntity (declarations : List Declaration) (p : Progress) (d : Declaration) :
    Except Error Progress := do
  let (table, pivots) ← readEntity declarations d
  let schema ← Error.ofSchema (p.schema.insert table)
  return { p with schema, pivots := p.pivots ++ pivots }

/-- Reads one more entity, or leaves it out where the mode and the error allow it. -/
def step (mode : ScanMode) (declarations : List Declaration) (p : Progress) (d : Declaration) :
    Except Error Progress :=
  match addEntity declarations p d with
  | .ok p => .ok p
  | .error e =>
    if e.isFatal || mode = .strict then .error e
    else .ok { p with skipped := p.skipped ++ [⟨d.id, e⟩] }

/-- The schema with those of the tables added whose names are not taken yet. -/
def addAbsent (s : Schema) (tables : List Table) : Schema :=
  tables.foldl (fun s t => (s.insertIfAbsent t).1) s

/-- The schema of some entities, whose targets are looked up among all declarations. -/
def readEntities (mode : ScanMode) (declarations entities : List Declaration) :
    Except Error Report := do
  let p ← entities.foldlM (step mode declarations) {}
  return ⟨addAbsent p.schema p.pivots, p.skipped⟩

/-- The schema that declarations declare. -/
def readDeclarations (mode : ScanMode) (declarations : List Declaration) : Except Error Report :=
  readEntities mode declarations (declarations.filter (·.isEntity))

/-- The schema that a source tree declares. -/
def readTree (mode : ScanMode) (extension : String) (tree : Directory.SourceTree) :
    Except Error Report := do
  readDeclarations mode (← declarations mode extension tree)

end SchemaSync.Entity
