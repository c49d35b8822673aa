/-
What a run of the program answers: the script that creates a declared schema,
and the changes that bring a database to it.
-/
import SchemaSync.Catalog.Introspection
import SchemaSync.Change.Diff
import SchemaSync.Entity.Reader
namespace SchemaSync

/-- The script that creates a schema as the settings ask, with the entities that it leaves out. -/
def Entity.Report.script (r : Entity.Report) (settings : Settings) : String :=
  SchemaSync.script settings.dialect settings.foreignKeys r.schema
    (r.skipped.map fun s => (s.entity, s.error.message))

/-- The script that creates the schema which a source tree declares. -/
def creationScript (settings : Settings) (tree : Directory.SourceTree) : Except Error String :=
  (Entity.readTree settings.scanMode settings.sourceExtension tree).map fun r => r.script settings

/-- The changes that bring the database behind a connection to the schema that a tree declares. -/
def pendingChanges (settings : Settings) (tree : Directory.SourceTree) (c : Catalog.Connection) :
    Except Error (List TableDiff) := do
  let declared ← Entity.readTree settings.scanMode settings.sourceExtension tree
  let current ← (Catalog.introspect settings.dialect c settings.migrationsTable).result
  return diff declared.schema current

end SchemaSync
