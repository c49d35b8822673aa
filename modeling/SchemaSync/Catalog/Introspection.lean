/-
The schema of a running database, read through its catalog.
-/
import SchemaSync.Catalog.MySql
import SchemaSync.Catalog.Postgres
namespace SchemaSync.Catalog

/-- The names of the tables in the database, in catalog order. -/
def tableNames : Dialect → Connection → Traced (List String)
  | .mySql => MySql.tableNames
  | .postgres => Postgres.tableNames

/-- A single table; none when it has no columns or is not there. -/
def introspectTable : Dialect → Connection → String → Traced (Option Table)
  | .mySql => MySql.readTable
  | .postgres => Postgres.readTable

/-- The schema with the table of this name, if it has columns. -/
def addTable (d : Dialect) (c : Connection) (s : Schema) (name : String) : Traced Schema := do
  match ← introspectTable d c name with
  | some table => .ofResult (Error.ofSchema (s.insert table))
  | none => return s

/-- Every table that has columns, save the bookkeeping table of migrations. -/
def introspect (d : Dialect) (c : Connection) (migrationsTable : String) : Traced Schema := do
  let names ← tableNames d c
  (names.filter (· ≠ migrationsTable)).foldlM (addTable d c) Schema.empty

end SchemaSync.Catalog
