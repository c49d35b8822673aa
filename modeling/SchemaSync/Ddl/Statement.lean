/-
The statements that create a schema and change it, each a value first and
SQL text second.
-/
import SchemaSync.Ddl.ModifyColumn
import SchemaSync.Schema.Table
namespace SchemaSync

/-- A statement of the data definition language. -/
inductive Statement where
  | createTable (table : String) (columns : List Column) (foreignKeys : List ForeignKey)
  | dropTable (table : String)
  | addColumn (table : String) (c : Column)
  | dropColumn (table column : String)
  /-- Turns the column `old` into `new`. -/
  | modifyColumn (table : String) (old new : Column)
  | addForeignKey (table : String) (fk : ForeignKey)
  | dropForeignKey (table : String) (fk : ForeignKey)
  deriving DecidableEq, Repr

namespace Statement

/-- The statement that creates a table, its foreign keys among the clauses. -/
def create (t : Table) : Statement :=
  createTable t.name t.columns t.foreignKeys

/-- The text of a statement. Only a column modification without a difference is empty. -/
def sql (d : Dialect) : Statement → String
  | createTable table columns foreignKeys => d.createTable table (tableClauses columns foreignKeys)
  | dropTable table => "DROP TABLE IF EXISTS " ++ d.wrap table ++ ";"
  | addColumn table c =>
    "ALTER TABLE " ++ d.wrap table ++ " ADD COLUMN " ++ d.columnDefinition .inColumn c ++ ";"
  | dropColumn table column =>
    "ALTER TABLE " ++ d.wrap table ++ " DROP COLUMN " ++ d.wrap column ++ ";"
  | modifyColumn table old new => d.modifyColumn table old new
  | addForeignKey table fk =>
    "ALTER TABLE " ++ d.wrap table ++ " ADD " ++ d.foreignKeyClause fk ++ ";"
  | dropForeignKey table fk =>
    "ALTER TABLE " ++ d.wrap table ++
      (match d with
        | .mySql => " DROP FOREIGN KEY "
        | .postgres => " DROP CONSTRAINT ") ++ d.wrap fk.name ++ ";"

end Statement

end SchemaSync
