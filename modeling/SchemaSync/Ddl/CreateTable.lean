/-
The clauses of CREATE TABLE: a definition for each column, one clause for a
primary key of several columns, and a constraint for each foreign key.
A statement is made of clauses first (`tableClauses`), and then written.
-/
import SchemaSync.Ddl.TypeName
import SchemaSync.Schema.ForeignKey
namespace SchemaSync

/-- Where the keys of a column are declared. -/
inductive KeyPlacement where
  /-- In the column definition. -/
  | inColumn
  /-- In a clause of the table, for a primary key of several columns. -/
  | inTable
  /-- Nowhere: the definition restates a column that exists. -/
  | omitted
  deriving DecidableEq, Repr

/-- A clause of CREATE TABLE. -/
inductive TableClause where
  | column (keys : KeyPlacement) (c : Column)
  | primaryKey (columns : List String)
  | foreignKey (fk : ForeignKey)
  deriving DecidableEq, Repr

namespace Dialect

/-- A column definition: name, type, nullability, default, uniqueness, generation and key. -/
def columnDefinition (d : Dialect) (keys : KeyPlacement) (c : Column) : String :=
  d.wrap c.name ++ " " ++ d.typeName c ++
    (if c.takesNull then " NULL" else " NOT NULL") ++
    (match c.default with
      | some value => " DEFAULT " ++ value.sql
      | none => "") ++
    (if keys ≠ .omitted ∧ c.unique ∧ !c.primaryKey then " UNIQUE" else "") ++
    (if keys ≠ .inTable ∧ c.wantsAutoIncrement then " " ++ d.autoIncrementKeywords else "") ++
    (if keys = .inColumn ∧ c.primaryKey then " PRIMARY KEY" else "")

/-- The constraint clause of a foreign key. -/
def foreignKeyClause (d : Dialect) (fk : ForeignKey) : String :=
  "CONSTRAINT " ++ d.wrap fk.name ++ " FOREIGN KEY (" ++ d.wrap fk.column ++ ") REFERENCES " ++
    d.wrap fk.referencesTable ++ " (" ++ d.wrap fk.referencesColumn ++ ")" ++
    match fk.onDelete with
    | some action => " ON DELETE " ++ action.sql
    | none => ""

/-- The text of a clause. -/
def clause (d : Dialect) : TableClause → String
  | .column keys c => d.columnDefinition keys c
  | .primaryKey columns => "PRIMARY KEY (" ++ Text.commaList (columns.map d.wrap) ++ ")"
  | .foreignKey fk => d.foreignKeyClause fk

end Dialect

/-- Where the keys of a table of these columns are declared. -/
def keyPlacement (columns : List Column) : KeyPlacement :=
  if 1 < (columns.filter (·.primaryKey)).length then .inTable else .inColumn

/-- The clauses that declare the columns and the primary key. -/
def columnClauses (columns : List Column) : List TableClause :=
  let keys := keyPlacement columns
  columns.map (.column keys) ++
    if keys = .inTable then [.primaryKey ((columns.filter (·.primaryKey)).map (·.name))] else []

/-- The clauses that declare a table of these columns and foreign keys. -/
def tableClauses (columns : List Column) (foreignKeys : List ForeignKey) : List TableClause :=
  columnClauses columns ++ foreignKeys.map .foreignKey

/-- The CREATE TABLE statement of these clauses, each on a line of its own. -/
def Dialect.createTable (d : Dialect) (table : String) (clauses : List TableClause) : String :=
  "CREATE TABLE " ++ d.wrap table ++ " (\n" ++
    ",\n".intercalate (clauses.map fun c => "    " ++ d.clause c) ++ "\n);"

end SchemaSync
