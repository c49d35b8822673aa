/-
What can be wrong with a piece of a schema: a text that names no column type
or no delete action, a name declared twice, a foreign key on a column that
its table does not have.
-/
namespace SchemaSync

/-- A rule of the schema model that a value breaks. -/
inductive Violation where
  /-- A text that is no column type; `valid` lists the keys that are. -/
  | unknownType (given : String) (valid : List String)
  /-- A text that is no delete action. -/
  | unknownAction (given : String)
  /-- Two columns of one table with one name. -/
  | duplicateColumn (table column : String)
  /-- Two tables with one name. -/
  | duplicateTable (table : String)
  /-- A foreign key whose local column is missing. -/
  | unknownColumn (table foreignKey column : String)
  deriving DecidableEq, Repr

/-- The text that reports a violation. -/
def Violation.message : Violation → String
  | unknownType given valid =>
    "'" ++ given ++ "' is not a valid column type, supported types are: " ++ ", ".intercalate valid
  | unknownAction given => "'" ++ given ++ "' is not a valid referential action"
  | duplicateColumn table column =>
    "column '" ++ column ++ "' is declared twice in table '" ++ table ++ "'"
  | duplicateTable table => "table '" ++ table ++ "' is declared twice"
  | unknownColumn table foreignKey column =>
    "foreign key '" ++ foreignKey ++ "' uses column '" ++ column ++ "' which table '" ++ table ++
      "' does not have"

end SchemaSync
