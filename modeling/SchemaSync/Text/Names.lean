/-
Names made for things that a declaration leaves unnamed: constraints, pivot
tables and join columns.
-/
import SchemaSync.Text.CaseMap
namespace SchemaSync.Text

/-- The constraint name of a foreign key on a column. -/
def foreignKeyName (table column : String) : String :=
  "fk_" ++ table ++ "_" ++ column

/-- The pivot table name of a many-to-many relationship. -/
def pivotTableName (owner target : String) : String :=
  owner ++ "_" ++ target

/-- The join column name for a field or a table: lower case, with `_id` behind. -/
def joinColumnName (base : String) : String :=
  lower base ++ "_id"

end SchemaSync.Text
