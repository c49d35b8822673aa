/-
Turning one column into another. MySQL restates the whole definition;
Postgres alters one property at a time. Neither alters a primary key, which
is left to a remark. Columns without a difference need no statement: the
text is then empty.
-/
import SchemaSync.Ddl.CreateTable
namespace SchemaSync

/-- The remark that stands in for altering a primary key; the names are identifiers already. -/
def primaryKeyRemark (table column : String) : String :=
  "-- primary key of " ++ table ++ "." ++ column ++ " changed, not altered"

/-- The MySQL actions that turn `old` into `new`: the definition, then the index of UNIQUE. -/
def mySqlActions (old new : Column) : List String :=
  let d := Dialect.mySql
  let definition := d.columnDefinition .omitted new
  [if old.name = new.name then "MODIFY COLUMN " ++ definition
    else "CHANGE COLUMN " ++ d.wrap old.name ++ " " ++ definition] ++
  (if !old.unique ∧ new.unique then ["ADD UNIQUE (" ++ d.wrap new.name ++ ")"]
    else if old.unique ∧ !new.unique then ["DROP INDEX " ++ d.wrap old.name]
    else [])

/-- The MySQL statement that turns `old` into `new`, with a remark on the primary key. -/
def mySqlModify (table : String) (old new : Column) : String :=
  if old = new then ""
  else
    let d := Dialect.mySql
    "ALTER TABLE " ++ d.wrap table ++ " " ++ Text.commaList (mySqlActions old new) ++ ";" ++
      if old.primaryKey = new.primaryKey then ""
      else "\n" ++ primaryKeyRemark (d.wrap table) (d.wrap new.name)

/-- The name of the constraint that Postgres makes for a column, by the constraint's kind. -/
def derivedConstraint (table column kind : String) : String :=
  table ++ "_" ++ column ++ "_" ++ kind

/-- The Postgres actions that turn `old` into `new`, names aside. -/
def postgresActions (table : String) (old new : Column) : List String :=
  let d := Dialect.postgres
  let column := d.wrap new.name
  let type := d.bareTypeName new
  let constraint (name kind : String) := d.wrap (derivedConstraint table name kind)
  (if d.bareTypeName old = type then []
    else ["ALTER COLUMN " ++ column ++ " TYPE " ++ type ++ " USING " ++ column ++ "::" ++ type]) ++
  (if old.takesNull = new.takesNull then []
    else
      ["ALTER COLUMN " ++ column ++
        if new.takesNull then " DROP NOT NULL" else " SET NOT NULL"]) ++
  (if old.default = new.default then []
    else
      match new.default with
      | some value => ["ALTER COLUMN " ++ column ++ " SET DEFAULT " ++ value.sql]
      | none => ["ALTER COLUMN " ++ column ++ " DROP DEFAULT"]) ++
  (if !old.unique ∧ new.unique then
      ["ADD CONSTRAINT " ++ constraint new.name "key" ++ " UNIQUE (" ++ column ++ ")"]
    else if old.unique ∧ !new.unique then
      ["DROP CONSTRAINT IF EXISTS " ++ constraint old.name "key"]
    else []) ++
  (if old.enumLabels? = new.enumLabels? then []
    else
      (if old.enumLabels?.isSome then
        ["DROP CONSTRAINT IF EXISTS " ++ constraint old.name "check"] else []) ++
      match new.enumLabels? with
      | some labels =>
        ["ADD CONSTRAINT " ++ constraint new.name "check" ++ " " ++ d.labelCheck new.name labels]
      | none => [])

/-- The Postgres statements that turn `old` into `new`, with a remark on the primary key. -/
def postgresStatements (table : String) (old new : Column) : List String :=
  let d := Dialect.postgres
  let actions := postgresActions table old new
  (if old.name = new.name then []
    else ["ALTER TABLE " ++ d.wrap table ++ " RENAME COLUMN " ++ d.wrap old.name ++ " TO " ++
      d.wrap new.name ++ ";"]) ++
  (if actions = [] then []
    else ["ALTER TABLE " ++ d.wrap table ++ " " ++ Text.commaList actions ++ ";"]) ++
  (if old.primaryKey = new.primaryKey then []
    else [primaryKeyRemark (d.wrap table) (d.wrap new.name)])

/-- The statements that turn `old` into `new`, a line each; empty when there is nothing to do. -/
def Dialect.modifyColumn (d : Dialect) (table : String) (old new : Column) : String :=
  match d with
  | mySql => mySqlModify table old new
  | postgres => "\n".intercalate (postgresStatements table old new)

end SchemaSync
