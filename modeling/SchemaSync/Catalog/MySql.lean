/-
Reading the schema of a MySQL database, through SHOW statements and the
information schema.
-/
import SchemaSync.Catalog.Default
import SchemaSync.Catalog.NativeType
import SchemaSync.Catalog.Query
import SchemaSync.Schema.Basic
namespace SchemaSync.Catalog.MySql

/-- The query for the table names. -/
def tablesQuery : String :=
  "SHOW TABLES"

/-- The query for the columns of a table. -/
def columnsQuery (table : String) : String :=
  "SHOW FULL COLUMNS FROM " ++ Dialect.mySql.wrap table

/-- The query for the foreign keys of a table. -/
def foreignKeysQuery : String :=
  "SELECT k.CONSTRAINT_NAME, k.COLUMN_NAME, k.REFERENCED_TABLE_NAME, " ++
    "k.REFERENCED_COLUMN_NAME, r.DELETE_RULE " ++
    "FROM information_schema.KEY_COLUMN_USAGE k " ++
    "JOIN information_schema.REFERENTIAL_CONSTRAINTS r " ++
    "ON r.CONSTRAINT_SCHEMA = k.CONSTRAINT_SCHEMA AND r.CONSTRAINT_NAME = k.CONSTRAINT_NAME " ++
    "WHERE k.TABLE_NAME = ? AND k.TABLE_SCHEMA = DATABASE() " ++
    "AND k.REFERENCED_TABLE_NAME IS NOT NULL " ++
    "ORDER BY k.CONSTRAINT_NAME, k.ORDINAL_POSITION"

/-- The logical type of a native type. An unknown one is a string. -/
def columnType (t : NativeType) : ColumnType :=
  match t.base with
  | "SMALLINT" => .smallInt
  | "INT" | "INTEGER" | "MEDIUMINT" => .integer
  | "BIGINT" => .bigInt
  | "DECIMAL" | "NUMERIC" => .decimal
  | "FLOAT" => .smallFloat
  | "DOUBLE" | "REAL" => .float
  | "VARCHAR" => .string
  | "TEXT" | "MEDIUMTEXT" | "TINYTEXT" => .text
  | "CHAR" => .uuid
  | "VARBINARY" | "BINARY" => .binary
  | "BLOB" | "MEDIUMBLOB" | "LONGBLOB" | "TINYBLOB" => .blob
  | "TINYINT" | "BOOL" | "BOOLEAN" => .boolean
  | "DATE" => .date
  | "DATETIME" => .dateTime
  | "TIMESTAMP" => .dateTimeTz
  | "TIME" => .time
  | "LONGTEXT" => .array
  | "JSON" => .json
  | "ENUM" => .enum
  | _ => .string

/-- The column that a row of the columns query describes. -/
def readColumn (sql : String) (row : Row) : Except Error Column := do
  let name ← row.require sql "Field"
  let native := NativeType.read (← row.require sql "Type")
  let type := columnType native
  let sizes := native.sizes type
  let extra := Text.lower ((row.get? "Extra").getD "")
  return {
    name, type
    length := sizes.length
    precision := sizes.precision
    scale := sizes.scale
    nullable := row.get? "Null" == some "YES"
    primaryKey := row.get? "Key" == some "PRI"
    unique := row.get? "Key" == some "UNI"
    autoIncrement := Text.hasPart extra "auto_increment"
    enumOptions := if type = .enum then native.arguments else []
    default := (row.get? "Default").map fun raw =>
      alignDefault type (mySqlDefault (Text.hasPart extra "default_generated") raw) }

/-- The foreign key that a row of the foreign keys query describes. -/
def readForeignKey (row : Row) : Except Error ForeignKey := do
  let require := row.require foreignKeysQuery
  return {
    name := ← require "CONSTRAINT_NAME"
    column := ← require "COLUMN_NAME"
    referencesTable := ← require "REFERENCED_TABLE_NAME"
    referencesColumn := ← require "REFERENCED_COLUMN_NAME"
    onDelete := deleteRule? (row.get? "DELETE_RULE") }

/-- The names of the tables, in catalog order. -/
def tableNames (c : Connection) : Traced (List String) := do
  return (← fetch c tablesQuery []).filterMap Row.first?

/-- A table with the columns and foreign keys that the catalog lists; none without columns. -/
def readTable (c : Connection) (name : String) : Traced (Option Table) := do
  let sql := columnsQuery name
  let rows ← fetch c sql []
  if rows.isEmpty then return none
  let columns ← .ofResult (rows.mapM (readColumn sql))
  let table ← .ofResult (Error.ofSchema ({ name : Table }.setColumns columns))
  let keyRows ← fetch c foreignKeysQuery [name]
  let foreignKeys ← .ofResult (keyRows.mapM readForeignKey)
  let table ← .ofResult (Error.ofSchema (foreignKeys.foldlM Table.addForeignKey table))
  return some table

end SchemaSync.Catalog.MySql
