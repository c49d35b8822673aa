/-
Reading the schema of a Postgres database, through its system catalog and
the information schema, limited to the current schema.
-/
import SchemaSync.Catalog.Default
import SchemaSync.Catalog.NativeType
import SchemaSync.Catalog.Query
import SchemaSync.Schema.Basic
namespace SchemaSync.Catalog.Postgres

/-- The query for the table names. -/
def tablesQuery : String :=
  "SELECT table_name::text AS table_name " ++
    "FROM information_schema.tables " ++
    "WHERE table_schema = current_schema() AND table_type = 'BASE TABLE' " ++
    "ORDER BY table_name"

/-- The query for the columns of a table. -/
def columnsQuery : String :=
  "SELECT a.attname::text AS name, " ++
    "format_type(a.atttypid, a.atttypmod)::text AS type, " ++
    "(NOT a.attnotnull)::text AS nullable, " ++
    "pg_get_expr(d.adbin, d.adrelid)::text AS column_default, " ++
    "(a.attidentity <> '')::text AS is_identity " ++
    "FROM pg_attribute a " ++
    "JOIN pg_class c ON c.oid = a.attrelid " ++
    "JOIN pg_namespace n ON n.oid = c.relnamespace " ++
    "LEFT JOIN pg_attrdef d ON d.adrelid = a.attrelid AND d.adnum = a.attnum " ++
    "WHERE n.nspname = current_schema() AND c.relname::text = $1 " ++
    "AND a.attnum > 0 AND NOT a.attisdropped " ++
    "ORDER BY a.attnum"

/-- The query for the primary key and the unique constraints of a table. -/
def keysQuery : String :=
  "SELECT con.contype::text AS kind, a.attname::text AS column_name, " ++
    "array_length(con.conkey, 1)::text AS width " ++
    "FROM pg_constraint con " ++
    "JOIN pg_class c ON c.oid = con.conrelid " ++
    "JOIN pg_namespace n ON n.oid = c.relnamespace " ++
    "JOIN pg_attribute a ON a.attrelid = c.oid AND a.attnum = ANY(con.conkey) " ++
    "WHERE n.nspname = current_schema() AND c.relname::text = $1 " ++
    "AND con.contype IN ('p', 'u')"

/-- The query for the foreign keys of a table. -/
def foreignKeysQuery : String :=
  "SELECT tc.constraint_name::text AS constraint_name, " ++
    "kcu.column_name::text AS column_name, " ++
    "ccu.table_name::text AS referenced_table, " ++
    "ccu.column_name::text AS referenced_column, " ++
    "rc.delete_rule::text AS delete_rule " ++
    "FROM information_schema.table_constraints tc " ++
    "JOIN information_schema.key_column_usage kcu " ++
    "ON kcu.constraint_name = tc.constraint_name " ++
    "AND kcu.constraint_schema = tc.constraint_schema " ++
    "JOIN information_schema.constraint_column_usage ccu " ++
    "ON ccu.constraint_name = tc.constraint_name " ++
    "AND ccu.constraint_schema = tc.constraint_schema " ++
    "JOIN information_schema.referential_constraints rc " ++
    "ON rc.constraint_name = tc.constraint_name " ++
    "AND rc.constraint_schema = tc.constraint_schema " ++
    "WHERE tc.constraint_type = 'FOREIGN KEY' AND tc.table_schema = current_schema() " ++
    "AND tc.table_name::text = $1 " ++
    "ORDER BY tc.constraint_name"

/-- The logical type of a native type. An unknown one is a string. -/
def columnType (t : NativeType) : ColumnType :=
  let name := t.fullName
  if Text.endsIn name "[]" then .array
  else match name with
    | "SMALLINT" | "INT2" => .smallInt
    | "INTEGER" | "INT" | "INT4" => .integer
    | "BIGINT" | "INT8" => .bigInt
    | "NUMERIC" | "DECIMAL" => .decimal
    | "REAL" | "FLOAT4" => .smallFloat
    | "DOUBLE PRECISION" | "FLOAT8" => .float
    | "CHARACTER VARYING" | "VARCHAR" | "CHARACTER" | "CHAR" => .string
    | "TEXT" => .text
    | "UUID" => .uuid
    | "BYTEA" => .blob
    | "BOOLEAN" | "BOOL" => .boolean
    | "DATE" => .date
    | "TIMESTAMP" | "TIMESTAMP WITHOUT TIME ZONE" => .dateTime
    | "TIMESTAMPTZ" | "TIMESTAMP WITH TIME ZONE" => .dateTimeTz
    | "TIME" | "TIME WITHOUT TIME ZONE" | "TIME WITH TIME ZONE" | "TIMETZ" => .time
    | "JSON" | "JSONB" => .json
    | _ => .string

/-- A key constraint on a column, as a row of the keys query describes it. -/
structure Key where
  column : String
  /-- Whether it is the primary key. -/
  primary : Bool
  /-- Whether it is a unique constraint on this column alone. -/
  unique : Bool
  deriving DecidableEq, Repr

/-- The key that a row of the keys query describes. -/
def readKey (row : Row) : Except Error Key := do
  return {
    column := ← row.require keysQuery "column_name"
    primary := row.get? "kind" == some "p"
    unique := row.get? "kind" == some "u" && row.get? "width" == some "1" }

/--
The column that a row of the columns query describes. A default that takes the next value of a
sequence makes the values generated, and is no default.
-/
def readColumn (keys : List Key) (row : Row) : Except Error Column := do
  let name ← row.require columnsQuery "name"
  let native := NativeType.read (← row.require columnsQuery "type")
  let type := columnType native
  let sizes := native.sizes type
  let raw := row.get? "column_default"
  let sequence := raw.any fun d => Text.beginsWith (Text.trimStart d) "nextval("
  return {
    name, type
    length := sizes.length
    precision := sizes.precision
    scale := sizes.scale
    nullable := row.get? "nullable" == some "true"
    primaryKey := keys.any fun k => k.primary && k.column == name
    unique := keys.any fun k => k.unique && k.column == name
    autoIncrement := row.get? "is_identity" == some "true" || sequence
    default := if sequence then none else raw.map fun d => alignDefault type (postgresDefault d) }

/-- The foreign key that a row of the foreign keys query describes. -/
def readForeignKey (row : Row) : Except Error ForeignKey := do
  let require := row.require foreignKeysQuery
  return {
    name := ← require "constraint_name"
    column := ← require "column_name"
    referencesTable := ← require "referenced_table"
    referencesColumn := ← require "referenced_column"
    onDelete := deleteRule? (row.get? "delete_rule") }

/-- The names of the tables, in catalog order. -/
def tableNames (c : Connection) : Traced (List String) := do
  return (← fetch c tablesQuery []).filterMap fun row => row.get? "table_name"

/-- A table with the columns and foreign keys that the catalog lists; none without columns. -/
def readTable (c : Connection) (name : String) : Traced (Option Table) := do
  let rows ← fetch c columnsQuery [name]
  if rows.isEmpty then return none
  let keys ← .ofResult ((← fetch c keysQuery [name]).mapM readKey)
  let columns ← .ofResult (rows.mapM (readColumn keys))
  let table ← .ofResult (Error.ofSchema ({ name : Table }.setColumns columns))
  let keyRows ← fetch c foreignKeysQuery [name]
  let foreignKeys ← .ofResult (keyRows.mapM readForeignKey)
  let table ← .ofResult (Error.ofSchema (foreignKeys.foldlM Table.addForeignKey table))
  return some table

end SchemaSync.Catalog.Postgres
