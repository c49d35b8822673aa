/-
Columns and what they are made of. A column is built from its name and type
and then refined one property at a time.
-/
import SchemaSync.Schema.ColumnType
import SchemaSync.Text.Quoted
namespace SchemaSync

/-- The default value of a column. -/
inductive DefaultValue where
  | null
  | bool (value : Bool)
  /-- A numeric literal, kept as written. -/
  | number (written : String)
  /-- A string, written as a quoted literal. -/
  | text (value : String)
  /-- A SQL expression, written as it is. -/
  | expression (sql : String)
  deriving DecidableEq, Repr

/-- The SQL text of a default value. -/
def DefaultValue.sql : DefaultValue → String
  | null => "NULL"
  | bool true => "TRUE"
  | bool false => "FALSE"
  | number written => written
  | text value => Text.literal value
  | expression sql => sql

/-- A column of a table. -/
structure Column where
  name : String
  type : ColumnType
  /-- The maximum length of strings and binaries. -/
  length : Option UInt32 := none
  nullable : Bool := false
  unique : Bool := false
  default : Option DefaultValue := none
  /-- The allowed values of an enum. -/
  enumOptions : List String := []
  /-- The total digits of decimals, the digits of fractional seconds of temporal types. -/
  precision : Option UInt32 := none
  /-- The digits after the decimal point. -/
  scale : Option UInt32 := none
  /-- Whether the column is the primary key or part of it. -/
  primaryKey : Bool := false
  /-- Whether the database is asked to generate values. -/
  autoIncrement : Bool := false
  deriving DecidableEq, Repr

namespace Column

/-- A column whose type is given as a text. -/
def ofTypeText (name type : String) : Except Violation Column := do
  let type ← ColumnType.read type
  return { name, type }

/-- The column with a precision, and with this scale or without one. -/
def withPrecision (c : Column) (precision : UInt32) (scale : Option UInt32) : Column :=
  { c with precision := some precision, scale }

/-- Generated values apply to integer primary keys only; on other columns the request is void. -/
def wantsAutoIncrement (c : Column) : Bool :=
  c.autoIncrement && c.primaryKey && c.type.isInteger

/-- Whether the column takes NULL: a primary key column never does. -/
def takesNull (c : Column) : Bool :=
  c.nullable && !c.primaryKey

/-- The allowed values of an enum column that lists any. -/
def enumLabels? (c : Column) : Option (List String) :=
  if c.type = .enum ∧ c.enumOptions ≠ [] then some c.enumOptions else none

end Column

end SchemaSync
