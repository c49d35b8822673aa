/-
The native type of a column. Most types have a common name; a dialect
spells some of them in its own way.
-/
import SchemaSync.Dialect
import SchemaSync.Schema.Column
import SchemaSync.Text.ItemList
import SchemaSync.Text.Number
namespace SchemaSync

/-- The length of strings and binaries declared without one. -/
def defaultLength : UInt32 := 255

/-- The total digits of decimals declared without them. -/
def defaultPrecision : UInt32 := 10

/-- The digits after the point of decimals declared without them. -/
def defaultScale : UInt32 := 0

namespace Column

/-- A type name with the column's length, or the usual one, in parentheses. -/
def sizedName (base : String) (c : Column) : String :=
  base ++ "(" ++ Text.decimal (c.length.getD defaultLength) ++ ")"

/-- A type name with the digits of fractional seconds in parentheses, if the column gives them. -/
def secondsName (base : String) (c : Column) : String :=
  match c.precision with
  | some p => base ++ "(" ++ Text.decimal p ++ ")"
  | none => base

/-- The type name most engines agree on. -/
def commonTypeName (c : Column) : String :=
  match c.type with
  | .smallInt => "SMALLINT"
  | .integer => "INTEGER"
  | .bigInt => "BIGINT"
  | .decimal =>
    "DECIMAL(" ++ Text.decimal (c.precision.getD defaultPrecision) ++ "," ++
      Text.decimal (c.scale.getD defaultScale) ++ ")"
  | .smallFloat => "REAL"
  | .float => "DOUBLE PRECISION"
  | .string => c.sizedName "VARCHAR"
  | .text => "TEXT"
  | .uuid => "CHAR(36)"
  | .binary => c.sizedName "VARBINARY"
  | .blob => "BLOB"
  | .boolean => "BOOLEAN"
  | .date => "DATE"
  | .dateTime => c.secondsName "DATETIME"
  | .dateTimeTz => c.secondsName "TIMESTAMP"
  | .time => c.secondsName "TIME"
  | .array => "TEXT"
  | .json => "JSON"
  | .enum => c.sizedName "VARCHAR"

end Column

/-- Labels as a list of literals. -/
def labelList (labels : List String) : String :=
  Text.commaList (labels.map Text.literal)

namespace Dialect

/-- The condition that a column holds one of the labels. -/
def labelCheck (d : Dialect) (column : String) (labels : List String) : String :=
  "CHECK (" ++ d.wrap column ++ " IN (" ++ labelList labels ++ "))"

/-- The native type of a column, without the condition that keeps an enum to its labels. -/
def bareTypeName : Dialect → Column → String
  | mySql, c =>
    match c.type with
    | .integer => "INT"
    | .smallFloat => "FLOAT"
    | .float => "DOUBLE"
    | .boolean => "TINYINT(1)"
    | .array => "LONGTEXT"
    | _ => c.commonTypeName
  | postgres, c =>
    match c.type with
    | .uuid => "UUID"
    | .binary | .blob => "BYTEA"
    | .dateTime => c.secondsName "TIMESTAMP"
    | .dateTimeTz => c.secondsName "TIMESTAMPTZ"
    | .json => "JSONB"
    | _ => c.commonTypeName

/--
The native type of a column as its definition gives it. An enum with labels is a type of its own
in MySQL; in Postgres its type is followed by the condition that keeps it to the labels.
-/
def typeName (d : Dialect) (c : Column) : String :=
  match c.enumLabels? with
  | none => d.bareTypeName c
  | some labels =>
    match d with
    | mySql => "ENUM(" ++ labelList labels ++ ")"
    | postgres => d.bareTypeName c ++ " " ++ d.labelCheck c.name labels

end Dialect

end SchemaSync
