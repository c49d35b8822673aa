/-
The logical column types: a closed registry, each type with the key that
declarations and reports write for it. Each dialect maps every one of them
to a native type.
-/
import SchemaSync.Text.Blank
import SchemaSync.Text.CaseMap
import SchemaSync.Schema.Violation
namespace SchemaSync

/-- A logical column type. -/
inductive ColumnType where
  | smallInt
  | integer
  | bigInt
  | decimal
  | smallFloat
  | float
  | string
  | text
  | uuid
  | binary
  | blob
  | boolean
  | date
  | dateTime
  | dateTimeTz
  | time
  | array
  | json
  | enum
  deriving DecidableEq, Repr

namespace ColumnType

/-- Every registered type, in registry order. -/
def all : List ColumnType :=
  [smallInt, integer, bigInt, decimal, smallFloat, float, string, text, uuid, binary, blob,
    boolean, date, dateTime, dateTimeTz, time, array, json, enum]

theorem mem_all (t : ColumnType) : t ∈ all := by
  cases t <;> simp [all]

/-- The registry key of a type. -/
def key : ColumnType → String
  | smallInt => "smallint"
  | integer => "integer"
  | bigInt => "bigint"
  | decimal => "decimal"
  | smallFloat => "small_float"
  | float => "float"
  | string => "string"
  | text => "text"
  | uuid => "uuid"
  | binary => "binary"
  | blob => "blob"
  | boolean => "boolean"
  | date => "date"
  | dateTime => "datetime"
  | dateTimeTz => "datetime_tz"
  | time => "time"
  | array => "array"
  | json => "json"
  | enum => "enum"

/-- Whether a type is one of the integer types. -/
def isInteger : ColumnType → Bool
  | smallInt | integer | bigInt => true
  | _ => false

/-- Whether a type holds numbers. -/
def isNumeric : ColumnType → Bool
  | smallInt | integer | bigInt | decimal | smallFloat | float => true
  | _ => false

/-- The type with the given key. -/
def ofKey? (key : String) : Option ColumnType :=
  all.find? fun t => t.key == key

theorem ofKey?_key (t : ColumnType) : ofKey? t.key = some t := by
  cases t <;> rfl

/-- The type a text names: its key in any case, blanks around it ignored. -/
def read (given : String) : Except Violation ColumnType :=
  match ofKey? (Text.lower (Text.trim given)) with
  | some t => .ok t
  | none => .error (.unknownType given (all.map key))

end ColumnType

end SchemaSync
