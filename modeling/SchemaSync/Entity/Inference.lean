/-
The column of a field: what its `column` clause says, and where it says
nothing, what the type of the field suggests.
-/
import SchemaSync.Entity.ColumnSpec
import SchemaSync.Error
import SchemaSync.Source.TypeExpr
namespace SchemaSync.Entity

open Source

/-- The column types of fields, by the last name in the path of the field's type. -/
def namedTypes : List (String × ColumnType) :=
  [("i8", .smallInt), ("u8", .smallInt), ("i16", .smallInt), ("u16", .integer), ("i32", .integer),
    ("u32", .bigInt), ("i64", .bigInt), ("u64", .bigInt), ("isize", .bigInt), ("usize", .bigInt),
    ("f32", .smallFloat), ("f64", .float), ("bool", .boolean), ("String", .string),
    ("Decimal", .decimal), ("BigDecimal", .decimal), ("Uuid", .uuid), ("NaiveDate", .date),
    ("Date", .date), ("NaiveDateTime", .dateTime), ("PrimitiveDateTime", .dateTime),
    ("DateTime", .dateTimeTz), ("OffsetDateTime", .dateTimeTz), ("Timestamp", .dateTimeTz),
    ("Zoned", .dateTimeTz), ("NaiveTime", .time), ("Time", .time), ("Value", .json),
    ("Json", .json), ("JsonValue", .json), ("Jsonb", .json)]

/-- Whether a type is this name alone. -/
def isNamed (name : String) : TypeExpr → Bool
  | .named n .name _ => n == name
  | _ => false

/-- The column type that a type suggests by itself. -/
def suggestedType? : TypeExpr → Option ColumnType
  | .reference (.named name .name _) => if name = "str" then some .string else none
  | .reference (.slice element) => if isNamed "u8" element then some .blob else none
  | .named "Vec" _ (element :: _) => some (if isNamed "u8" element then .blob else .array)
  | .named name _ _ => namedTypes.lookup name
  | _ => none

/-- The column type that a type suggests, and whether the field may be without a value. -/
def inferType? : TypeExpr → Option (ColumnType × Bool)
  | .named "Option" _ (inner :: _) => (inferType? inner).map fun (t, _) => (t, true)
  | type => (suggestedType? type).map fun t => (t, false)

/-- The type of a column: the one its options give, or else the one that is suggested. -/
def ColumnSpec.columnType (s : ColumnSpec) (entity field : String) (suggested : Option ColumnType) :
    Except Error ColumnType :=
  match s.type, suggested with
  | some given, _ => Error.ofSchema (ColumnType.read given)
  | none, some t => .ok t
  | none, none => .error (.unsupportedType entity field)

/-- The column of a field of an entity with these options. -/
def ColumnSpec.column (s : ColumnSpec) (entity field : String) (type : TypeExpr) :
    Except Error Column := do
  let inferred := inferType? type
  let columnType ← s.columnType entity field (inferred.map (·.1))
  return {
    name := s.name.getD field
    type := columnType
    length := s.length
    nullable := s.nullable.getD (inferred.any (·.2))
    unique := s.unique
    default := s.default
    enumOptions := s.enumOptions
    precision := s.precision
    scale := s.scale
    primaryKey := s.primaryKey
    autoIncrement := s.autoIncrement.getD (s.primaryKey && columnType.isInteger) }

end SchemaSync.Entity
