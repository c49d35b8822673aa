/-
Native types as a catalog prints them, `BASE(argument, ..) SUFFIX`, and what
their arguments say about a column.
-/
import SchemaSync.Schema.ColumnType
import SchemaSync.Text.ItemList
import SchemaSync.Text.Number
namespace SchemaSync.Catalog

/-- The words of a text in upper case, one space between neighbours. -/
def upperWords (s : String) : String :=
  Text.upper (Text.singleSpaced s)

/-- A native type. -/
structure NativeType where
  /-- The type name in upper case. -/
  base : String
  /-- The arguments in parentheses, unquoted. -/
  arguments : List String
  /-- What follows the parentheses, in upper case. -/
  suffix : String
  deriving DecidableEq, Repr

/--
The characters up to the first closing parenthesis outside quotes, and those behind it. `quote` is
the quote character of the region the reader is in. Without such a parenthesis all are inside.
-/
def untilClose : (quote : Option Char) → List Char → List Char × List Char
  | _, [] => ([], [])
  | some q, c :: rest =>
    let (inside, after) := untilClose (if c = q then none else some q) rest
    (c :: inside, after)
  | none, c :: rest =>
    if c = ')' then ([], rest)
    else
      let (inside, after) := untilClose (if c = '\'' ∨ c = '\x22' then some c else none) rest
      (c :: inside, after)

namespace NativeType

/-- Reads a native type. -/
def read (raw : String) : NativeType :=
  match (Text.trimChars raw.toList).span (· ≠ '(') with
  | (base, []) => ⟨upperWords (String.ofList base), [], ""⟩
  | (base, _ :: rest) =>
    let (inside, after) := untilClose none rest
    ⟨upperWords (String.ofList base), Text.splitList (String.ofList inside),
      upperWords (String.ofList after)⟩

/-- Base and suffix together. -/
def fullName (t : NativeType) : String :=
  if t.suffix = "" then t.base else t.base ++ " " ++ t.suffix

/-- The arguments as numbers, if each is one. -/
def numbers? (t : NativeType) : Option (List UInt32) :=
  t.arguments.mapM Text.number32?

end NativeType

/-- Length, precision and scale of a column. -/
structure Sizes where
  length : Option UInt32 := none
  precision : Option UInt32 := none
  scale : Option UInt32 := none
  deriving DecidableEq, Repr

/--
The sizes that numeric arguments give. Two are a precision and a scale. A single one is a length
for strings and binaries, a precision for decimals and temporal types, and nothing otherwise.
-/
def Sizes.ofNumbers (type : ColumnType) : List UInt32 → Sizes
  | [p, s] => { precision := some p, scale := some s }
  | [n] =>
    match type with
    | .string | .binary => { length := some n }
    | .decimal | .dateTime | .dateTimeTz | .time => { precision := some n }
    | _ => {}
  | _ => {}

/-- The sizes that a native type gives a column of this type. -/
def NativeType.sizes (t : NativeType) (type : ColumnType) : Sizes :=
  match t.numbers? with
  | some numbers => .ofNumbers type numbers
  | none => {}

end SchemaSync.Catalog
