/-
Items of source files. Structs are kept with their fields and modules with
their items; of every other item only that it is there.
-/
import SchemaSync.Source.Attribute
import SchemaSync.Source.TypeExpr
namespace SchemaSync.Source

/-- A field with a name. -/
structure Field where
  attributes : List Attribute
  name : String
  type : TypeExpr
  deriving Repr

/-- A struct. One whose fields have no names, or that has no body, has no `fields` here. -/
structure Struct where
  attributes : List Attribute
  name : String
  fields : List Field
  deriving Repr

/-- An item of a file. -/
inductive Item where
  | struct (s : Struct)
  /-- A module whose items stand in the file itself. -/
  | submodule (name : String) (items : List Item)
  | other
  deriving Repr

mutual

/-- The structs of an item in a module, in order, each with the module that it stands in. -/
def Item.structs (module : List String) : Item → List (List String × Struct)
  | .struct s => [(module, s)]
  | .submodule name items => structs (module ++ [name]) items
  | .other => []

/-- The structs of the items in a module, at any depth and in order, each with its own module. -/
def structs (module : List String) : List Item → List (List String × Struct)
  | [] => []
  | item :: items => item.structs module ++ structs module items

end

end SchemaSync.Source
