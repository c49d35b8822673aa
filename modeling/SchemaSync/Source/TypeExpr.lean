/-
Types as source files write them, kept only as far as a column type can be
read off them: the name that a path ends with and its type arguments,
references and slices.
-/
namespace SchemaSync.Source

/-- What stands around the name that a path ends with. -/
inductive PathForm where
  /-- Nothing: the name is the whole path. -/
  | name
  /-- Only arguments in angle brackets behind it. -/
  | applied
  /-- Other names, or colons, in front of it. -/
  | long
  /-- A type in angle brackets in front of it, of which it names an item. -/
  | qualified
  deriving DecidableEq, Repr

/-- A type. -/
inductive TypeExpr where
  /-- A path that ends with this name; `arguments` are the types among its arguments. -/
  | named (name : String) (form : PathForm) (arguments : List TypeExpr)
  | reference (target : TypeExpr)
  | slice (element : TypeExpr)
  /-- A single trait in the place of a type, with more around it than a path. -/
  | bareTrait
  /-- Any other type. -/
  | other
  deriving Repr

end SchemaSync.Source
