/-
What the attributes of a struct say: whether it is an entity, and the name of
its table. The marker of an entity is looked for among the tokens of the
attributes, so that a struct whose attributes have a fault counts as an entity
all the same.
-/
import SchemaSync.Entity.Clause
import SchemaSync.Text.Blank
namespace SchemaSync.Entity

open Source

/-- Whether the list of an attribute has the word `table` among its tokens, not inside groups. -/
def namesTable (a : Attribute) : Bool :=
  match a.input with
  | .list tokens =>
    tokens.any fun t =>
      match t with
      | .ident name => name = "table"
      | _ => false
  | _ => false

/-- Whether the attributes mark a struct as an entity. -/
def hasTableMarker (attributes : List Attribute) : Bool :=
  attributes.any fun a => isMarker a && namesTable a

/-- The table name that a clause gives. -/
def tableNameClause (c : Clause) : Except Fault (Found String) :=
  if c.path.isName "table" then do
    let (name, rest) ← c.string
    if Text.trim name = "" then throw .emptyTableName else return (name, rest)
  else .error (c.unsupported .entity)

/-- The table name that the attributes give, if they give one; of several, the last one counts. -/
def tableName (attributes : List Attribute) : Except Fault (Option String) :=
  foldAttributes tableNameClause (fun _ name => .ok (some name)) none attributes

end SchemaSync.Entity
