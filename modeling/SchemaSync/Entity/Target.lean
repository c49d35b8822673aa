/-
Targets of relationships. A target is a path as it is written in an
attribute; it is looked up among all declarations of a tree, entities or not,
and never settled by their order.
-/
import SchemaSync.Entity.Declaration
import SchemaSync.Text.Search
namespace SchemaSync.Entity

/-- The characters behind the last two colons, none when there are no two colons. -/
def behindColons? : List Char → Option (List Char)
  | [] => none
  | c :: rest =>
    match behindColons? rest with
    | some last => some last
    | none => if c = ':' ∧ rest.head? = some ':' then some rest.tail else none

/-- The name that a path ends with. -/
def lastName (path : String) : String :=
  String.ofList ((behindColons? path.toList).getD path.toList)

/-- The characters without the words `crate::` in front. -/
def dropRoot : List Char → List Char
  | 'c' :: 'r' :: 'a' :: 't' :: 'e' :: ':' :: ':' :: rest => dropRoot rest
  | cs => cs

/-- The path that a target names: without blanks around it, and from the root of the tree on. -/
def targetPath (target : String) : String :=
  String.ofList (dropRoot (Text.trimChars target.toList))

/-- The only element of a list that has no other. -/
def only? : List α → Option α
  | [a] => some a
  | _ => none

/-- The declarations that a name may mean: entities hide other structs of the same name. -/
def candidates (declarations : List Declaration) (name : String) : List Declaration :=
  let named := declarations.filter fun d => d.name == name
  let entities := named.filter (·.isEntity)
  if entities.isEmpty then named else entities

/--
The declaration that a path means: the one with this identifier; or else the only one of the name
that the path ends with; or else, of several, the only one whose identifier ends with the path.
-/
def lookUp (declarations : List Declaration) (path : String) : Option Declaration :=
  match declarations.reverse.find? fun d => d.id == path with
  | some d => some d
  | none =>
    let found := candidates declarations (lastName path)
    match only? found with
    | some d => some d
    | none => only? (found.filter fun d => Text.endsIn d.id ("::" ++ path))

/-- The declaration that a target means. -/
def resolve (declarations : List Declaration) (target : String) : Option Declaration :=
  lookUp declarations (targetPath target)

/-- The table name of an entity. -/
def Declaration.tableName (d : Declaration) : Except Error String :=
  match Entity.tableName d.item.attributes with
  | .ok (some name) => .ok name
  | .ok none => .error (.invalidAttribute d.id .noTableName)
  | .error fault => .error (.invalidAttribute d.id fault)

/-- The table of a target that an entity names. -/
def targetTable (declarations : List Declaration) (entity target : String) : Except Error String :=
  match resolve declarations target with
  | none => .error (.unknownTarget entity target)
  | some d => if d.isEntity then d.tableName else .error (.missingTableMarker d.id)

end SchemaSync.Entity
