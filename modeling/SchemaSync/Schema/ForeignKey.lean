/-
Foreign keys on a single column, and what becomes of the referencing rows
when a referenced row is deleted.
-/
import SchemaSync.Text.Blank
import SchemaSync.Text.CaseMap
import SchemaSync.Schema.Violation
namespace SchemaSync

/-- What happens to the referencing rows when a referenced row is deleted. -/
inductive DeleteAction where
  | cascade
  | setNull
  | setDefault
  | restrict
  | noAction
  deriving DecidableEq, Repr

namespace DeleteAction

/-- Every action. -/
def all : List DeleteAction :=
  [cascade, setNull, setDefault, restrict, noAction]

/-- The SQL keywords of an action. -/
def sql : DeleteAction → String
  | cascade => "CASCADE"
  | setNull => "SET NULL"
  | setDefault => "SET DEFAULT"
  | restrict => "RESTRICT"
  | noAction => "NO ACTION"

/-- The keywords in a text: upper case, underscores read as blanks, one space between words. -/
def keywords (given : String) : String :=
  Text.singleSpaced
    (String.ofList ((Text.upper (Text.trim given)).toList.map fun c => if c = '_' then ' ' else c))

/-- The action a text names, in any case, with blanks or underscores between its words. -/
def read (given : String) : Except Violation DeleteAction :=
  match all.find? fun action => action.sql == keywords given with
  | some action => .ok action
  | none => .error (.unknownAction given)

end DeleteAction

/-- A foreign key constraint on one column. -/
structure ForeignKey where
  /-- The constraint name. -/
  name : String
  /-- The column of the owning table. -/
  column : String
  referencesTable : String
  referencesColumn : String
  /-- The delete action; without one, the engine's own applies. -/
  onDelete : Option DeleteAction := none
  deriving DecidableEq, Repr

/-- Whether two foreign keys agree in all but the constraint name, which a database may choose. -/
def ForeignKey.sameTarget (a b : ForeignKey) : Bool :=
  a.column == b.column && a.referencesTable == b.referencesTable &&
    a.referencesColumn == b.referencesColumn && a.onDelete == b.onDelete

end SchemaSync
