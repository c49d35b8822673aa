/-
Changes of a schema: what they are, the statements that carry them out, and
the lines that describe them to a reader.
-/
import SchemaSync.Ddl.Statement
namespace SchemaSync

/-- A change of a schema. All but the first two are made to a table that stays. -/
inductive Change where
  | addTable (t : Table)
  | dropTable (name : String)
  | addColumn (c : Column)
  | dropColumn (name : String)
  /-- Turns the column `old` into `new`, which has the same name. -/
  | modifyColumn (old new : Column)
  | addForeignKey (fk : ForeignKey)
  | dropForeignKey (fk : ForeignKey)
  deriving DecidableEq, Repr

/-- The changes that concern one table. -/
structure TableDiff where
  table : String
  changes : List Change
  deriving DecidableEq, Repr

/-- A column in few words: its type, its length or else its precision, and whether it takes NULL. -/
def Column.describe (c : Column) : String :=
  c.type.key ++
    (match c.length, c.precision, c.scale with
      | some length, _, _ => "(" ++ Text.decimal length ++ ")"
      | none, some precision, some scale =>
        "(" ++ Text.decimal precision ++ "," ++ Text.decimal scale ++ ")"
      | none, some precision, none => "(" ++ Text.decimal precision ++ ")"
      | none, none, _ => "") ++
    if c.nullable then " (nullable)" else ""

/-- A foreign key in few words. -/
def ForeignKey.describe (fk : ForeignKey) : String :=
  "FOREIGN KEY (" ++ fk.column ++ ") -> " ++ fk.referencesTable ++ "." ++ fk.referencesColumn

namespace Change

/-- The statement that carries out a change of the given table. -/
def statement (table : String) : Change → Statement
  | addTable t => .create t
  | dropTable name => .dropTable name
  | addColumn c => .addColumn table c
  | dropColumn name => .dropColumn table name
  | modifyColumn old new => .modifyColumn table old new
  | addForeignKey fk => .addForeignKey table fk
  | dropForeignKey fk => .dropForeignKey table fk

/-- The line that describes a change: `+` adds, `-` drops, `~` modifies. -/
def describe : Change → String
  | addTable t => "+ table " ++ t.name
  | dropTable name => "- table " ++ name
  | addColumn c => "+ " ++ c.name ++ ": " ++ c.describe
  | dropColumn name => "- " ++ name
  | modifyColumn old new => "~ " ++ new.name ++ ": " ++ old.describe ++ " -> " ++ new.describe
  | addForeignKey fk => "+ " ++ fk.describe
  | dropForeignKey fk => "- " ++ fk.describe

end Change

end SchemaSync
