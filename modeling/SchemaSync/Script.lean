/-
The script that creates a schema. It is a list of blocks first
(`scriptBlocks`): statements, and comments on the entities that were left
out of the schema; then the blocks are written with an empty line between
them.
-/
import SchemaSync.Ddl.Statement
import SchemaSync.Schema.Basic
namespace SchemaSync

/-- Where a script declares foreign keys. -/
inductive ForeignKeyPlacement where
  /-- Among the clauses of each CREATE TABLE. -/
  | inTable
  /-- In statements of their own, after all tables. -/
  | deferred
  deriving DecidableEq, Repr

/-- A block of a script. -/
inductive Block where
  | statement (s : Statement)
  /-- An entity that is not part of the script, and why. -/
  | omission (entity reason : String)
  deriving DecidableEq, Repr

/-- The statements that create a table, by the placement of foreign keys: first and last ones. -/
def tableStatements (placement : ForeignKeyPlacement) (t : Table) :
    List Statement × List Statement :=
  match placement with
  | .inTable => ([.create t], [])
  | .deferred => ([.createTable t.name t.columns []], t.foreignKeys.map (.addForeignKey t.name))

/--
The blocks of a script: the tables that have columns, the foreign keys put off, and the entities
that are left out with their reasons.
-/
def scriptBlocks (placement : ForeignKeyPlacement) (s : Schema) (omitted : List (String × String)) :
    List Block :=
  let parts := (s.tables.filter fun t => !t.isEmpty).map (tableStatements placement)
  (parts.flatMap (·.1)).map .statement ++ (parts.flatMap (·.2)).map .statement ++
    omitted.map fun (entity, reason) => .omission entity reason

/-- The text of a block. The reason of an omission is put on one line. -/
def Block.text (d : Dialect) : Block → String
  | statement s => s.sql d
  | omission entity reason =>
    "-- Error generating SQL for " ++ entity ++ ": " ++ Text.singleSpaced reason

/-- The text of a script. -/
def script (d : Dialect) (placement : ForeignKeyPlacement) (s : Schema)
    (omitted : List (String × String)) : String :=
  "\n\n".intercalate ((scriptBlocks placement s omitted).map (Block.text d))

end SchemaSync
