/-
The grammar of whole files: the levels of the grammar put on top of each
other, as many as a file has tokens.
-/
import SchemaSync.Source.Grammar.Item
namespace SchemaSync.Source.Grammar

/-- The grammar whose parts hold parts that this one reads. -/
def deeper (g : Grammar) : Grammar where
  type := g.readType
  bound := g.readBound
  expression := g.readExpression
  unary := g.readUnary
  operand := g.readOperand
  leading := g.readLeading
  pattern := g.readPattern
  statements := g.readStatements
  item := g.readItem

/-- The grammar for parts that hold one another so many times. -/
def ofDepth : Nat → Grammar
  | 0 => empty
  | depth + 1 => (ofDepth depth).deeper

/-- The items of a file, behind attributes about the file. -/
def items (g : Grammar) : Reading (List Item) := do
  g.innerAttributes
  allParts g.attributedItem

/--
All of the tokens as the items of a file. A level down takes a token, or the first level of a
block, whose braces are two.
-/
def readItems? (tokens : List Token) : Option (List Item) :=
  match (ofDepth (tokenCount tokens + 2)).items tokens with
  | some (items, []) => some items
  | _ => none

end SchemaSync.Source.Grammar
