/-
What can be wrong with the attributes of an entity, each fault with the text
that reports it.
-/
import SchemaSync.Schema.Violation
namespace SchemaSync.Entity

/-- What an attribute may need next. -/
inductive Expected where
  | stringLiteral
  | integerLiteral
  | booleanLiteral
  | literal
  | name
  | parentheses
  deriving DecidableEq, Repr

/-- The text for what is needed. -/
def Expected.text : Expected → String
  | stringLiteral => "string literal"
  | integerLiteral => "integer literal"
  | booleanLiteral => "boolean literal"
  | literal => "literal"
  | name => "ident"
  | parentheses => "parentheses"

/-- The lists of clauses that an attribute is made of, by whose options they give. -/
inductive ClauseList where
  | entity
  | field
  | column
  | manyToOne
  | oneToMany
  | manyToMany
  | joinColumn
  | joinTable
  deriving DecidableEq, Repr

/-- What a clause of a list is called. -/
def ClauseList.clauseName : ClauseList → String
  | entity => "entity attribute"
  | field => "field attribute"
  | column => "column option"
  | manyToOne => "many_to_one option"
  | oneToMany => "one_to_many option"
  | manyToMany => "many_to_many option"
  | joinColumn => "join column option"
  | joinTable => "join_table option"

/-- What is wrong with an attribute. -/
inductive Fault where
  /-- Something else stands where this is needed; `ended` when the list is over instead. -/
  | expected (what : Expected) (ended : Bool)
  | expectedEquals
  | expectedComma
  /-- A list within a list has no clause. -/
  | noClause
  /-- A clause begins with a literal. -/
  | literalForName
  /-- A clause begins with anything else that is no name. -/
  | tokenForName
  /-- The attribute has no list. -/
  | noList
  /-- The attribute has a value instead of a list. -/
  | valueForList
  | invalidDigit
  | numberTooLarge
  /-- A default value is a literal of a kind that is none. -/
  | invalidDefault
  | invalidAction (v : Violation)
  | emptyTableName
  /-- The entity is marked but gives no table name. -/
  | noTableName
  | unsupported (list : ClauseList) (key : String)
  | repeated (key : String)
  /-- The clause lacks an option that it must have. -/
  | missing (clause key : String)
  deriving DecidableEq, Repr

/-- The text that reports a fault. -/
def Fault.message : Fault → String
  | expected what true => "unexpected end of input, expected " ++ what.text
  | expected what false => "expected " ++ what.text
  | expectedEquals => "expected `=`"
  | expectedComma => "expected `,`"
  | noClause => "unexpected end of input, expected nested attribute"
  | literalForName => "unexpected literal in nested attribute, expected ident"
  | tokenForName => "unexpected token in nested attribute, expected ident"
  | noList => "expected attribute arguments in parentheses: #[orm(...)]"
  | valueForList => "expected parentheses: #[orm(...)]"
  | invalidDigit => "invalid digit found in string"
  | numberTooLarge => "number too large to fit in target type"
  | invalidDefault => "default must be a string, number or boolean literal"
  | invalidAction v => v.message
  | emptyTableName => "table name cannot be empty"
  | noTableName => "table marker needs a name: #[orm(table = \"...\")]"
  | unsupported list key => "unsupported " ++ list.clauseName ++ " `" ++ key ++ "`"
  | repeated key => "`" ++ key ++ "` is given more than once"
  | missing clause key => "`" ++ clause ++ "` requires `" ++ key ++ "`"

end SchemaSync.Entity
