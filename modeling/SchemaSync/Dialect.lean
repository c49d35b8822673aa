/-
The database engines whose SQL is written and whose catalogs are read.
-/
import SchemaSync.Text.Quoted
namespace SchemaSync

/-- A database engine. MariaDB counts as MySQL. -/
inductive Dialect where
  | mySql
  | postgres
  deriving DecidableEq, Repr

namespace Dialect

/-- The name of a dialect. -/
def name : Dialect → String
  | mySql => "mysql"
  | postgres => "postgres"

/-- The character that identifiers are quoted with. -/
def identifierQuote : Dialect → Char
  | mySql => '\x60'
  | postgres => '\x22'

/-- A table, column or constraint name as an identifier. -/
def wrap (d : Dialect) (name : String) : String :=
  Text.quoted d.identifierQuote name

/-- The keywords that make the database generate the values of a column. -/
def autoIncrementKeywords : Dialect → String
  | mySql => "AUTO_INCREMENT"
  | postgres => "GENERATED BY DEFAULT AS IDENTITY"

end Dialect

end SchemaSync
