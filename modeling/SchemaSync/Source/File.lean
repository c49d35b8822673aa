/-
Source files as a whole. A byte order mark and a line that names the file's
interpreter may come first; attributes about the file and then its items make
up the rest.
-/
import SchemaSync.Source.Grammar.File
import SchemaSync.Source.Lexer
namespace SchemaSync.Source

/-- The characters without a byte order mark at their front. -/
def dropMark : List Char → List Char
  | '\ufeff' :: rest => rest
  | cs => cs

/-- The characters behind at most so many separators and plain comments at their front. -/
def dropSeparatorsWithin (steps : Nat) (cs : List Char) : List Char :=
  match steps, lexeme? cs with
  | steps + 1, some ([], rest) => dropSeparatorsWithin steps rest
  | _, _ => cs

/-- The characters behind the separators and plain comments at their front. -/
def dropSeparators (cs : List Char) : List Char :=
  dropSeparatorsWithin cs.length cs

/--
The characters without a line that names an interpreter. Such a line begins with `#!`, but so does
an attribute about the file, which goes on with a bracket.
-/
def dropInterpreter : List Char → List Char
  | '#' :: '!' :: rest =>
    if (dropSeparators rest).head? = some '[' then '#' :: '!' :: rest
    else rest.dropWhile (· ≠ '\n')
  | cs => cs

/-- The items of a source file, none for a text that is no source file. -/
def readFile? (text : String) : Option (List Item) := do
  let lexemes ← lex? (dropMark (dropInterpreter (dropMark text.toList)))
  Grammar.readItems? (← Token.trees? lexemes)

end SchemaSync.Source
