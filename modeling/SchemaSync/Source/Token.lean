/-
Tokens of source files, and token trees: a file is lexed into a flat list of
lexemes, in which delimiters stand open and closed, and these are then put
into groups (`Token.trees?`).
-/
namespace SchemaSync.Source

/-- A kind of brackets. -/
inductive Delimiter where
  | paren
  | bracket
  | brace
  deriving DecidableEq, Repr

/-- A literal, with what later stages need of its value. -/
inductive Literal where
  | string (value : String)
  /-- An integer of any base: its decimal digits, and its suffix. -/
  | integer (digits suffix : String)
  /-- A floating point number as written, without underscores, and its suffix. -/
  | float (digits suffix : String)
  /-- A character, a byte, or a string of bytes. -/
  | other
  deriving DecidableEq, Repr

/-- A token without its place in a group. -/
inductive Leaf where
  /-- An identifier or keyword; a raw one keeps its `r#`. -/
  | ident (name : String)
  /-- A punctuation character; `joint` when another one follows at once. -/
  | punct (c : Char) (joint : Bool)
  | literal (l : Literal)
  deriving DecidableEq, Repr

/-- What the lexer finds: a leaf, or one end of a group. -/
inductive Lexeme where
  | leaf (l : Leaf)
  | opening (d : Delimiter)
  | closing (d : Delimiter)
  deriving DecidableEq, Repr

/-- A token tree. -/
inductive Token where
  | leaf (l : Leaf)
  | group (d : Delimiter) (tokens : List Token)
  deriving Repr

namespace Token

/-- The identifier token of a name. -/
@[match_pattern] def ident (name : String) : Token :=
  leaf (.ident name)

/-- The token of a punctuation character. -/
@[match_pattern] def punct (c : Char) (joint : Bool) : Token :=
  leaf (.punct c joint)

/-- The token of a literal. -/
@[match_pattern] def literal (l : Literal) : Token :=
  leaf (.literal l)

/--
The trees of a list of lexemes, none when delimiters do not match. `outer` holds the groups that
are open, the innermost first, each with the tokens in front of it; `inner` holds the tokens of
the innermost group so far. Both kinds of token lists are in reverse order.
-/
def treesFrom (outer : List (Delimiter × List Token)) (inner : List Token) :
    List Lexeme → Option (List Token)
  | [] => if outer.isEmpty then some inner.reverse else none
  | .leaf l :: rest => treesFrom outer (leaf l :: inner) rest
  | .opening d :: rest => treesFrom ((d, inner) :: outer) [] rest
  | .closing d :: rest =>
    match outer with
    | (e, before) :: outer =>
      if d = e then treesFrom outer (group e inner.reverse :: before) rest else none
    | [] => none

/-- The trees of a list of lexemes, none when delimiters do not match. -/
def trees? (lexemes : List Lexeme) : Option (List Token) :=
  treesFrom [] [] lexemes

end Token

mutual

/-- The number of tokens in a tree, delimiters included. -/
def Token.count : Token → Nat
  | .leaf _ => 1
  | .group _ tokens => 2 + tokenCount tokens

/-- The number of tokens in a list of trees. -/
def tokenCount : List Token → Nat
  | [] => 0
  | t :: ts => t.count + tokenCount ts

end

end SchemaSync.Source
