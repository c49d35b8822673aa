/-
The lexer of source files. Blanks and plain comments separate lexemes; a
documentation comment stands for the attribute that it abbreviates. `lex?`
gives none for characters that begin no lexeme, such as an unterminated
string or comment.
-/
import SchemaSync.Source.Numeral
import SchemaSync.Text.Blank
namespace SchemaSync.Source

/-! ## Blanks and comments -/

/-- Whether a character separates lexemes: a blank, or a mark of writing direction. -/
def isSeparator (c : Char) : Bool :=
  Text.isBlank c || c.toNat = 0x200e || c.toNat = 0x200f

/-- The characters up to the end of the line, and the rest from the line feed on. -/
def lineEnd : List Char → List Char × List Char
  | [] => ([], [])
  | '\r' :: '\n' :: rest => ([], '\n' :: rest)
  | c :: rest =>
    if c = '\n' then ([], c :: rest)
    else
      let (line, rest) := lineEnd rest
      (c :: line, rest)

/-- The characters inside a block comment and the rest behind it; `depth` comments are open. -/
def blockEnd? (depth : Nat) : List Char → Option (List Char × List Char)
  | [] => none
  | [_] => none
  | c :: d :: rest =>
    if c = '/' ∧ d = '*' then
      (blockEnd? (depth + 1) rest).map fun (inside, rest) => (c :: d :: inside, rest)
    else if c = '*' ∧ d = '/' then
      if depth ≤ 1 then some ([], rest)
      else (blockEnd? (depth - 1) rest).map fun (inside, rest) => (c :: d :: inside, rest)
    else (blockEnd? depth (d :: rest)).map fun (inside, rest) => (c :: inside, rest)

/-- A comment at the front of the characters. -/
inductive Comment where
  | plain
  /-- A documentation comment; an inner one is about what it stands in. -/
  | documentation (inner : Bool) (text : List Char)

/-- The kind of a line comment, by the characters behind its two slashes. -/
def lineComment (text : List Char) : Comment :=
  match text with
  | '!' :: text => .documentation true text
  | '/' :: '/' :: _ => .plain
  | '/' :: text => .documentation false text
  | _ => .plain

/-- The kind of a block comment, by the characters behind its opening; `inside` are its own. -/
def blockComment (behind inside : List Char) : Comment :=
  match behind with
  | '!' :: _ => .documentation true inside.tail
  | '*' :: '*' :: _ => .plain
  | '*' :: '/' :: _ => .plain
  | '*' :: _ => .documentation false inside.tail
  | _ => .plain

/-- The comment at the front, if there is one that ends, and the rest behind it. -/
def comment? : List Char → Option (Comment × List Char)
  | '/' :: '/' :: rest =>
    let (text, rest) := lineEnd rest
    some (lineComment text, rest)
  | '/' :: '*' :: behind =>
    (blockEnd? 1 behind).map fun (inside, rest) => (blockComment behind inside, rest)
  | _ => none

/-- Whether each carriage return comes right in front of a line feed. -/
def returnsPaired : List Char → Bool
  | [] => true
  | c :: rest => (c ≠ '\r' || rest.head? = some '\n') && returnsPaired rest

/-- The lexemes of the attribute that a documentation comment stands for. -/
def documentationLexemes (inner : Bool) (text : List Char) : List Lexeme :=
  .leaf (.punct '#' false) :: (if inner then [.leaf (.punct '!' false)] else []) ++
    [.opening .bracket, .leaf (.ident "doc"), .leaf (.punct '=' false),
      .leaf (.literal (.string (String.ofList text))), .closing .bracket]

/-! ## Leaves -/

/-- The punctuation characters. -/
def isPunctuation (c : Char) : Bool :=
  c ∈ ['~', '!', '@', '#', '$', '%', '^', '&', '*', '-', '=', '+', '|', ';', ':', ',', '<', '.',
    '>', '/', '?', '\'']

/-- The punctuation character at the front, unless a comment begins there. -/
def punctuation? : List Char → Option (Char × List Char)
  | '/' :: '/' :: _ => none
  | '/' :: '*' :: _ => none
  | c :: rest => if isPunctuation c then some (c, rest) else none
  | [] => none

/-- The leaf of a punctuation character. The quote of a lifetime must have a name behind it. -/
def punctLeaf? (cs : List Char) : Option (Leaf × List Char) := do
  let (c, rest) ← punctuation? cs
  if c = '\'' then
    let (name, behind) ← ident? rest
    let raw := name.take 2 = ['r', '#']
    if behind.head? = some '\'' || (behind.head? = some '#' && !raw) then none
    else return (.punct c true, rest)
  else return (.punct c (punctuation? rest).isSome, rest)

/-- A string literal whose characters a scanner gives. -/
def stringLeaf (scanned : Option (List Char × List Char)) : Option (Leaf × List Char) :=
  scanned.map fun (text, rest) => (.literal (.string (String.ofList text)), dropSuffix rest)

/-- A literal of another kind, of which a scanner gives the rest behind it. -/
def otherLeaf (scanned : Option (α × List Char)) : Option (Leaf × List Char) :=
  scanned.map fun (_, rest) => (.literal .other, dropSuffix rest)

/-- The literal at the front, and the rest. -/
def literalLeaf? (cs : List Char) : Option (Leaf × List Char) :=
  let scanned :=
    match cs with
    | '\x22' :: rest => stringLeaf (quotation? .text rest)
    | 'r' :: rest => stringLeaf (rawQuotation? .text rest)
    | 'b' :: '\x22' :: rest => otherLeaf (quotation? .bytes rest)
    | 'b' :: 'r' :: rest => otherLeaf (rawQuotation? .bytes rest)
    | 'b' :: '\'' :: rest => otherLeaf (character? .bytes rest)
    | 'c' :: '\x22' :: rest => otherLeaf (quotation? .terminated rest)
    | 'c' :: 'r' :: rest => otherLeaf (rawQuotation? .terminated rest)
    | '\'' :: rest => otherLeaf (character? .text rest)
    | _ => none
  scanned.orElse fun _ => (number? cs).map fun (l, rest) => (.literal l, rest)

/-- What a literal with a letter in front begins with. None of these begins an identifier. -/
def literalOpenings : List String :=
  ["r\"", "r#\"", "r##", "b\"", "b'", "br\"", "br#", "c\"", "cr\"", "cr#"]

/-- The leaf of an identifier, and the rest. -/
def identLeaf? (cs : List Char) : Option (Leaf × List Char) :=
  if literalOpenings.any fun opening => opening.toList.isPrefixOf cs then none
  else (ident? cs).map fun (name, rest) => (.ident (String.ofList name), rest)

/-- The leaf at the front, and the rest. -/
def leaf? (cs : List Char) : Option (Leaf × List Char) :=
  (literalLeaf? cs).orElse fun _ => (punctLeaf? cs).orElse fun _ => identLeaf? cs

/-! ## Lexemes -/

/-- The delimiter that a character opens or closes. -/
def delimiter? : Char → Option Lexeme
  | '(' => some (.opening .paren)
  | '[' => some (.opening .bracket)
  | '\x7b' => some (.opening .brace)
  | ')' => some (.closing .paren)
  | ']' => some (.closing .bracket)
  | '\x7d' => some (.closing .brace)
  | _ => none

/-- What is written for a literal that could not be read. It stands for a literal itself. -/
def unreadable : List Char :=
  "(/*ERROR*/)".toList

/-- The lexemes at the front of nonempty characters, and the rest: none for a separator. -/
def lexeme? (cs : List Char) : Option (List Lexeme × List Char) :=
  match comment? cs with
  | some (.plain, rest) => some ([], rest)
  | some (.documentation inner text, rest) =>
    if returnsPaired text then some (documentationLexemes inner text, rest) else none
  | none =>
    match cs with
    | [] => none
    | c :: rest =>
      if isSeparator c then some ([], rest)
      else if unreadable.isPrefixOf cs then
        some ([.leaf (.literal .other)], cs.drop unreadable.length)
      else
        match delimiter? c with
        | some d => some ([d], rest)
        | none => (leaf? cs).map fun (l, rest) => ([.leaf l], rest)

/-- The lexemes of a file, if a number of steps take all of its characters. -/
def lexWithin? (steps : Nat) (cs : List Char) : Option (List Lexeme) :=
  match steps, cs with
  | _, [] => some []
  | 0, _ => none
  | steps + 1, cs => do
    let (lexemes, rest) ← lexeme? cs
    return lexemes ++ (← lexWithin? steps rest)

/-- The lexemes of a file. Each step must take a character, or the file is not lexed. -/
def lex? (cs : List Char) : Option (List Lexeme) :=
  lexWithin? cs.length cs

end SchemaSync.Source
