/-
Clauses: the parts of an attribute's list, with commas between them. A clause
is a path and what follows it: nothing for a flag, an equals sign and a value,
or a list of further clauses in parentheses.

A list of clauses is read into a state (`foldClauses`): a reader tells what a
clause says, and that is then added to the state. Both may find a fault, and
the first one in the order of the text counts.
-/
import SchemaSync.Entity.Fault
import SchemaSync.Schema.Column
import SchemaSync.Source.Attribute
import SchemaSync.Source.Reading
import SchemaSync.Text.Number
namespace SchemaSync.Entity

open Source

/-- What a reader finds, and the tokens behind it. -/
abbrev Found (α : Type) := α × List Token

/-- The reading of what a function makes of a value. -/
def giving (f : α → β) (reading : Except Fault (Found α)) : Except Fault (Found β) :=
  reading.map fun (a, rest) => (f a, rest)

/-- A clause of a list. -/
structure Clause where
  path : Path
  /-- What follows the path, up to the comma. -/
  rest : List Token
  /-- Whether the list ends with the clause, no comma being behind it. -/
  last : Bool

/-! ## The clauses of a list -/

/-- Whether a token is a comma. -/
def isComma : Token → Bool
  | .punct c _ => c = ','
  | _ => false

/-- Marks the last part. A part without tokens at the very end only shows that a comma came last. -/
def markLast : List (List Token) → List (List Token × Bool)
  | [] => []
  | [part] => [(part, true)]
  | [part, []] => [(part, false)]
  | part :: rest => (part, false) :: markLast rest

/-- The parts of a list of tokens that commas separate, each with whether the list ends with it. -/
def parts (tokens : List Token) : List (List Token × Bool) :=
  markLast (tokens.splitOnP isComma)

/-- The names that continue a path, each behind two colons, and the rest. -/
def moreNames (last : Bool) : List Token → Except Fault (Found (List String))
  | .punct ':' true :: .punct ':' _ :: rest =>
    match rest with
    | .ident name :: rest => giving (name :: ·) (moreNames last rest)
    | _ => .error (.expected .name (rest.isEmpty && last))
  | tokens => .ok ([], tokens)

namespace Clause

/-- The clause that a part of a list is. -/
def ofPart (part : List Token) (last : Bool) : Except Fault Clause :=
  let rooted := atMark "::" part
  match if rooted then part.drop 2 else part with
  | .ident name :: rest => do
    let (names, rest) ← moreNames last rest
    return ⟨⟨rooted, name :: names⟩, rest, last⟩
  | [] => .error (if last then .noClause else .tokenForName)
  | tokens => .error (if atLiteral tokens then .literalForName else .tokenForName)

/-! ## What follows the path -/

/-- The fault of a clause that goes on with these tokens where something else is needed. -/
def expected (c : Clause) (what : Expected) (tokens : List Token) : Fault :=
  .expected what (tokens.isEmpty && c.last)

/-- What follows the equals sign. -/
def value (c : Clause) : Except Fault (List Token) :=
  match c.rest with
  | .punct '=' _ :: rest => .ok rest
  | _ => .error .expectedEquals

/-- A string as value. -/
def string (c : Clause) : Except Fault (Found String) := do
  match ← c.value with
  | .literal (.string s) :: rest => return (s, rest)
  | tokens => throw (c.expected .stringLiteral tokens)

/-- A 32-bit number as value. -/
def number (c : Clause) : Except Fault (Found UInt32) := do
  match ← c.value with
  | .literal (.integer digits _) :: rest =>
    match Text.digits32? digits.toList with
    | some n => return (n, rest)
    | none => throw .numberTooLarge
  | .punct '-' _ :: .literal (.integer _ _) :: _ => throw .invalidDigit
  | tokens => throw (c.expected .integerLiteral tokens)

/-- A flag: set when it stands alone, or a truth value. -/
def flag (c : Clause) : Except Fault (Found Bool) :=
  match c.rest with
  | .punct '=' _ :: .ident "true" :: rest => .ok (true, rest)
  | .punct '=' _ :: .ident "false" :: rest => .ok (false, rest)
  | .punct '=' _ :: tokens => .error (c.expected .booleanLiteral tokens)
  | tokens => .ok (true, tokens)

/-- A string or truth value as a default: it takes no sign. -/
def unsigned (sign : String) (v : DefaultValue) (rest : List Token) :
    Except Fault (Found DefaultValue) :=
  if sign = "" then .ok (v, rest) else .error .invalidDefault

/-- The default value that a literal behind a sign stands for. The literal may have a sign too. -/
def defaultLiteral (c : Clause) (sign : String) (tokens : List Token) :
    Except Fault (Found DefaultValue) :=
  match tokens with
  | .literal (.integer digits _) :: rest => .ok (.number (sign ++ digits), rest)
  | .literal (.float digits _) :: rest => .ok (.number (sign ++ digits), rest)
  | .literal (.string s) :: rest => unsigned sign (.text s) rest
  | .literal .other :: _ => .error .invalidDefault
  | .punct '-' _ :: .literal (.integer digits _) :: rest =>
    .ok (.number (sign ++ "-" ++ digits), rest)
  | .punct '-' _ :: .literal (.float digits _) :: rest =>
    .ok (.number (sign ++ "-" ++ digits), rest)
  | .ident "true" :: rest => unsigned sign (.bool true) rest
  | .ident "false" :: rest => unsigned sign (.bool false) rest
  | tokens => .error (c.expected .literal tokens)

/-- A default value as value. -/
def default (c : Clause) : Except Fault (Found DefaultValue) := do
  match ← c.value with
  | .punct '-' _ :: tokens => c.defaultLiteral "-" tokens
  | tokens => c.defaultLiteral "" tokens

/-- The tokens of a list in parentheses. -/
def list (c : Clause) : Except Fault (Found (List Token)) :=
  match c.rest with
  | .group .paren inside :: rest => .ok (inside, rest)
  | tokens => .error (c.expected .parentheses tokens)

/-- The fault of a clause that its list does not know. -/
def unsupported (c : Clause) (list : ClauseList) : Fault :=
  .unsupported list c.path.text

end Clause

/-! ## Reading a list -/

/-- Adds what one part of a list says to a state. Nothing may be left of the part then. -/
def addPart (read : Clause → Except Fault (Found α)) (add : σ → α → Except Fault σ) (s : σ)
    (part : List Token × Bool) : Except Fault σ := do
  let clause ← Clause.ofPart part.1 part.2
  let (a, rest) ← read clause
  let s ← add s a
  if rest.isEmpty then return s else throw .expectedComma

/-- Adds what the clauses of a list say to a state, one after the other. -/
def foldClauses (read : Clause → Except Fault (Found α)) (add : σ → α → Except Fault σ) (s : σ)
    (tokens : List Token) : Except Fault σ :=
  (parts tokens).foldlM (addPart read add) s

/-- A value for a slot that may be filled once. -/
def once (key : String) (slot : Option α) (value : α) : Except Fault (Option α) :=
  if slot.isSome then .error (.repeated key) else .ok (some value)

/-! ## Attributes -/

/-- Whether an attribute is one of those that describe entities. -/
def isMarker (a : Attribute) : Bool :=
  a.path.isName "orm"

/-- The tokens of an attribute's list. -/
def listTokens (a : Attribute) : Except Fault (List Token) :=
  match a.input with
  | .list tokens => .ok tokens
  | .absent => .error .noList
  | .value => .error .valueForList

/-- Adds what one attribute says to a state; its list may be empty. -/
def addAttribute (read : Clause → Except Fault (Found α)) (add : σ → α → Except Fault σ) (s : σ)
    (a : Attribute) : Except Fault σ := do
  let tokens ← listTokens a
  if tokens.isEmpty then return s else foldClauses read add s tokens

/-- Adds what those of the attributes say to a state that describe entities. -/
def foldAttributes (read : Clause → Except Fault (Found α)) (add : σ → α → Except Fault σ) (s : σ)
    (attributes : List Attribute) : Except Fault σ :=
  (attributes.filter isMarker).foldlM (addAttribute read add) s

end SchemaSync.Entity
