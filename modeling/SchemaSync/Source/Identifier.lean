/-
Identifiers of source files: a letter or an underscore, then letters, digits
and underscores, by the Unicode properties XID_Start and XID_Continue.
-/
import SchemaSync.Text.CaseMap
import SchemaSync.Text.IdentTable
namespace SchemaSync.Source

/-- Whether a character may begin an identifier. -/
def startsIdent (c : Char) : Bool :=
  c = '_' || c.isAlpha || Text.inRanges c.toNat Text.IdentTable.start

/-- Whether a character may stand inside an identifier. -/
def continuesIdent (c : Char) : Bool :=
  c = '_' || c.isAlphanum || Text.inRanges c.toNat Text.IdentTable.rest

/-- The identifier at the front of the characters, and the rest. -/
def plainIdent? : List Char → Option (List Char × List Char)
  | [] => none
  | c :: rest =>
    if startsIdent c then
      some (c :: rest.takeWhile continuesIdent, rest.dropWhile continuesIdent)
    else none

/-- The names that cannot be raw identifiers. -/
def neverRaw : List String :=
  ["_", "super", "self", "Self", "crate"]

/-- The identifier at the front, raw or not, and the rest. -/
def ident? : List Char → Option (List Char × List Char)
  | 'r' :: '#' :: cs =>
    match plainIdent? cs with
    | some (name, rest) =>
      if String.ofList name ∈ neverRaw then none else some ('r' :: '#' :: name, rest)
    | none => none
  | cs => plainIdent? cs

/-- The characters without an identifier at their front: a literal may carry one as its suffix. -/
def dropSuffix (cs : List Char) : List Char :=
  match plainIdent? cs with
  | some (_, rest) => rest
  | none => cs

/-- The names with a meaning of their own, which are no identifiers unless raw. -/
def keywords : List String :=
  ["_", "abstract", "as", "async", "await", "become", "box", "break", "const", "continue", "crate",
    "do", "dyn", "else", "enum", "extern", "false", "final", "fn", "for", "if", "impl", "in", "let",
    "loop", "macro", "match", "mod", "move", "mut", "override", "priv", "pub", "ref", "return",
    "Self", "self", "static", "struct", "super", "trait", "true", "try", "type", "typeof", "unsafe",
    "unsized", "use", "virtual", "where", "while", "yield"]

end SchemaSync.Source
