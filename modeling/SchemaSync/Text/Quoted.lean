/-
Quoted SQL text. Between two quote characters, the quote character itself is
written twice and every other character once; `unquote` takes one such level
off again.
-/
import SchemaSync.Text.Blank
namespace SchemaSync.Text

/-- The characters of a text with every `q` written twice. -/
def doubled (q : Char) : List Char → List Char
  | [] => []
  | c :: rest => if c = q then q :: q :: doubled q rest else c :: doubled q rest

/-- A text between two `q`, each `q` inside it written twice. -/
def quoted (q : Char) (s : String) : String :=
  String.ofList (q :: (doubled q s.toList ++ [q]))

/-- A SQL string literal: the text in single quotes. -/
def literal (s : String) : String :=
  quoted '\'' s

/-- A standard SQL identifier: the name in double quotes. -/
def identifier (s : String) : String :=
  quoted '\x22' s

/-- Reads each pair `qq` as one `q`, from the left; a `q` without a partner stays. -/
def undoubled (q : Char) : List Char → List Char
  | [] => []
  | [c] => [c]
  | c :: d :: rest =>
    if c = q ∧ d = q then q :: undoubled q rest else c :: undoubled q (d :: rest)

/-- What stands between two `q` that open and close the characters, if they do. -/
def between? (q : Char) : List Char → Option (List Char)
  | [] => none
  | c :: rest =>
    match rest.getLast? with
    | some d => if c = q ∧ d = q then some rest.dropLast else none
    | none => none

/-- The quote characters that `unquote` takes off, in the order it tries them. -/
def quoteChars : List Char :=
  ['\x22', '\x60', '\'']

/-- One level of quoting taken off; characters that are not quoted stay as they are. -/
def unquoteChars (cs : List Char) : List Char :=
  match quoteChars.findSome? (fun q => (between? q cs).map (undoubled q)) with
  | some inner => inner
  | none => cs

/-- A text trimmed, with one level of quoting taken off if it has one. -/
def unquote (s : String) : String :=
  String.ofList (unquoteChars (trimChars s.toList))

end SchemaSync.Text
