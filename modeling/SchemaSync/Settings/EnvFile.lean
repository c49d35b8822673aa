/-
Environment files: a line `KEY=value` each, with an optional `export` in
front, comments from `#` on, and values that may be quoted in parts. A quoted
part may go on over a line end; a backslash takes the meaning off the
character behind it; a dollar sign and a name, perhaps in braces, stand for the
value given to that name before.

A file is cut into logical lines first (`logicalLines`), and each is read as
an assignment (`readLine`). Both steps look at quotes: the first so as not to
cut inside them, the second so as to take them off.
-/
import SchemaSync.Directory.Listing
import SchemaSync.Settings.Basic
namespace SchemaSync.EnvFile

/-! ## Lines -/

/-- Where a reader of a line stands. -/
inductive Position where
  /-- Right behind a blank. -/
  | blank
  /-- Behind any other character, outside quotes. -/
  | plain
  /-- Right behind a backslash outside quotes. -/
  | escaped
  /-- Inside quotes of this kind. -/
  | quotedBy (quote : Char)
  /-- Right behind a backslash inside quotes of this kind. -/
  | escapedIn (quote : Char)
  deriving DecidableEq, Repr

/-- Whether a character opens quotes. -/
def isQuote (c : Char) : Bool :=
  c = '\'' || c = '\x22'

/-- The position behind a character that a blank may precede. -/
def Position.outside (c : Char) : Position :=
  if c = '\\' then escaped else if isQuote c then quotedBy c else plain

/-- The position behind one more character. A second blank in a row counts as plain. -/
def Position.next (c : Char) : Position → Position
  | blank => outside c
  | plain => if Text.isBlank c ∧ c ≠ '\n' ∧ c ≠ '\r' then blank else outside c
  | escaped => plain
  | quotedBy q => if c = '\\' then escapedIn q else if c = q then plain else quotedBy q
  | escapedIn q => quotedBy q

/-- Cuts a line at a `#` right behind a blank, and gives the position at the end without one. -/
def cutComment : Position → List Char → List Char × Option Position
  | p, [] => ([], some p)
  | p, c :: rest =>
    if p = .blank ∧ c = '#' then ([], none)
    else let (kept, final) := cutComment (p.next c) rest; (c :: kept, final)

/-- The characters without the line feed, or carriage return and line feed, at the end. -/
def dropLineEnd (cs : List Char) : List Char :=
  match cs.reverse with
  | '\n' :: '\r' :: rest => rest.reverse
  | '\n' :: rest => rest.reverse
  | _ => cs

/-- The physical lines of a file, each with its line feed. -/
def physicalLines : List Char → List (List Char)
  | [] => []
  | c :: rest =>
    if c = '\n' then [c] :: physicalLines rest
    else match physicalLines rest with
      | [] => [[c]]
      | line :: lines => (c :: line) :: lines

/--
The logical lines. `open?` holds the beginning of a line that stopped inside quotes, and the
position there. A file that ends inside quotes has an error at its end, written `none`.
-/
def logicalLines : (open? : Option (List Char × Position)) → List (List Char) →
    List (Option (List Char))
  | none, [] => []
  | some _, [] => [none]
  | open?, line :: lines =>
    let (begun, position) := open?.getD ([], .plain)
    let whole := begun ++ line
    if (Text.trimStartChars whole).head? = some '#' then some [] :: logicalLines none lines
    else
      match cutComment position line with
      | (kept, none) => some (begun ++ kept) :: logicalLines none lines
      | (_, some .plain) => some (dropLineEnd whole) :: logicalLines none lines
      | (_, some final) => logicalLines (some (whole, final)) lines

/-! ## Values -/

/-- What the next character of a value belongs to. -/
inductive ValuePart where
  | text
  /-- An escape, of which the backslash is read. -/
  | escape
  /-- A reference to the value with this name so far, in braces or not. -/
  | reference (braced : Bool) (name : List Char)
  deriving DecidableEq, Repr

/-- The character that an escape stands for. -/
def escapeValue? (c : Char) : Option Char :=
  if c = '\\' ∨ c = '\'' ∨ c = '\x22' ∨ c = '$' ∨ c = ' ' then some c
  else if c = 'n' then some '\n'
  else none

/--
The value of an assignment: quotes taken off, cut at the blank before a comment. Names in
references run over ASCII letters and digits.
-/
def readValue (lookup : List Char → List Char) :
    (quote : Option Char) → ValuePart → List Char → Option (List Char)
  | none, .reference false name, [] => some (lookup name)
  | none, .reference true _, [] => none
  | none, _, [] => some []
  | some _, _, [] => none
  | quote, .escape, c :: rest => do
    return (← escapeValue? c) :: (← readValue lookup quote .text rest)
  | quote, .reference braced name, c :: rest =>
    if c.isAlphanum then readValue lookup quote (.reference braced (name ++ [c])) rest
    else if braced then
      if c = '\x7d' then (readValue lookup quote .text rest).map (lookup name ++ ·)
      else readValue lookup quote (.reference true (name ++ [c])) rest
    else if c = '\x7b' ∧ name = [] then readValue lookup quote (.reference true []) rest
    else if c = '$' then
      (readValue lookup quote (.reference false []) rest).map (lookup name ++ ·)
    else (readValue lookup quote .text rest).map (lookup name ++ c :: ·)
  | quote, .text, c :: rest =>
    if quote = some '\'' then
      if c = '\'' then readValue lookup none .text rest
      else (readValue lookup quote .text rest).map (c :: ·)
    else if c = '$' then readValue lookup quote (.reference false []) rest
    else if c = '\\' then readValue lookup quote .escape rest
    else if quote = some c then readValue lookup none .text rest
    else if quote.isNone && isQuote c then readValue lookup (some c) .text rest
    else if quote.isNone && (c = ' ' || c = '\t') then
      match rest.dropWhile fun d => d = ' ' ∨ d = '\t' with
      | [] | '#' :: _ => some []
      | _ => none
    else (readValue lookup quote .text rest).map (c :: ·)

/-! ## Assignments -/

/-- The key at the front of a line, and the rest. -/
def readKey (cs : List Char) : Option (List Char × List Char) :=
  match cs with
  | [] => none
  | c :: _ =>
    if c.isAlpha || c = '_' then
      some (cs.span fun d => d.isAlphanum || d = '_' || d = '.')
    else none

/-- What follows the equals sign at the front, blanks around the sign passed over. -/
def readEquals (cs : List Char) : Option (List Char) :=
  match Text.trimStartChars cs with
  | '=' :: rest => some (Text.trimStartChars rest)
  | _ => none

/-- The value with a name among those given so far, the first one if there are several. -/
def valueOf (values : List (String × String)) (name : List Char) : List Char :=
  ((values.lookup (String.ofList name)).getD "").toList

/--
The assignment on a line, blanks at its end not counted; `some none` for a blank line or a
comment, `none` for an error.
-/
def readLine (values : List (String × String)) (line : List Char) :
    Option (Option (String × String)) :=
  match Text.trimChars line with
  | [] | '#' :: _ => some none
  | cs => do
    let (key, rest) ← readKey cs
    let (key, value) ←
      match readEquals rest with
      | some value => pure (key, value)
      | none =>
        if key = "export".toList then do
          let (key, rest) ← readKey (Text.trimStartChars rest)
          pure (key, ← readEquals rest)
        else none
    let value ← match value with
      | [] | '#' :: _ => some []
      | cs => readValue (valueOf values) none .text cs
    return some (String.ofList key, String.ofList value)

/-- Adds the assignment on a line behind the values given so far. -/
def addLine (values : List (String × String)) (line : Option (List Char)) :
    Option (List (String × String)) := do
  match ← readLine values (← line) with
  | some entry => return values ++ [entry]
  | none => return values

/-- The values of an environment and behind them those of a file, in order. -/
def read (environment : List (String × String)) (text : String) :
    Except SettingsError (List (String × String)) :=
  let cs := match text.toList with
    | '\ufeff' :: rest => rest
    | cs => cs
  match (logicalLines none (physicalLines cs)).foldlM addLine environment with
  | some values => .ok values
  | none => .error .envFile

end SchemaSync.EnvFile

namespace SchemaSync.Settings

/-- The name of the file with values beside the environment. -/
def envFileName : String := ".env"

/--
The settings of an environment and of the file with values in a directory, if there is one. A
variable that is set beats the file.
-/
def ofEnvironment (environment : List (String × String)) (directory : Directory.Listing) :
    Except SettingsError Settings := do
  match directory.linkTarget [] envFileName with
  | .file (.ok text) => ofValues (← EnvFile.read environment text)
  | .file (.error _) => throw .envFile
  | _ => ofValues environment

end SchemaSync.Settings
