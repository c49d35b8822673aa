/-
Default values as catalogs print them. A print is classified first, by the
rules of its dialect, and then aligned with the type of its column.
-/
import SchemaSync.Schema.Column
import SchemaSync.Schema.ForeignKey
import SchemaSync.Text.Search
namespace SchemaSync.Catalog

/-- A number without its sign: digits with at most one point among them, and at least one digit. -/
def isUnsigned (cs : List Char) : Bool :=
  cs.any Char.isDigit && cs.all (fun c => c.isDigit || c = '.') && cs.count '.' ≤ 1

/-- Whether characters are a decimal number, which a sign may precede. -/
def isNumber : List Char → Bool
  | c :: cs => if c = '-' ∨ c = '+' then isUnsigned cs else isUnsigned (c :: cs)
  | [] => false

/-- Whether a text is a decimal number, which a sign may precede. -/
def isNumeric (s : String) : Bool :=
  isNumber s.toList

/--
A default aligned with the type of its column: `0` and `1` are booleans on a boolean column, and a
text that is a number is a number on a numeric column.
-/
def alignDefault (type : ColumnType) : DefaultValue → DefaultValue
  | .text s =>
    if type = .boolean ∧ (s = "0" ∨ s = "1") then .bool (s = "1")
    else if type.isNumeric ∧ isNumeric s then .number s
    else .text s
  | .number s => if type = .boolean ∧ (s = "0" ∨ s = "1") then .bool (s = "1") else .number s
  | d => d

/-- What MySQL prints at the front of a default that is an expression, in upper case. -/
def mySqlExpressions : List String :=
  ["CURRENT_TIMESTAMP", "NOW(", "CURRENT_DATE", "CURRENT_TIME", "LOCALTIMESTAMP"]

/--
A MySQL default. It is printed without quotes, so that a text and an expression look alike: an
expression is told by its first word, or because the catalog says that the value is `generated`.
-/
def mySqlDefault (generated : Bool) (raw : String) : DefaultValue :=
  let trimmed := Text.trim raw
  let upper := Text.upper trimmed
  if upper = "NULL" then .null
  else if generated ∨ mySqlExpressions.any (Text.beginsWith upper) then .expression trimmed
  else if isNumeric trimmed then .number trimmed
  else .text raw

/-- The text of a literal whose opening quote is read, if it is closed; what follows is ignored. -/
def literalText? : List Char → Option (List Char)
  | [] => none
  | [c] => if c = '\'' then some [] else none
  | c :: d :: rest =>
    if c = '\'' then
      if d = '\'' then (literalText? rest).map ('\'' :: ·) else some []
    else (literalText? (d :: rest)).map (c :: ·)

/-- The characters in front of the first `::`. -/
def beforeCast : List Char → List Char
  | [] => []
  | [c] => [c]
  | c :: d :: rest => if c = ':' ∧ d = ':' then [] else c :: beforeCast (d :: rest)

/-- The characters without one pair of parentheses around them, if they have it. -/
def withoutParens (cs : List Char) : List Char :=
  match cs with
  | '(' :: rest =>
    match rest.getLast? with
    | some ')' => rest.dropLast
    | _ => cs
  | _ => cs

/--
A Postgres default, printed as a SQL expression: a literal with or without a cast, a keyword, a
number, or anything else.
-/
def postgresDefault (raw : String) : DefaultValue :=
  let cs := Text.trimChars raw.toList
  let whole := DefaultValue.expression (String.ofList cs)
  match cs with
  | '\'' :: rest =>
    match literalText? rest with
    | some text => .text (String.ofList text)
    | none => whole
  | _ =>
    let bare := withoutParens (Text.trimChars (beforeCast cs))
    let word := Text.lower (String.ofList bare)
    if word = "null" then .null
    else if word = "true" then .bool true
    else if word = "false" then .bool false
    else if isNumber bare then .number (String.ofList bare)
    else whole

/-- A delete rule. The engine's own rule, under either name, and an unknown one read as none. -/
def deleteRule? (raw : Option String) : Option DeleteAction :=
  match raw.map DeleteAction.read with
  | some (.ok .noAction) | some (.ok .restrict) => none
  | some (.ok action) => some action
  | _ => none

end SchemaSync.Catalog
