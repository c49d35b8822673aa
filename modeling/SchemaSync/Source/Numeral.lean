/-
Number literals of source files: which characters belong to one, and whether
it is an integer or a floating point number.

An integer has a base, given by `0x`, `0o` or `0b`, and underscores between
its digits; its value is kept in decimal. A floating point number has a point
or an exponent and is kept as written, without underscores and without a plus
sign in the exponent. A suffix such as `u32` is part of the literal and not
of its value.
-/
import SchemaSync.Source.Quotation
import SchemaSync.Source.Token
namespace SchemaSync.Source

/-- The base that the characters begin with, and the digits behind its sign. -/
def numeralBase : List Char → Nat × List Char
  | '0' :: 'x' :: rest => (16, rest)
  | '0' :: 'o' :: rest => (8, rest)
  | '0' :: 'b' :: rest => (2, rest)
  | cs => (10, cs)

/-- Whether a character counts as a digit or is passed over among digits of this base. -/
def inDigits (base : Nat) (c : Char) : Bool :=
  c = '_' || c.isDigit || ((hexDigit? c).any fun d => d < base)

/-- Whether a number may end in front of these characters. -/
def endsWord : List Char → Bool
  | [] => true
  | c :: _ => !continuesIdent c

/-- The suffix behind a numeral and the rest, if the word ends there. -/
def suffix? (cs : List Char) : Option (String × List Char) :=
  let (suffix, rest) := (plainIdent? cs).getD ([], cs)
  if endsWord rest then some (String.ofList suffix, rest) else none

/-- An integer at the front, and the rest behind its suffix. -/
def integer? (cs : List Char) : Option (Literal × List Char) := do
  let (base, digits) := numeralBase cs
  let body := digits.takeWhile (inDigits base)
  let values := (body.filter (· ≠ '_')).filterMap hexDigit?
  if values.isEmpty || values.any (fun d => base ≤ d) ||
      (base = 10 && body.head? = some '_') then none
  else
    let (suffix, rest) ← suffix? (digits.dropWhile (inDigits base))
    return (.integer (values.foldl (fun n d => base * n + d) 0).repr suffix, rest)

/-- Whether a character is a decimal digit or an underscore. -/
def inDecimal (c : Char) : Bool :=
  c = '_' || c.isDigit

/-- An exponent behind its letter, without underscores and plus sign, and the rest. -/
def exponent? (cs : List Char) : Option (List Char × List Char) :=
  let (sign, cs) :=
    match cs.dropWhile (· = '_') with
    | '-' :: rest => (['-'], rest)
    | '+' :: rest => ([], rest)
    | _ => ([], cs)
  let digits := (cs.takeWhile inDecimal).filter Char.isDigit
  if digits.isEmpty then none else some (sign ++ digits, cs.dropWhile inDecimal)

/-- The point of a number and the digits behind it, unless a name or a second point follows it. -/
def fraction? : List Char → Option (List Char × List Char)
  | '.' :: rest =>
    if rest.head?.any fun c => c = '.' || startsIdent c then none
    else some ('.' :: (rest.takeWhile inDecimal).filter Char.isDigit, rest.dropWhile inDecimal)
  | _ => none

/-- A floating point number at the front, and the rest behind its suffix. -/
def float? (cs : List Char) : Option (Literal × List Char) := do
  if !(cs.head?.any Char.isDigit) then none
  let whole := (cs.takeWhile inDecimal).filter Char.isDigit
  let rest := cs.dropWhile inDecimal
  let pointFollows := rest.head? = some '.'
  let fraction := fraction? rest
  if pointFollows && fraction.isNone then none
  let (tenths, rest) := fraction.getD ([], rest)
  let exponent :=
    match rest with
    | c :: behind => if c = 'e' ∨ c = 'E' then exponent? behind else none
    | [] => none
  match exponent with
  | some (digits, rest) =>
    let (suffix, rest) ← suffix? rest
    return (.float (String.ofList (whole ++ tenths ++ 'e' :: digits)) suffix, rest)
  | none =>
    if pointFollows then
      let (suffix, rest) ← suffix? rest
      return (.float (String.ofList (whole ++ tenths)) suffix, rest)
    else none

/-- A number at the front, and the rest. -/
def number? (cs : List Char) : Option (Literal × List Char) :=
  (float? cs).orElse fun _ => integer? cs

end SchemaSync.Source
