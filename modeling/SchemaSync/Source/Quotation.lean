/-
String, byte and character literals of source files: escapes, line
continuations and raw strings. A scanner gives the characters a literal
stands for, and the rest behind it.
-/
import SchemaSync.Source.Identifier
namespace SchemaSync.Source

/-- What a kind of quotation may hold. -/
structure QuotationKind where
  /-- Whether `\x` may give more than ASCII. -/
  highHex : Bool
  /-- Whether `\u` is an escape. -/
  unicodeEscapes : Bool
  /-- Whether characters beyond ASCII may stand in it. -/
  beyondAscii : Bool
  /-- Whether the NUL character may stand in it, written in any way. -/
  nul : Bool

/-- Strings. -/
def QuotationKind.text : QuotationKind := ⟨false, true, true, true⟩

/-- Strings of bytes. -/
def QuotationKind.bytes : QuotationKind := ⟨true, false, false, true⟩

/-- Strings that end with NUL, and so hold none. -/
def QuotationKind.terminated : QuotationKind := ⟨true, true, true, false⟩

/-- The value of a hexadecimal digit. -/
def hexDigit? (c : Char) : Option Nat :=
  if c.isDigit then some (c.toNat - 48)
  else if 'a' ≤ c ∧ c ≤ 'f' then some (c.toNat - 87)
  else if 'A' ≤ c ∧ c ≤ 'F' then some (c.toNat - 55)
  else none

/-- The character of a code point, if it is one. -/
def charOf? (n : Nat) : Option Char :=
  if n.isValidChar then some (Char.ofNat n) else none

/-- The characters behind a line continuation: the blanks at their front are left out. -/
def continuation? : List Char → Option (List Char)
  | [] => none
  | '\r' :: '\n' :: rest => continuation? rest
  | c :: rest =>
    if c = '\r' then none
    else if c = ' ' ∨ c = '\t' ∨ c = '\n' then continuation? rest
    else some (c :: rest)

/-- The character of an escape `\u` with its code point in braces, of which the first is read. -/
def unicodeEscape? (cs : List Char) : Option (Char × List Char) :=
  match cs.dropWhile (· ≠ '\x7d') with
  | [] => none
  | _ :: rest =>
    let body := cs.takeWhile (· ≠ '\x7d')
    let digits := body.filter (· ≠ '_')
    if body.head? = some '_' ∨ digits = [] ∨ 6 < digits.length then none
    else do
      let values ← digits.mapM hexDigit?
      let c ← charOf? (values.foldl (fun n d => 16 * n + d) 0)
      return (c, rest)

/-- The character of a one-letter escape. -/
def letterEscape? : Char → Option Char
  | 'n' => some '\n'
  | 'r' => some '\r'
  | 't' => some '\t'
  | '0' => some '\x00'
  | '\\' => some '\\'
  | '\'' => some '\''
  | '\x22' => some '\x22'
  | _ => none

/-- The characters an escape stands for, its backslash read, and the rest. -/
def escape? (kind : QuotationKind) : List Char → Option (List Char × List Char)
  | 'x' :: a :: b :: rest => do
    let n := 16 * (← hexDigit? a) + (← hexDigit? b)
    if n < 128 ∨ kind.highHex then return ([Char.ofNat n], rest) else none
  | 'u' :: '\x7b' :: rest =>
    if kind.unicodeEscapes then (unicodeEscape? rest).map fun (c, rest) => ([c], rest) else none
  | '\n' :: rest => (continuation? rest).map fun rest => ([], rest)
  | '\r' :: '\n' :: rest => (continuation? rest).map fun rest => ([], rest)
  | c :: rest => (letterEscape? c).map fun d => ([d], rest)
  | [] => none

/-- Whether a quotation may hold a character. -/
def QuotationKind.allows (kind : QuotationKind) (c : Char) : Bool :=
  (kind.beyondAscii || c.toNat < 128) && (kind.nul || c ≠ '\x00')

/--
The characters up to the closing double quote, escapes read, and the rest behind it, if they are
found in a number of steps. Each step takes one character or one escape.
-/
def quotationWithin? (kind : QuotationKind) (steps : Nat) (cs : List Char) :
    Option (List Char × List Char) :=
  match steps, cs with
  | 0, _ => none
  | _, [] => none
  | steps + 1, '\r' :: '\n' :: rest => do
    let (text, rest) ← quotationWithin? kind steps rest
    return ('\n' :: text, rest)
  | steps + 1, c :: rest =>
    if c = '\x22' then some ([], rest)
    else if c = '\\' then do
      let (out, rest) ← escape? kind rest
      if !(out.all fun d => kind.nul || d ≠ '\x00') then none
      let (text, rest) ← quotationWithin? kind steps rest
      return (out ++ text, rest)
    else if c ≠ '\r' && kind.allows c then do
      let (text, rest) ← quotationWithin? kind steps rest
      return (c :: text, rest)
    else none

/-- The characters up to the closing double quote, escapes read, and the rest behind it. -/
def quotation? (kind : QuotationKind) (cs : List Char) : Option (List Char × List Char) :=
  quotationWithin? kind cs.length cs

/-- The characters of a raw quotation that ends with a quote and `hashes`, and the rest. -/
def rawBody? (kind : QuotationKind) (hashes : List Char) :
    List Char → Option (List Char × List Char)
  | [] => none
  | c :: rest =>
    if c = '\x22' ∧ hashes.isPrefixOf rest then some ([], rest.drop hashes.length)
    else if c = '\r' ∧ rest.head? ≠ some '\n' ∨ !kind.allows c then none
    else (rawBody? kind hashes rest).map fun (text, rest) => (c :: text, rest)

/-- A raw quotation behind its `r`: number signs, a quote, the characters, and the same again. -/
def rawQuotation? (kind : QuotationKind) (cs : List Char) : Option (List Char × List Char) :=
  let hashes := cs.takeWhile (· = '#')
  match cs.dropWhile (· = '#') with
  | '\x22' :: rest => if hashes.length ≤ 255 then rawBody? kind hashes rest else none
  | _ => none

/-- A character literal behind its opening quote; the character, and the rest. -/
def character? (kind : QuotationKind) (cs : List Char) : Option (Char × List Char) := do
  let (c, rest) ←
    match cs with
    | '\\' :: rest =>
      match escape? kind rest with
      | some ([c], rest) => some (c, rest)
      | _ => none
    | c :: rest => if kind.allows c then some (c, rest) else none
    | [] => none
  match rest with
  | '\'' :: rest => return (c, rest)
  | _ => none

end SchemaSync.Source
