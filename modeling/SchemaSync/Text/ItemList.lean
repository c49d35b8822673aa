/-
Comma-separated lists. `commaList` writes one; `splitList` reads one whose
items may be quoted, so that a comma inside quotes separates nothing.
-/
import SchemaSync.Text.Quoted
namespace SchemaSync.Text

/-- Items joined by a comma and a space. -/
def commaList (items : List String) : String :=
  ", ".intercalate items

/-- Whether a character opens a quoted item. -/
def isQuote (c : Char) : Bool :=
  c = '\'' || c = '\x22' || c = '\x60'

/-- Puts a character in front of the first item. -/
def consFirst (c : Char) : List (List Char) → List (List Char)
  | [] => [[c]]
  | item :: items => (c :: item) :: items

/--
The raw items between the commas, quotes kept. `quote` is the quote character of the quoted
region the reader is in; a doubled quote inside it does not end the region.
-/
def rawItems : (quote : Option Char) → List Char → List (List Char)
  | _, [] => [[]]
  | some q, [c] => rawItems (if c = q then none else some q) [] |> consFirst c
  | some q, c :: d :: rest =>
    if c = q then
      if d = q then consFirst c (consFirst d (rawItems (some q) rest))
      else consFirst c (rawItems none (d :: rest))
    else consFirst c (rawItems (some q) (d :: rest))
  | none, c :: rest =>
    if isQuote c then consFirst c (rawItems (some c) rest)
    else if c = ',' then [] :: rawItems none rest
    else consFirst c (rawItems none rest)

/-- The items of a comma-separated list, trimmed and unquoted, the empty ones left out. -/
def splitList (s : String) : List String :=
  ((rawItems none s.toList).map fun item => String.ofList (unquoteChars (trimChars item))).filter
    fun item => item ≠ ""

end SchemaSync.Text
