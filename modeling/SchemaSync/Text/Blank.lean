/-
Blanks and words. A blank is a character with the Unicode property
White_Space; a word is a longest run of other characters.

`isBlank_ascii` ties the property to ASCII: below 128 it is exactly the
space, tab, line feed, vertical tab, form feed and carriage return.
-/
namespace SchemaSync.Text

/-- The Unicode property White_Space. -/
def isBlank (c : Char) : Bool :=
  let n := c.toNat
  (9 ≤ n && n ≤ 13) || n = 32 || n = 0x85 || n = 0xa0 || n = 0x1680 ||
    (0x2000 ≤ n && n ≤ 0x200a) || n = 0x2028 || n = 0x2029 || n = 0x202f || n = 0x205f || n = 0x3000

theorem isBlank_ascii {c : Char} (h : c.toNat < 128) :
    isBlank c = true ↔ (9 ≤ c.toNat ∧ c.toNat ≤ 13) ∨ c.toNat = 32 := by
  simp only [isBlank, Bool.or_eq_true, Bool.and_eq_true, decide_eq_true_eq]
  omega

/-- A list of characters without the blanks in front. -/
def trimStartChars (cs : List Char) : List Char :=
  cs.dropWhile isBlank

/-- A list of characters without the blanks at its end. -/
def trimEndChars (cs : List Char) : List Char :=
  (cs.reverse.dropWhile isBlank).reverse

/-- A list of characters without the blanks at both ends. -/
def trimChars (cs : List Char) : List Char :=
  trimEndChars (trimStartChars cs)

/-- A text without the blanks at both ends. -/
def trim (s : String) : String :=
  String.ofList (trimChars s.toList)

/-- A text without the blanks in front. -/
def trimStart (s : String) : String :=
  String.ofList (trimStartChars s.toList)

/-- The words of a list of characters, in order. -/
def wordsChars (cs : List Char) : List (List Char) :=
  (cs.splitOnP isBlank).filter (fun w => !w.isEmpty)

/-- The words of a text, in order. -/
def words (s : String) : List String :=
  (wordsChars s.toList).map String.ofList

/-- The words of a text with one space between neighbours, so a single line. -/
def singleSpaced (s : String) : String :=
  " ".intercalate (words s)

end SchemaSync.Text
