/-
Full case mapping of texts, as the Unicode standard defines it without a
locale: each character maps by itself, save the capital sigma, whose lower
case at the end of a word is the final sigma.

`lowerChar_ascii` and `upperChar_ascii` say that ASCII maps to ASCII in the
usual way, `toList_lower_ascii` that a text of ASCII does, too.
-/
import SchemaSync.Text.CaseTable
namespace SchemaSync.Text

open CaseTable

/-- Whether a code point lies in one of the ranges, both ends included. -/
def inRanges (n : Nat) (ranges : List (Nat × Nat)) : Bool :=
  ranges.any fun (first, last) => first ≤ n && n ≤ last

/-- The image of a code point under a table of runs, if one of them maps it. -/
def runImage (n : Nat) : List (Nat × Nat × Nat × Nat) → Option Nat
  | [] => none
  | (first, last, step, image) :: runs =>
    if first ≤ n && n ≤ last && (n - first) % step == 0 then some (image + (n - first))
    else runImage n runs

/-- The image of one character beyond ASCII under a pair of tables. -/
def mapBeyondAscii (special : List (Nat × List Nat)) (runs : List (Nat × Nat × Nat × Nat))
    (c : Char) : List Char :=
  match special.lookup c.toNat with
  | some image => image.map Char.ofNat
  | none =>
    match runImage c.toNat runs with
    | some image => [Char.ofNat image]
    | none => [c]

/-- The lower case of one character, apart from its place in a word. -/
def lowerChar (c : Char) : List Char :=
  if c.toNat < 128 then [c.toLower] else mapBeyondAscii lowerSpecial lowerRuns c

/-- The upper case of one character. -/
def upperChar (c : Char) : List Char :=
  if c.toNat < 128 then [c.toUpper] else mapBeyondAscii upperSpecial upperRuns c

theorem lowerChar_ascii {c : Char} (h : c.toNat < 128) : lowerChar c = [c.toLower] := by
  simp [lowerChar, h]

theorem upperChar_ascii {c : Char} (h : c.toNat < 128) : upperChar c = [c.toUpper] := by
  simp [upperChar, h]

/-- The property Cased. -/
def isCased (c : Char) : Bool :=
  c.isAlpha || inRanges c.toNat cased

/-- The property Case_Ignorable. -/
def isCaseIgnorable (c : Char) : Bool :=
  c = '\'' || c = '.' || c = ':' || c = '^' || c = '\x60' || inRanges c.toNat caseIgnorable

/-- Whether a cased character comes first once the case-ignorable ones are passed over. -/
def casedFirst : List Char → Bool
  | [] => false
  | c :: rest => if isCaseIgnorable c then casedFirst rest else isCased c

/-- The lower case of the characters `rest`, of which `before` comes in front, nearest first. -/
def lowerAfter : (before rest : List Char) → List Char
  | _, [] => []
  | before, c :: rest =>
    (if c = 'Σ' then (if casedFirst before && !casedFirst rest then ['ς'] else ['σ'])
      else lowerChar c) ++ lowerAfter (c :: before) rest

/-- A text in lower case. -/
def lower (s : String) : String :=
  String.ofList (lowerAfter [] s.toList)

theorem lowerAfter_ascii {cs : List Char} (h : ∀ c ∈ cs, c.toNat < 128) (before : List Char) :
    lowerAfter before cs = cs.map Char.toLower := by
  induction cs generalizing before with
  | nil => rfl
  | cons c cs ih =>
    obtain ⟨hc, hcs⟩ := List.forall_mem_cons.1 h
    have hsigma : c ≠ 'Σ' := by
      intro he
      rw [he] at hc
      exact absurd hc (by decide)
    rw [lowerAfter, if_neg hsigma, lowerChar_ascii hc, ih hcs, List.map_cons, List.singleton_append]

theorem toList_lower_ascii {s : String} (h : ∀ c ∈ s.toList, c.toNat < 128) :
    (lower s).toList = s.toList.map Char.toLower := by
  rw [lower, String.toList_ofList, lowerAfter_ascii h]

/-- A text in upper case. -/
def upper (s : String) : String :=
  String.ofList (s.toList.flatMap upperChar)

end SchemaSync.Text
