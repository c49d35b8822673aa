/-
Numbers in text: the decimal text of a length or a precision, and the reader
for such numbers in a catalog's type names.
-/
namespace SchemaSync.Text

/-- The decimal digits of a 32-bit number, without leading zeros. -/
def decimal (n : UInt32) : String :=
  n.toNat.repr

/-- The 32-bit number that a nonempty list of decimal digits writes, if it is one and fits. -/
def digits32? (cs : List Char) : Option UInt32 :=
  if !cs.isEmpty && cs.all Char.isDigit then
    let n := Nat.ofDigitChars 10 cs 0
    if n < UInt32.size then some (UInt32.ofNat n) else none
  else none

/-- The 32-bit number a text writes: decimal digits, which a plus sign may precede. -/
def number32? (s : String) : Option UInt32 :=
  match s.toList with
  | '+' :: cs => digits32? cs
  | cs => digits32? cs

theorem isDigit_of_mem_decimal {n : UInt32} {c : Char} (h : c ∈ (decimal n).toList) :
    c.isDigit = true := by
  rw [decimal, Nat.toList_repr] at h
  exact Nat.isDigit_of_mem_toDigits (by decide) (by decide) h

theorem digits32?_toDigits (n : UInt32) : digits32? (Nat.toDigits 10 n.toNat) = some n := by
  have hall : (Nat.toDigits 10 n.toNat).all Char.isDigit = true := by
    rw [List.all_eq_true]
    exact fun c hc => Nat.isDigit_of_mem_toDigits (by decide) (by decide) hc
  have hlt : n.toNat < UInt32.size := n.toNat_lt
  simp [digits32?, hall, Nat.toDigits_ne_nil, Nat.ofDigitChars_toDigits, hlt]

/-- Reading the decimal text of a number gives the number. -/
theorem number32?_decimal (n : UInt32) : number32? (decimal n) = some n := by
  unfold number32? decimal
  rw [Nat.toList_repr]
  split
  · next cs h =>
    have : ('+' : Char).isDigit = true :=
      Nat.isDigit_of_mem_toDigits (b := 10) (n := n.toNat) (by decide) (by decide) (by simp [h])
    simp at this
  · exact digits32?_toDigits n

end SchemaSync.Text
