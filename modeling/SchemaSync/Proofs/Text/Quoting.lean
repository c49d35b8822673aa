/-
Quoting taken off again: doubled quote characters read back in pairs
(`undoubled_doubled`), and a quoted text unquotes to the text it was made of
(`unquoteChars_quoted`), for each quote character that `unquote` knows.
-/
import SchemaSync.Text.Quoted

namespace SchemaSync.Text

theorem toList_quoted (q : Char) (s : String) :
    (quoted q s).toList = q :: (doubled q s.toList ++ [q]) := by
  simp [quoted]

theorem toList_literal (s : String) :
    (literal s).toList = '\'' :: (doubled '\'' s.toList ++ ['\'']) :=
  toList_quoted _ _

theorem undoubled_cons_ne {q c : Char} (h : c ≠ q) (cs : List Char) :
    undoubled q (c :: cs) = c :: undoubled q cs := by
  cases cs with
  | nil => rfl
  | cons d cs => simp [undoubled, h]

theorem undoubled_doubled (q : Char) : ∀ cs : List Char, undoubled q (doubled q cs) = cs
  | [] => rfl
  | c :: cs => by
    have ih := undoubled_doubled q cs
    by_cases h : c = q
    · subst h
      simp [doubled, undoubled, ih]
    · rw [doubled, if_neg h, undoubled_cons_ne h, ih]

theorem between?_quoted (q : Char) (cs : List Char) : between? q (q :: (cs ++ [q])) = some cs := by
  simp [between?]

theorem between?_cons_ne {q c : Char} (h : c ≠ q) (cs : List Char) : between? q (c :: cs) = none := by
  rw [between?]
  split
  · rw [if_neg fun he => h he.1]
  · rfl

theorem unquoteChars_quoted {q : Char} (hq : q ∈ quoteChars) (cs : List Char) :
    unquoteChars (q :: (doubled q cs ++ [q])) = cs := by
  have hown : (between? q (q :: (doubled q cs ++ [q]))).map (undoubled q) = some cs := by
    rw [between?_quoted, Option.map_some, undoubled_doubled]
  simp only [quoteChars, List.mem_cons, List.not_mem_nil, or_false] at hq
  rcases hq with rfl | rfl | rfl <;>
    simp [unquoteChars, quoteChars, between?_cons_ne, between?_quoted, undoubled_doubled]

theorem unquoteChars_of_not_quote {c : Char} (h : c ∉ quoteChars) (cs : List Char) :
    unquoteChars (c :: cs) = c :: cs := by
  simp only [quoteChars, List.mem_cons, List.not_mem_nil, or_false, not_or] at h
  obtain ⟨h₁, h₂, h₃⟩ := h
  simp [unquoteChars, quoteChars, between?_cons_ne, h₁, h₂, h₃]

end SchemaSync.Text
