/-
Quoted texts under a scanner of SQL text.

`scanQuoted` stands at a quote character, reads up to the single one that
closes the text, and takes a doubled one for a character of it. What it reads
is exactly what quoting writes (`scanQuoted_eq_some_iff`): a quoted text is
read whole in front of anything that is not its quote character, and nothing
else is read. So a name or a value in quotes ends where its quoting ends.
-/
import SchemaSync.Proofs.Text.Lexeme

namespace SchemaSync.Text

/-- The text that stands in quotes at the front, and what is left behind it. -/
def scanQuoted (q : Char) (text : String) : Option (String × String) :=
  match text.toList with
  | [] => none
  | c :: rest =>
    if c = q then
      (scanInside q rest).map fun (s, after) => (String.ofList s, String.ofList after)
    else none

/-- What the scanner reads inside quotes is the text that doubling writes so, and it stops at a
quote character that no other one follows. -/
theorem eq_of_scanInside {q : Char} {cs s after : List Char}
    (h : scanInside q cs = some (s, after)) :
    cs = doubled q s ++ q :: after ∧ after.head? ≠ some q := by
  induction cs using scanInside.induct q generalizing s after with
  | case1 => cases h
  | case2 =>
    simp only [scanInside, if_true, Option.some.injEq, Prod.mk.injEq] at h
    obtain ⟨rfl, rfl⟩ := h
    simp [doubled]
  | case3 c hc => simp [scanInside, hc] at h
  | case4 rest ih =>
    -- A pair of quote characters is one character of the text.
    simp only [scanInside, if_true] at h
    obtain ⟨⟨s', after'⟩, hscan, he⟩ := Option.map_eq_some_iff.1 h
    cases he
    obtain ⟨rfl, hafter⟩ := ih hscan
    exact ⟨by simp [doubled], hafter⟩
  | case5 d rest hd =>
    simp only [scanInside, if_true, if_neg hd, Option.some.injEq, Prod.mk.injEq] at h
    obtain ⟨rfl, rfl⟩ := h
    exact ⟨rfl, by simpa using hd⟩
  | case6 c d rest hc ih =>
    simp only [scanInside, if_neg hc] at h
    obtain ⟨⟨s', after'⟩, hscan, he⟩ := Option.map_eq_some_iff.1 h
    cases he
    obtain ⟨hcs, hafter⟩ := ih hscan
    exact ⟨by rw [hcs, doubled, if_neg hc, List.cons_append], hafter⟩

theorem scanInside_eq_some_iff {q : Char} {cs s after : List Char} :
    scanInside q cs = some (s, after) ↔ cs = doubled q s ++ q :: after ∧ after.head? ≠ some q := by
  constructor
  · exact eq_of_scanInside
  · rintro ⟨rfl, hafter⟩
    exact scanInside_doubled q s hafter

/-- A text begins with a quoted text where its characters are the quotes, what they hold, and the
rest. -/
theorem eq_quoted_append_iff {q : Char} {text s t : String} :
    text = quoted q s ++ t ↔ text.toList = q :: (doubled q s.toList ++ q :: t.toList) := by
  rw [← String.toList_inj, String.toList_append, toList_quoted]
  simp

theorem scanQuoted_eq_some_iff {q : Char} {text s t : String} :
    scanQuoted q text = some (s, t) ↔ text = quoted q s ++ t ∧ t.toList.head? ≠ some q := by
  rw [eq_quoted_append_iff, scanQuoted]
  cases text.toList with
  | nil => simp
  | cons c rest =>
    by_cases hc : c = q
    · subst hc
      rw [List.cons.injEq, and_iff_right rfl, ← scanInside_eq_some_iff]
      simp only [if_true, Option.map_eq_some_iff, Prod.exists, Prod.mk.injEq]
      constructor
      · rintro ⟨s', after, hscan, rfl, rfl⟩
        simpa using hscan
      · intro hscan
        exact ⟨_, _, hscan, String.ofList_toList, String.ofList_toList⟩
    · simp [hc]

/-- One level of quoting taken off gives the text that was quoted, blanks at its ends included. -/
theorem unquote_quoted {q : Char} (hq : q ∈ quoteChars) (s : String) :
    unquote (quoted q s) = s := by
  have hread : unquoteChars (trimChars ([] ++ (quoted q s).toList ++ [])) = s.toList :=
    unquoteChars_trimChars_item (by simp) (isItem_quoted hq s) (by simp)
  rw [List.nil_append, List.append_nil] at hread
  rw [unquote, hread, String.ofList_toList]

/-- **Quoted texts are read back whole, and nothing else is.** For every quote character the scanner
reads a text and leaves a rest exactly if it stands on that text in quotes with that rest behind it,
and the rest does not go on with the quote character; so it is with SQL literals. Taking one level
of quoting off gives the text again, for each of the quote characters that are taken off. -/
theorem quoting_reads_back :
    (∀ (q : Char) (text s t : String),
      scanQuoted q text = some (s, t) ↔ text = quoted q s ++ t ∧ t.toList.head? ≠ some q) ∧
    (∀ text s t : String,
      scanQuoted '\'' text = some (s, t) ↔ text = literal s ++ t ∧ t.toList.head? ≠ some '\'') ∧
    ∀ q ∈ quoteChars, ∀ s : String, unquote (quoted q s) = s :=
  ⟨fun _ _ _ _ => scanQuoted_eq_some_iff, fun _ _ _ => scanQuoted_eq_some_iff,
    fun _ hq s => unquote_quoted hq s⟩

/-- A literal with quotes at both ends, in front of a statement that goes on. -/
theorem quoting_reads_back_quotedWord :
    scanQuoted '\'' "'''it''s''' OR 1=1" = some ("'it's'", " OR 1=1") ∧
      unquote (quoted '\x60' " a\x60\x60 ") = " a\x60\x60 " := by
  obtain ⟨-, hliteral, hunquote⟩ := quoting_reads_back
  refine ⟨(hliteral _ _ _).2 ⟨by decide, by decide⟩, hunquote '\x60' (by decide) _⟩

end SchemaSync.Text
