/-
The words of SQL text outside quotes.

A word is a longest run of letters, digits and underscores; all else parts
words, and so does a quoted text. `Worded` says which words a text has
wherever it stands behind others: texts that a separator opens have their
words one after the other (`Worded.append`), so the words of a statement are
known from those of its parts.
-/
import SchemaSync.Proofs.Text.Blank
import SchemaSync.Proofs.Text.Lexeme

namespace SchemaSync.Text

/-- Whether a character may stand in a word. -/
def isWordChar (c : Char) : Bool :=
  c.isAlphanum || c = '_'

/-- What a lexeme is to the words of a text: a character of one, or a blank. -/
def wordChar : Lexeme → Char
  | .bare c => if isWordChar c then c else ' '
  | .quoted _ _ => ' '

/-- The words that lexemes form. -/
def lexemeWords (l : List Lexeme) : List (List Char) :=
  wordsChars (l.map wordChar)

/-- The words of a text outside quotes. -/
def bareWords (s : String) : List (List Char) :=
  lexemeWords (lexemes s.toList)

/-- Whether a text has these keywords outside quotes, one behind the other. -/
def Mentions (s keywords : String) : Prop :=
  wordsChars keywords.toList <:+: bareWords s

/-- Whether a character parts words and opens no quoted text. -/
def isSeparator (c : Char) : Bool :=
  !isQuote c && !isWordChar c

theorem isSeparator_iff {c : Char} :
    isSeparator c = true ↔ isQuote c = false ∧ isWordChar c = false := by
  simp [isSeparator]

theorem wordChar_of_isSeparator {c : Char} (h : isSeparator c = true) :
    wordChar (.bare c) = ' ' := by
  rw [wordChar, if_neg (by simp [(isSeparator_iff.1 h).2])]

theorem lexemeWords_append {l m : List Lexeme} (h : ∀ a ∈ m.head?, wordChar a = ' ') :
    lexemeWords (l ++ m) = lexemeWords l ++ lexemeWords m := by
  rw [lexemeWords, List.map_append, wordsChars_append]
  · rfl
  · intro c hc
    rw [List.head?_map] at hc
    obtain ⟨a, ha, rfl⟩ := Option.map_eq_some_iff.1 hc
    rw [h a ha]
    rfl

theorem lexemeWords_cons {a : Lexeme} (h : wordChar a = ' ') (l : List Lexeme) :
    lexemeWords (a :: l) = lexemeWords l := by
  rw [lexemeWords, List.map_cons, h]
  exact wordsChars_cons_blank rfl _

/-- A word is formed with characters outside quotes that may stand in one. -/
theorem mem_of_mem_lexemeWords {l : List Lexeme} {w : List Char} (h : w ∈ lexemeWords l) {c : Char}
    (hc : c ∈ w) : c ∈ bareChars l ∧ isWordChar c = true := by
  have hblank : isBlank c = false := isBlank_of_mem_wordsChars h c hc
  obtain ⟨a, ha, rfl⟩ := List.mem_map.1 (mem_of_mem_wordsChars h c hc)
  cases a with
  | bare b =>
    by_cases hb : isWordChar b = true
    · rw [wordChar, if_pos hb]
      exact ⟨mem_bareChars.2 ha, hb⟩
    · rw [wordChar, if_neg hb] at hblank
      cases hblank
  | quoted q s => cases hblank

/-- Separators and quoted texts form no words. -/
theorem lexemeWords_eq_nil {l : List Lexeme} (h : ∀ c ∈ bareChars l, isSeparator c = true) :
    lexemeWords l = [] := by
  induction l with
  | nil => rfl
  | cons a l ih =>
    cases a with
    | bare c =>
      obtain ⟨hc, hrest⟩ := List.forall_mem_cons.1 h
      rw [lexemeWords_cons (wordChar_of_isSeparator hc), ih hrest]
    | quoted q s => rw [lexemeWords_cons rfl, ih h]

/-- A text that a separator opens, with these words outside quotes. -/
def Worded (cs : List Char) (words : List (List Char)) : Prop :=
  (∀ c ∈ cs.head?, isSeparator c = true) ∧ ∃ l, Lexes cs l ∧ lexemeWords l = words

/-- Behind a separator a text has the same lexemes as by itself. -/
theorem Lexes.exists_tail {c : Char} {cs : List Char} {l : List Lexeme} (h : Lexes (c :: cs) l)
    (hc : isQuote c = false) : ∃ m, l = .bare c :: m ∧ Lexes cs m := by
  have hl := h.eq
  rw [lexemes_bare hc] at hl
  subst hl
  refine ⟨_, rfl, fun rest hrest => ?_⟩
  have hall := h rest hrest
  rw [List.cons_append, lexemes_bare hc, List.cons_append] at hall
  exact (List.cons.inj hall).2

namespace Worded

variable {cs ds : List Char} {words others : List (List Char)}

theorem unquoted (h : Worded cs words) : Unquoted cs :=
  fun c hc => (isSeparator_iff.1 (h.1 c hc)).1

theorem nil : Worded [] [] :=
  ⟨by simp, [], .nil, rfl⟩

theorem append (hc : Worded cs words) (hd : Worded ds others) :
    Worded (cs ++ ds) (words ++ others) := by
  have hu := hd.unquoted
  obtain ⟨hchead, l, hl, rfl⟩ := hc
  obtain ⟨hdhead, m, hm, rfl⟩ := hd
  refine ⟨?_, l ++ m, hl.append hm hu, lexemeWords_append ?_⟩
  · cases cs with
    | nil => exact hdhead
    | cons c cs => exact hchead
  · -- The second text opens with a separator, so no word runs over the joint.
    intro a ha
    have hlex := hm.eq
    cases ds with
    | nil =>
      rw [lexemes] at hlex
      rw [← hlex] at ha
      cases ha
    | cons d ds =>
      rw [lexemes_bare (hu d rfl)] at hlex
      rw [← hlex] at ha
      cases ha
      exact wordChar_of_isSeparator (hdhead d rfl)

theorem bare (hhead : cs.head?.all isSeparator = true) (hq : isQuoteless cs = true)
    (h : lexemeWords (cs.map .bare) = words) : Worded cs words :=
  ⟨fun c hc => by simpa [Option.mem_def.1 hc] using hhead, _, .bare cs hq, h⟩

/-- Separators of any kind do for the one that opens a text. -/
theorem pad {separators : List Char} (hne : separators ≠ [])
    (hall : separators.all isSeparator = true) (h : Worded (' ' :: cs) words) :
    Worded (separators ++ cs) words := by
  obtain ⟨-, l, hl, rfl⟩ := h
  obtain ⟨m, rfl, hm⟩ := hl.exists_tail rfl
  have hseparators := List.all_eq_true.1 hall
  refine ⟨?_, _, hm.bareAppend separators ?_, ?_⟩
  · cases separators with
    | nil => exact absurd rfl hne
    | cons c separators => simpa using hseparators c List.mem_cons_self
  · exact isQuoteless_iff.2 fun c hc => (isSeparator_iff.1 (hseparators c hc)).1
  · rw [lexemeWords_cons rfl]
    clear hne hall
    induction separators with
    | nil => rfl
    | cons c separators ih =>
      obtain ⟨hc, hrest⟩ := List.forall_mem_cons.1 hseparators
      rw [List.map_cons, List.cons_append, lexemeWords_cons (wordChar_of_isSeparator hc), ih hrest]

/-- The words of a text are those that it has behind a blank. -/
theorem eq {s : String} (h : Worded (' ' :: s.toList) words) : bareWords s = words := by
  obtain ⟨-, l, hl, rfl⟩ := h
  rw [← hl.eq, lexemes_bare rfl, lexemeWords_cons rfl, bareWords]

end Worded

end SchemaSync.Text
