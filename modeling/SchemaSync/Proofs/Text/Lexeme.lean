/-
SQL text as a scanner sees it: quoted texts, and characters outside quotes.

The scanner knows three quote characters. An opening one starts a text that
ends at the next single one, a doubled one being a character of the text
(`scanInside_doubled`). `Lexes` says which lexemes a text has wherever it
stands; the rules below build it up along the pieces of a text, so that the
lexemes of a statement are known from those of its parts.
-/
import SchemaSync.Proofs.Text.ItemList

namespace SchemaSync.Text

/-- A lexeme of SQL text. -/
inductive Lexeme where
  /-- A character outside quotes. -/
  | bare (c : Char)
  /-- A text in quotes, and the character that quotes it. -/
  | quoted (q : Char) (s : List Char)
  deriving DecidableEq

/-- The text up to the quote character that closes it, and what is left behind. -/
def scanInside (q : Char) : List Char → Option (List Char × List Char)
  | [] => none
  | [c] => if c = q then some ([], []) else none
  | c :: d :: rest =>
    if c = q then
      if d = q then (scanInside q rest).map fun (s, after) => (q :: s, after)
      else some ([], d :: rest)
    else (scanInside q (d :: rest)).map fun (s, after) => (c :: s, after)

theorem scanInside_cons_ne {q c : Char} (h : c ≠ q) (cs : List Char) :
    scanInside q (c :: cs) = (scanInside q cs).map fun (s, after) => (c :: s, after) := by
  cases cs with
  | nil => simp [scanInside, h]
  | cons d cs => simp [scanInside, h]

theorem scanInside_closing {q : Char} {rest : List Char} (h : rest.head? ≠ some q) :
    scanInside q (q :: rest) = some ([], rest) := by
  cases rest with
  | nil => simp [scanInside]
  | cons d rest =>
    have hd : d ≠ q := fun he => h (by simp [he])
    simp [scanInside, hd]

/-- The scanner takes a quoted text whole, whatever it holds. -/
theorem scanInside_doubled (q : Char) (cs : List Char) {rest : List Char}
    (h : rest.head? ≠ some q) :
    scanInside q (doubled q cs ++ q :: rest) = some (cs, rest) := by
  induction cs with
  | nil => exact scanInside_closing h
  | cons c cs ih =>
    by_cases hc : c = q
    · subst hc
      simp only [doubled, if_true, List.cons_append]
      rw [scanInside, if_pos rfl, if_pos rfl, ih]
      rfl
    · simp only [doubled, if_neg hc, List.cons_append]
      rw [scanInside_cons_ne hc, ih]
      rfl

theorem length_of_scanInside {q : Char} {cs s after : List Char}
    (h : scanInside q cs = some (s, after)) : after.length < cs.length := by
  induction cs using scanInside.induct q generalizing s after with
  | case1 => cases h
  | case2 =>
    simp only [scanInside, if_true, Option.some.injEq, Prod.mk.injEq] at h
    simp [← h.2]
  | case3 c hc => simp [scanInside, hc] at h
  | case4 rest ih =>
    simp only [scanInside, if_true] at h
    obtain ⟨⟨s', after'⟩, hscan, he⟩ := Option.map_eq_some_iff.1 h
    cases he
    have hlt := ih hscan
    simp only [List.length_cons]
    omega
  | case5 d rest hd =>
    simp only [scanInside, if_true, if_neg hd, Option.some.injEq, Prod.mk.injEq] at h
    simp [← h.2]
  | case6 c d rest hc ih =>
    simp only [scanInside, if_neg hc] at h
    obtain ⟨⟨s', after'⟩, hscan, he⟩ := Option.map_eq_some_iff.1 h
    cases he
    have hlt := ih hscan
    simp only [List.length_cons] at hlt ⊢
    omega

/-- The lexemes of a text. A quote character that nothing closes is a character like others. -/
def lexemes : List Char → List Lexeme
  | [] => []
  | c :: rest =>
    if isQuote c then
      match _h : scanInside c rest with
      | some (s, after) => .quoted c s :: lexemes after
      | none => .bare c :: lexemes rest
    else .bare c :: lexemes rest
termination_by cs => cs.length
decreasing_by
  · have hlt := length_of_scanInside ‹_›
    simp only [List.length_cons]
    omega
  · simp
  · simp

/-- The characters outside quotes. -/
def bareChars (lexemes : List Lexeme) : List Char :=
  lexemes.filterMap fun
    | .bare c => some c
    | .quoted _ _ => none

/-- The texts in quotes. -/
def quotedTexts (lexemes : List Lexeme) : List String :=
  lexemes.filterMap fun
    | .bare _ => none
    | .quoted _ s => some (String.ofList s)

@[simp] theorem bareChars_nil : bareChars [] = [] :=
  rfl

@[simp] theorem quotedTexts_nil : quotedTexts [] = [] :=
  rfl

@[simp] theorem bareChars_append (l m : List Lexeme) :
    bareChars (l ++ m) = bareChars l ++ bareChars m :=
  List.filterMap_append

@[simp] theorem quotedTexts_append (l m : List Lexeme) :
    quotedTexts (l ++ m) = quotedTexts l ++ quotedTexts m :=
  List.filterMap_append

@[simp] theorem bareChars_bare (c : Char) (l : List Lexeme) :
    bareChars (.bare c :: l) = c :: bareChars l :=
  rfl

@[simp] theorem bareChars_quoted (q : Char) (s : List Char) (l : List Lexeme) :
    bareChars (.quoted q s :: l) = bareChars l :=
  rfl

@[simp] theorem quotedTexts_bare (c : Char) (l : List Lexeme) :
    quotedTexts (.bare c :: l) = quotedTexts l :=
  rfl

@[simp] theorem quotedTexts_quoted (q : Char) (s : List Char) (l : List Lexeme) :
    quotedTexts (.quoted q s :: l) = String.ofList s :: quotedTexts l :=
  rfl

@[simp] theorem bareChars_map_bare (cs : List Char) : bareChars (cs.map .bare) = cs := by
  induction cs with
  | nil => rfl
  | cons c cs ih => rw [List.map_cons, bareChars_bare, ih]

@[simp] theorem quotedTexts_map_bare (cs : List Char) : quotedTexts (cs.map .bare) = [] := by
  induction cs with
  | nil => rfl
  | cons c cs ih => rw [List.map_cons, quotedTexts_bare, ih]

theorem mem_bareChars {c : Char} {l : List Lexeme} : c ∈ bareChars l ↔ .bare c ∈ l := by
  induction l with
  | nil => simp
  | cons lexeme l ih =>
    cases lexeme with
    | bare d => rw [bareChars_bare, List.mem_cons, ih, List.mem_cons, Lexeme.bare.injEq]
    | quoted q s => simp [ih]

/-! ## Lexemes of parts -/

/-- Whether no character of a text is a quote character. -/
def isQuoteless (cs : List Char) : Bool :=
  cs.all fun c => !isQuote c

theorem isQuoteless_iff {cs : List Char} :
    isQuoteless cs = true ↔ ∀ c ∈ cs, isQuote c = false := by
  simp [isQuoteless]

/-- A text that no quote character begins, so that a quoted text may stand in front of it. -/
def Unquoted (cs : List Char) : Prop :=
  ∀ c ∈ cs.head?, isQuote c = false

/-- The lexemes of a text, whatever stands behind it that no quote character begins. -/
def Lexes (cs : List Char) (l : List Lexeme) : Prop :=
  ∀ rest, Unquoted rest → lexemes (cs ++ rest) = l ++ lexemes rest

theorem Unquoted.nil : Unquoted [] := by
  simp [Unquoted]

theorem Unquoted.of_isQuoteless {cs : List Char} (h : isQuoteless cs = true) : Unquoted cs :=
  fun c hc => isQuoteless_iff.1 h c (List.mem_of_mem_head? hc)

/-- What opens a text decides. -/
theorem Unquoted.appendRight {cs : List Char} (hne : cs ≠ []) (h : isQuoteless cs = true)
    (ds : List Char) : Unquoted (cs ++ ds) := by
  cases cs with
  | nil => exact absurd rfl hne
  | cons c cs =>
    have hc := of_isQuoteless h
    simpa [Unquoted] using hc

theorem Unquoted.append {cs ds : List Char} (hc : Unquoted cs) (hd : Unquoted ds) :
    Unquoted (cs ++ ds) := by
  cases cs with
  | nil => exact hd
  | cons c cs => simpa [Unquoted] using hc

theorem lexemes_bare {c : Char} (h : isQuote c = false) (cs : List Char) :
    lexemes (c :: cs) = .bare c :: lexemes cs := by
  rw [lexemes, if_neg (by simp [h])]

theorem lexemes_quote {q : Char} (hq : isQuote q = true) {cs s after : List Char}
    (h : scanInside q cs = some (s, after)) :
    lexemes (q :: cs) = .quoted q s :: lexemes after := by
  rw [lexemes, if_pos hq]
  split
  · next s' after' hscan =>
    rw [h, Option.some.injEq, Prod.mk.injEq] at hscan
    rw [hscan.1, hscan.2]
  · next hscan =>
    rw [h] at hscan
    cases hscan

namespace Lexes

variable {cs ds : List Char} {l m : List Lexeme}

theorem eq (h : Lexes cs l) : lexemes cs = l := by
  have hnil := h [] Unquoted.nil
  rwa [List.append_nil, lexemes, List.append_nil] at hnil

theorem self (h : Lexes cs l) : Lexes cs (lexemes cs) := by
  rw [h.eq]
  exact h

theorem nil : Lexes [] [] :=
  fun _ _ => rfl

theorem bareAppend (cs : List Char) (h : isQuoteless cs = true) (hd : Lexes ds m) :
    Lexes (cs ++ ds) (cs.map .bare ++ m) := by
  intro rest hrest
  rw [isQuoteless_iff] at h
  induction cs with
  | nil => exact hd rest hrest
  | cons c cs ih =>
    show lexemes (c :: (cs ++ ds ++ rest)) = .bare c :: (cs.map .bare ++ m ++ lexemes rest)
    rw [lexemes_bare (h c (by simp)), ih fun e he => h e (List.mem_cons_of_mem _ he)]

theorem bare (cs : List Char) (h : isQuoteless cs = true) : Lexes cs (cs.map .bare) := by
  have happend := bareAppend cs h nil
  rwa [List.append_nil, List.append_nil] at happend

theorem quoted {q : Char} (hq : isQuote q = true) (s : String) :
    Lexes (Text.quoted q s).toList [.quoted q s.toList] := by
  intro rest hrest
  have hhead : rest.head? ≠ some q := by
    intro he
    have hq' := hrest q he
    rw [hq] at hq'
    cases hq'
  rw [toList_quoted, List.cons_append, List.append_assoc]
  exact lexemes_quote hq (scanInside_doubled q s.toList hhead)

theorem append (hc : Lexes cs l) (hd : Lexes ds m) (hu : Unquoted ds) :
    Lexes (cs ++ ds) (l ++ m) := by
  intro rest hrest
  rw [List.append_assoc, hc _ (hu.append hrest), hd rest hrest, List.append_assoc]

theorem appendBare (hc : Lexes cs l) (ds : List Char) (h : isQuoteless ds = true) :
    Lexes (cs ++ ds) (l ++ ds.map .bare) :=
  hc.append (bare ds h) (.of_isQuoteless h)

/-- A quoted text, characters outside quotes behind it, and what follows them. -/
theorem quotedThen {q : Char} (hq : isQuote q = true) (s : String) (cs : List Char) (hne : cs ≠ [])
    (h : isQuoteless cs = true) (hd : Lexes ds m) :
    Lexes ((Text.quoted q s).toList ++ (cs ++ ds)) (.quoted q s.toList :: (cs.map .bare ++ m)) :=
  (quoted hq s).append (bareAppend cs h hd) (.appendRight hne h ds)

/-- Parts between separators outside quotes. -/
theorem intercalate {α : Type} (separator : List Char) (hne : separator ≠ [])
    (hsep : isQuoteless separator = true) (items : List α) (text : α → List Char)
    (lex : α → List Lexeme) (h : ∀ a ∈ items, Lexes (text a) (lex a)) :
    Lexes (separator.intercalate (items.map text))
      ((separator.map Lexeme.bare).intercalate (items.map lex)) := by
  induction items with
  | nil => exact nil
  | cons a items ih =>
    have ha := h a (by simp)
    cases items with
    | nil => simpa using ha
    | cons b items =>
      have hrest := bareAppend separator hsep (ih fun e he => h e (List.mem_cons_of_mem _ he))
      simp only [List.map_cons, List.intercalate_cons_cons, List.append_assoc] at hrest ⊢
      exact ha.append hrest (.appendRight hne hsep _)

/-- Quoted texts in a list are its quoted texts, and only separators stand outside quotes. -/
theorem commaList {q : Char} (hq : isQuote q = true) (texts : List String) :
    ∃ l, Lexes (Text.commaList (texts.map (Text.quoted q))).toList l ∧ quotedTexts l = texts ∧
      ∀ c ∈ bareChars l, c = ',' ∨ c = ' ' := by
  induction texts with
  | nil => exact ⟨[], nil, rfl, by simp⟩
  | cons s texts ih =>
    cases texts with
    | nil => exact ⟨[.quoted q s.toList], quoted hq s, by simp, by simp⟩
    | cons t texts =>
      obtain ⟨l, hl, htexts, hbare⟩ := ih
      refine ⟨.quoted q s.toList :: .bare ',' :: .bare ' ' :: l, ?_, ?_, ?_⟩
      · rw [List.map_cons, List.map_cons, toList_commaList_cons_cons, ← List.map_cons]
        exact quotedThen hq s [',', ' '] (by decide) (by decide) hl
      · simp [htexts]
      · simpa using hbare

end Lexes

end SchemaSync.Text
