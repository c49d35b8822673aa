/-
String literals as MySQL reads them.

In its default mode MySQL takes a backslash in a literal for the begin of an
escape. Quoting doubles the quotes of a text and leaves its backslashes, so
the text is read back just if each backslash stands in front of a wildcard of
LIKE, where it is kept (`scanMySql_doubled_iff`).

`mySqlLiterals` reads the literals of a whole text. The laws at the end say
what it reads of the pieces of a column definition, so that the definition
can be read from left to right.
-/
import SchemaSync.Proofs.Text.Boundary

namespace SchemaSync.Text

/-- Whether a character is a wildcard of LIKE. -/
def isWildcard (c : Char) : Bool :=
  c = '%' || c = '_'

/-- What a backslash and the character behind it stand for in a literal. In front of a wildcard the
backslash is kept for LIKE, and in front of all but a few letters it is dropped. -/
def escapeValue : Char → List Char
  | '%' => ['\\', '%']
  | '_' => ['\\', '_']
  | '0' => ['\x00']
  | 'b' => ['\x08']
  | 'n' => ['\n']
  | 'r' => ['\r']
  | 't' => ['\t']
  | 'Z' => ['\x1a']
  | c => [c]

/-- The text up to the quote character that closes it, and what is left behind. Escapes are read in
literals only: in the quotes of an identifier a backslash is a character like others. -/
def scanMySql (q : Char) : List Char → Option (List Char × List Char)
  | [] => none
  | [c] => if c = q then some ([], []) else none
  | c :: d :: rest =>
    if c = '\\' ∧ q ≠ '\x60' then
      (scanMySql q rest).map fun (s, after) => (escapeValue d ++ s, after)
    else if c = q then
      if d = q then (scanMySql q rest).map fun (s, after) => (q :: s, after)
      else some ([], d :: rest)
    else (scanMySql q (d :: rest)).map fun (s, after) => (c :: s, after)

theorem length_of_scanMySql {q : Char} {cs s after : List Char}
    (h : scanMySql q cs = some (s, after)) : after.length < cs.length := by
  induction cs using scanMySql.induct q generalizing s after with
  | case1 => cases h
  | case2 =>
    simp only [scanMySql, if_true, Option.some.injEq, Prod.mk.injEq] at h
    simp [← h.2]
  | case3 c hc => simp [scanMySql, hc] at h
  | case4 c d rest hc ih =>
    rw [scanMySql, if_pos hc] at h
    obtain ⟨⟨s', after'⟩, hscan, he⟩ := Option.map_eq_some_iff.1 h
    cases he
    have hlt := ih hscan
    simp only [List.length_cons]
    omega
  | case5 rest hc ih =>
    rw [scanMySql, if_neg hc, if_pos rfl, if_pos rfl] at h
    obtain ⟨⟨s', after'⟩, hscan, he⟩ := Option.map_eq_some_iff.1 h
    cases he
    have hlt := ih hscan
    simp only [List.length_cons]
    omega
  | case6 d rest hc hd =>
    rw [scanMySql, if_neg hc, if_pos rfl, if_neg hd, Option.some.injEq, Prod.mk.injEq] at h
    simp [← h.2]
  | case7 c d rest hc hq ih =>
    rw [scanMySql, if_neg hc, if_neg hq] at h
    obtain ⟨⟨s', after'⟩, hscan, he⟩ := Option.map_eq_some_iff.1 h
    cases he
    have hlt := ih hscan
    simp only [List.length_cons] at hlt ⊢
    omega

/-- The literals that MySQL reads in a text, comments aside, up to the end of the text or to a quote
character that nothing closes. -/
def mySqlLiterals : List Char → List String
  | [] => []
  | c :: rest =>
    if isQuote c then
      match _h : scanMySql c rest with
      | some (s, after) =>
        if c = '\x60' then mySqlLiterals after else String.ofList s :: mySqlLiterals after
      | none => []
    else mySqlLiterals rest
termination_by cs => cs.length
decreasing_by
  · have hlt := length_of_scanMySql ‹_›
    simp only [List.length_cons]
    omega
  · have hlt := length_of_scanMySql ‹_›
    simp only [List.length_cons]
    omega
  · simp

/-- Whether every backslash stands in front of a wildcard. -/
def keepsBackslashes : List Char → Bool
  | [] => true
  | c :: cs => (c ≠ '\\' || cs.head?.any isWildcard) && keepsBackslashes cs

/-! ## Escapes -/

theorem isWildcard_iff {c : Char} : isWildcard c = true ↔ c = '%' ∨ c = '_' := by
  simp [isWildcard]

theorem ne_of_isWildcard {c : Char} (h : isWildcard c = true) : c ≠ '\\' ∧ c ≠ '\'' := by
  rcases isWildcard_iff.1 h with rfl | rfl <;> decide

theorem escapeValue_wildcard {c : Char} (h : isWildcard c = true) : escapeValue c = ['\\', c] := by
  rcases isWildcard_iff.1 h with rfl | rfl <;> rfl

/-- Other escapes stand for one character, and for a backslash only if it is one. -/
theorem escapeValue_other {c : Char} (hw : isWildcard c = false) (hc : c ≠ '\\') :
    ∃ x, escapeValue c = [x] ∧ x ≠ '\\' := by
  unfold escapeValue
  split
  case h_1 | h_2 => cases hw
  case h_9 => exact ⟨c, rfl, hc⟩
  all_goals exact ⟨_, rfl, by decide⟩

variable {q c d : Char} {s t cs rest after : List Char}

theorem scanMySql_closing (hq : q ≠ '\\') (h : rest.head? ≠ some q) :
    scanMySql q (q :: rest) = some ([], rest) := by
  cases rest with
  | nil => simp [scanMySql]
  | cons d rest =>
    have hd : d ≠ q := fun he => h (by simp [he])
    simp [scanMySql, hq, hd]

theorem scanMySql_pair (hq : q ≠ '\\') :
    scanMySql q (q :: q :: cs) = (scanMySql q cs).map fun (s, after) => (q :: s, after) := by
  simp [scanMySql, hq]

theorem scanMySql_escape (hq : q ≠ '\x60') :
    scanMySql q ('\\' :: d :: cs) =
      (scanMySql q cs).map fun (s, after) => (escapeValue d ++ s, after) := by
  simp [scanMySql, hq]

theorem scanMySql_cons_ne (hc : c ≠ '\\') (hq : c ≠ q) :
    scanMySql q (c :: cs) = (scanMySql q cs).map fun (s, after) => (c :: s, after) := by
  cases cs with
  | nil => simp [scanMySql, hq]
  | cons d cs => simp [scanMySql, hc, hq]

/-- An escape stands for a text that begins with a backslash in two cases. -/
theorem scanMySql_eq_backslash (hq : q ≠ '\x60')
    (h : scanMySql q ('\\' :: d :: cs) = some ('\\' :: t, after)) :
    d = '\\' ∧ scanMySql q cs = some (t, after) ∨
      isWildcard d = true ∧ ∃ s, t = d :: s ∧ scanMySql q cs = some (s, after) := by
  rw [scanMySql_escape hq] at h
  obtain ⟨⟨s, after'⟩, hscan, he⟩ := Option.map_eq_some_iff.1 h
  simp only [Prod.mk.injEq] at he
  obtain ⟨hs, rfl⟩ := he
  by_cases hd : d = '\\'
  · subst hd
    exact .inl ⟨rfl, by rw [hscan, ← (List.cons.inj hs).2]; rfl⟩
  · cases hw : isWildcard d with
    | true =>
      rw [escapeValue_wildcard hw] at hs
      exact .inr ⟨rfl, s, (List.cons.inj hs).2.symm, hscan⟩
    | false =>
      obtain ⟨x, hx, hne⟩ := escapeValue_other hw hd
      rw [hx] at hs
      exact absurd (List.cons.inj hs).1 hne

/-! ## Texts in quotes -/

theorem scanMySql_doubled_cons (hc : c ≠ '\\') :
    scanMySql '\'' (doubled '\'' (c :: s) ++ cs) =
      (scanMySql '\'' (doubled '\'' s ++ cs)).map fun (s, after) => (c :: s, after) := by
  by_cases hquote : c = '\''
  · subst hquote
    simp only [doubled, if_true, List.cons_append]
    exact scanMySql_pair (by decide)
  · simp only [doubled, if_neg hquote, List.cons_append]
    exact scanMySql_cons_ne hc hquote

theorem scanMySql_of_keepsBackslashes (hr : rest.head? ≠ some '\'')
    (h : keepsBackslashes s = true) :
    scanMySql '\'' (doubled '\'' s ++ '\'' :: rest) = some (s, rest) := by
  induction s with
  | nil => exact scanMySql_closing (by decide) hr
  | cons c s ih =>
    rw [keepsBackslashes, Bool.and_eq_true] at h
    have hscan := ih h.2
    by_cases hc : c = '\\'
    · subst hc
      cases s with
      | nil => simp at h
      | cons d s =>
        have hd : isWildcard d = true := by simpa using h.1
        obtain ⟨hback, hquote⟩ := ne_of_isWildcard hd
        rw [scanMySql_doubled_cons hback] at hscan
        obtain ⟨⟨s', after⟩, hscan, he⟩ := Option.map_eq_some_iff.1 hscan
        simp only [Prod.mk.injEq, List.cons.injEq, true_and] at he
        obtain ⟨rfl, rfl⟩ := he
        simp only [doubled, if_neg hquote, if_neg (show '\\' ≠ '\'' by decide), List.cons_append]
        rw [scanMySql_escape (by decide), hscan, escapeValue_wildcard hd]
        rfl
    · rw [scanMySql_doubled_cons hc, hscan]
      rfl

theorem replicate_append_eq_cons {k : Nat} (hd : d ≠ '\\')
    (h : List.replicate k '\\' ++ c :: s = d :: t) : k = 0 ∧ s = t := by
  cases k with
  | zero => exact ⟨rfl, (List.cons.inj h).2⟩
  | succ k => exact absurd (List.cons.inj h).1.symm hd

theorem replicate_append_backslash (k : Nat) (s : List Char) :
    List.replicate k '\\' ++ '\\' :: s = '\\' :: (List.replicate k '\\' ++ s) := by
  rw [← List.cons_append, ← List.replicate_succ, List.replicate_succ', List.append_assoc,
    List.singleton_append]

/-- A backslash that is lost is never made up for: what is read of the rest would have to begin
with the `k` backslashes that are missing so far. -/
theorem keepsBackslashes_of_scanMySql (hr : rest.head? ≠ some '\'') :
    ∀ (s : List Char) (k : Nat) {after : List Char},
      scanMySql '\'' (doubled '\'' s ++ '\'' :: rest) = some (List.replicate k '\\' ++ s, after) →
        k = 0 ∧ keepsBackslashes s = true ∧ after = rest
  | [], k, after, h => by
    change scanMySql '\'' ('\'' :: rest) = _ at h
    rw [scanMySql_closing (by decide) hr] at h
    cases k with
    | zero => exact ⟨rfl, rfl, by simpa using h.symm⟩
    | succ k => simp [List.replicate_succ] at h
  | c :: s, k, after, h => by
    by_cases hc : c = '\\'
    · subst hc
      rw [replicate_append_backslash] at h
      simp only [doubled, if_neg (show '\\' ≠ '\'' by decide), List.cons_append] at h
      -- The character behind the backslash is the next one of the text, or a quote.
      cases s with
      | nil => rcases scanMySql_eq_backslash (by decide) h with ⟨he, -⟩ | ⟨he, -⟩ <;> cases he
      | cons d s =>
        by_cases hquote : d = '\''
        · subst hquote
          simp only [doubled, if_true, List.cons_append] at h
          rcases scanMySql_eq_backslash (by decide) h with ⟨he, -⟩ | ⟨he, -⟩ <;> cases he
        · simp only [doubled, if_neg hquote, List.cons_append] at h
          rcases scanMySql_eq_backslash (by decide) h with ⟨rfl, hscan⟩ | ⟨hd, t, ht, hscan⟩
          · rw [replicate_append_backslash, ← List.cons_append, ← List.replicate_succ] at hscan
            exact absurd (keepsBackslashes_of_scanMySql hr s (k + 1) hscan).1 (by simp)
          · have hback := (ne_of_isWildcard hd).1
            obtain ⟨rfl, rfl⟩ := replicate_append_eq_cons hback ht
            obtain ⟨-, hs, hafter⟩ := keepsBackslashes_of_scanMySql hr s 0 hscan
            exact ⟨rfl, by simp [keepsBackslashes, hd, hback, hs], hafter⟩
    · rw [scanMySql_doubled_cons hc] at h
      obtain ⟨⟨t, after'⟩, hscan, he⟩ := Option.map_eq_some_iff.1 h
      simp only [Prod.mk.injEq] at he
      obtain ⟨ht, rfl⟩ := he
      obtain ⟨rfl, rfl⟩ := replicate_append_eq_cons hc ht.symm
      obtain ⟨-, hs, hafter⟩ := keepsBackslashes_of_scanMySql hr s 0 hscan
      exact ⟨rfl, by simp [keepsBackslashes, hc, hs], hafter⟩

/-- A text in quotes is read back whole just if it keeps its backslashes. -/
theorem scanMySql_doubled_iff (hr : rest.head? ≠ some '\'') :
    scanMySql '\'' (doubled '\'' s ++ '\'' :: rest) = some (s, after) ↔
      keepsBackslashes s = true ∧ after = rest := by
  constructor
  · intro h
    exact (keepsBackslashes_of_scanMySql hr s 0 h).2
  · rintro ⟨hs, rfl⟩
    exact scanMySql_of_keepsBackslashes hr hs

/-! ## Pieces of a text -/

theorem mySqlLiterals_cons_quote (hq : isQuote q = true)
    (h : scanMySql q cs = some (s, after)) :
    mySqlLiterals (q :: cs) =
      if q = '\x60' then mySqlLiterals after else String.ofList s :: mySqlLiterals after := by
  rw [mySqlLiterals, if_pos hq]
  split
  · next hscan =>
    rw [h, Option.some.injEq, Prod.mk.injEq] at hscan
    rw [hscan.1, hscan.2]
  · next hscan =>
    rw [h] at hscan
    cases hscan

theorem mySqlLiterals_unclosed (hq : isQuote q = true) (h : scanMySql q cs = none) :
    mySqlLiterals (q :: cs) = [] := by
  rw [mySqlLiterals, if_pos hq]
  split
  · next hscan =>
    rw [h] at hscan
    cases hscan
  · rfl

theorem mySqlLiterals_bare (h : isQuoteless cs = true) (rest : List Char) :
    mySqlLiterals (cs ++ rest) = mySqlLiterals rest := by
  rw [isQuoteless_iff] at h
  induction cs with
  | nil => rfl
  | cons c cs ih =>
    obtain ⟨hc, hcs⟩ := List.forall_mem_cons.1 h
    rw [List.cons_append, mySqlLiterals, if_neg (by simp [hc]), ih hcs]

theorem mySqlLiterals_of_isQuoteless (h : isQuoteless cs = true) : mySqlLiterals cs = [] := by
  have hbare := mySqlLiterals_bare h []
  rwa [List.append_nil, mySqlLiterals] at hbare

theorem scanMySql_identifier (cs : List Char) : scanMySql '\x60' cs = scanInside '\x60' cs := by
  induction cs using scanInside.induct '\x60' with
  | case1 => rfl
  | case2 => simp [scanMySql, scanInside]
  | case3 c hc => simp [scanMySql, scanInside, hc]
  | case4 rest ih => simp [scanMySql, scanInside, ih]
  | case5 d rest hd => simp [scanMySql, scanInside, hd]
  | case6 c d rest hc ih => simp [scanMySql, scanInside, hc, ih]

theorem mySqlLiterals_identifier (name : String) (hr : rest.head? ≠ some '\x60') :
    mySqlLiterals ((quoted '\x60' name).toList ++ rest) = mySqlLiterals rest := by
  have hscan : scanMySql '\x60' (doubled '\x60' name.toList ++ '\x60' :: rest) =
      some (name.toList, rest) := by
    rw [scanMySql_identifier, scanInside_doubled '\x60' _ hr]
  rw [toList_quoted, List.cons_append, List.append_assoc, List.singleton_append,
    mySqlLiterals_cons_quote (by decide) hscan, if_pos rfl]

/-- A literal is read as the text that it was made of just if that keeps its backslashes, and then
reading goes on behind it. -/
theorem mySqlLiterals_literal_iff {text : String} {texts : List String}
    (hr : rest.head? ≠ some '\'') :
    mySqlLiterals ((quoted '\'' text).toList ++ rest) = text :: texts ↔
      keepsBackslashes text.toList = true ∧ mySqlLiterals rest = texts := by
  rw [toList_quoted, List.cons_append, List.append_assoc, List.singleton_append]
  constructor
  · intro h
    cases hscan : scanMySql '\'' (doubled '\'' text.toList ++ '\'' :: rest) with
    | none =>
      rw [mySqlLiterals_unclosed (by decide) hscan] at h
      cases h
    | some read =>
      obtain ⟨s, after⟩ := read
      rw [mySqlLiterals_cons_quote (by decide) hscan, if_neg (by decide), List.cons.injEq] at h
      obtain ⟨hs, hafter⟩ := h
      rw [← String.toList_ofList (l := s), hs] at hscan
      obtain ⟨hkeeps, rfl⟩ := (scanMySql_doubled_iff hr).1 hscan
      exact ⟨hkeeps, hafter⟩
  · rintro ⟨hkeeps, rfl⟩
    have hscan := (scanMySql_doubled_iff hr).2 ⟨hkeeps, rfl⟩
    rw [mySqlLiterals_cons_quote (by decide) hscan, if_neg (by decide), String.ofList_toList]

theorem laterQuoted_head_ne (labels : List String) (hr : rest.head? ≠ some '\'') :
    (laterQuoted '\'' labels ++ rest).head? ≠ some '\'' := by
  cases labels with
  | nil => exact hr
  | cons l labels => simp [laterQuoted]

theorem mySqlLiterals_laterQuoted_iff {labels texts : List String} (hr : rest.head? ≠ some '\'') :
    mySqlLiterals (laterQuoted '\'' labels ++ rest) = labels ++ texts ↔
      (∀ l ∈ labels, keepsBackslashes l.toList = true) ∧ mySqlLiterals rest = texts := by
  induction labels with
  | nil => simp [laterQuoted]
  | cons l labels ih =>
    have hchars : laterQuoted '\'' (l :: labels) ++ rest =
        [',', ' '] ++ ((quoted '\'' l).toList ++ (laterQuoted '\'' labels ++ rest)) := by
      simp [laterQuoted]
    rw [hchars, mySqlLiterals_bare (by decide), List.cons_append,
      mySqlLiterals_literal_iff (laterQuoted_head_ne labels hr), ih, List.forall_mem_cons,
      and_assoc]

/-- A list of literals is read as its texts just if all of them keep their backslashes. -/
theorem mySqlLiterals_commaList_iff {labels texts : List String} (hr : rest.head? ≠ some '\'') :
    mySqlLiterals ((commaList (labels.map (quoted '\''))).toList ++ rest) = labels ++ texts ↔
      (∀ l ∈ labels, keepsBackslashes l.toList = true) ∧ mySqlLiterals rest = texts := by
  cases labels with
  | nil => simp [commaList]
  | cons l labels =>
    rw [commaList_quoted_cons, List.append_assoc, List.cons_append,
      mySqlLiterals_literal_iff (laterQuoted_head_ne labels hr), mySqlLiterals_laterQuoted_iff hr,
      List.forall_mem_cons, and_assoc]

/-! ## Characters behind a text -/

theorem scanMySql_eq_none (h : q ∉ cs) : scanMySql q cs = none := by
  induction cs using scanMySql.induct q with
  | case1 => rfl
  | case2 => simp at h
  | case3 c hc => simp [scanMySql, hc]
  | case4 c d rest hc ih =>
    rw [scanMySql, if_pos hc, ih fun hq => h (by simp [hq])]
    rfl
  | case5 rest hc ih => simp at h
  | case6 d rest hc hd => simp at h
  | case7 c d rest hc hq ih =>
    rw [scanMySql, if_neg hc, if_neg hq, ih fun hmem => h (List.mem_cons_of_mem _ hmem)]
    rfl

/-- What is read up to a closing quote does not depend on characters at the end of the text that
could not close it. -/
theorem scanMySql_append {tail : List Char} (hq : q ≠ '\\') (h : q ∉ tail) (cs : List Char) :
    scanMySql q (cs ++ tail) = (scanMySql q cs).map fun (s, after) => (s, after ++ tail) := by
  have hhead : tail.head? ≠ some q := fun he => h (List.mem_of_mem_head? he)
  induction cs using scanMySql.induct q with
  | case1 => exact scanMySql_eq_none h
  | case2 =>
    rw [List.singleton_append, scanMySql_closing hq hhead]
    simp [scanMySql]
  | case3 c hc =>
    rw [List.singleton_append, scanMySql_eq_none (by simp [h, Ne.symm hc])]
    simp [scanMySql, hc]
  | case4 c d rest hc ih =>
    simp only [List.cons_append, scanMySql, if_pos hc, ih, Option.map_map]
    rfl
  | case5 rest hc ih =>
    simp only [List.cons_append, scanMySql, if_neg hc, if_true, ih, Option.map_map]
    rfl
  | case6 d rest hc hd =>
    simp only [List.cons_append, scanMySql, if_neg hc, if_true, if_neg hd]
    rfl
  | case7 c d rest hc hq' ih =>
    simp only [List.cons_append] at ih ⊢
    simp only [scanMySql, if_neg hc, if_neg hq', ih, Option.map_map]
    rfl

/-- Characters outside quotes at the end of a text add no literal to it. -/
theorem mySqlLiterals_append_bare {tail : List Char} (h : isQuoteless tail = true)
    (cs : List Char) : mySqlLiterals (cs ++ tail) = mySqlLiterals cs := by
  have hscan : ∀ {q : Char}, isQuote q = true → ∀ cs : List Char,
      scanMySql q (cs ++ tail) = (scanMySql q cs).map fun (s, after) => (s, after ++ tail) := by
    intro q hq
    refine scanMySql_append ?_ fun hmem => ?_
    · rintro rfl
      cases hq
    · rw [isQuoteless_iff.1 h q hmem] at hq
      cases hq
  induction cs using mySqlLiterals.induct with
  | case1 => rw [List.nil_append, mySqlLiterals_of_isQuoteless h, mySqlLiterals]
  | case2 rest s after hq hs ih =>
    rw [List.cons_append, mySqlLiterals_cons_quote hq (by rw [hscan hq, hs]; rfl), ih,
      mySqlLiterals_cons_quote hq hs]
  | case3 c rest hq s after hs hc ih =>
    rw [List.cons_append, mySqlLiterals_cons_quote hq (by rw [hscan hq, hs]; rfl), ih,
      mySqlLiterals_cons_quote hq hs, if_neg hc]
  | case4 c rest hq hs =>
    rw [List.cons_append, mySqlLiterals_unclosed hq (by rw [hscan hq, hs]; rfl),
      mySqlLiterals_unclosed hq hs]
  | case5 c rest hq ih =>
    rw [List.cons_append, mySqlLiterals, if_neg hq, ih, mySqlLiterals, if_neg hq]

end SchemaSync.Text
