/-
Spellings of a type text. A catalog need not print a type as a definition
writes it: outside quotes the case of letters is its own, and so are the
blanks around commas. `spelling` brings both to one form and keeps what
stands in single quotes, so two texts print one type when their spellings
are equal.

The first part computes spellings, the second goes back: what the parts of
a spelling say about the parts of the text.
-/
import SchemaSync.Proofs.Catalog.NativeType

namespace SchemaSync.Catalog

open Text

/-- Whether a comma comes next, behind blanks or at once. -/
def beforeComma (cs : List Char) : Bool :=
  (cs.dropWhile isBlank).head? == some ','

/-- A text in capital letters and without blanks around commas, save for what is quoted. -/
def spelling : (quoted afterComma : Bool) → List Char → List Char
  | _, _, [] => []
  | true, _, c :: cs => c :: spelling (c != '\'') false cs
  | false, afterComma, c :: cs =>
    if isBlank c && (afterComma || beforeComma cs) then spelling false afterComma cs
    else c.toUpper :: spelling (c == '\'') (c == ',') cs

/-- Two prints of one type text. -/
def SameSpelling (s t : String) : Prop :=
  spelling false false s.toList = spelling false false t.toList

instance (s t : String) : Decidable (SameSpelling s t) :=
  inferInstanceAs (Decidable (spelling false false s.toList = spelling false false t.toList))

/-! ## Letters -/

theorem isUpper_iff {c : Char} : c.isUpper = true ↔ 65 ≤ c.toNat ∧ c.toNat ≤ 90 :=
  decide_eq_true_iff

theorem isLower_iff {c : Char} : c.isLower = true ↔ 97 ≤ c.toNat ∧ c.toNat ≤ 122 :=
  Bool.and_eq_true_iff.trans (and_congr decide_eq_true_iff decide_eq_true_iff)

theorem isAlpha_iff {c : Char} : c.isAlpha = true ↔ c.isUpper = true ∨ c.isLower = true :=
  Bool.or_eq_true_iff

theorem toNat_lt_of_isAlpha {c : Char} (h : c.isAlpha = true) :
    64 < c.toNat ∧ c.toNat < 123 := by
  rw [isAlpha_iff, isUpper_iff, isLower_iff] at h
  omega

/-- A character is its own capital, or it is a small letter and its capital a capital letter. -/
theorem toUpper_eq_or (x : Char) :
    x.toUpper = x ∨ x.isLower = true ∧ x.toUpper.isUpper = true := by
  rw [isLower_iff, isUpper_iff]
  by_cases h : 97 ≤ x.toNat ∧ x.toNat ≤ 122
  · have hcapital : x.toUpper.toNat = (x.toNat + (2 ^ 32 - 32)) % 2 ^ 32 :=
      (congrArg Char.toNat (dif_pos h)).trans (UInt32.toNat_add _ _)
    omega
  · exact .inl (dif_neg h)

theorem toUpper_eq_self {x : Char} (h : ¬ x.isLower = true) : x.toUpper = x :=
  (toUpper_eq_or x).resolve_right fun hlower => h hlower.1

theorem eq_of_toUpper_eq {x c : Char} (h : x.toUpper = c) (hc : c.isUpper = false) : x = c := by
  rcases toUpper_eq_or x with he | ⟨-, hupper⟩
  · rw [← h, he]
  · rw [h, hc] at hupper
    cases hupper

theorem isAlpha_of_toUpper_eq {x c : Char} (h : x.toUpper = c) (hc : c.isUpper = true) :
    x.isAlpha = true := by
  rw [isAlpha_iff]
  rcases toUpper_eq_or x with he | ⟨hlower, -⟩
  · exact .inl (by rw [← he, h, hc])
  · exact .inr hlower

theorem isBlank_of_isAlpha {c : Char} (h : c.isAlpha = true) : isBlank c = false := by
  obtain ⟨h₁, h₂⟩ := toNat_lt_of_isAlpha h
  rw [← Bool.not_eq_true, isBlank_ascii (by omega)]
  omega

/-! ## Spellings of texts -/

/-- A character that is spelled as it is, wherever it stands. -/
def IsPlain (c : Char) : Prop :=
  isBlank c = false ∧ c.toUpper = c ∧ c ≠ '\'' ∧ c ≠ ','

instance (c : Char) : Decidable (IsPlain c) :=
  inferInstanceAs (Decidable (_ ∧ _))

theorem spelling_cons {c : Char} (h : isBlank c = false) (after : Bool) (cs : List Char) :
    spelling false after (c :: cs) = c.toUpper :: spelling (c == '\'') (c == ',') cs := by
  simp [spelling, h]

theorem spelling_plain {w : List Char} (h : ∀ c ∈ w, IsPlain c) (hne : w ≠ []) (after : Bool)
    (rest : List Char) : spelling false after (w ++ rest) = w ++ spelling false false rest := by
  induction w generalizing after with
  | nil => exact absurd rfl hne
  | cons c w ih =>
    obtain ⟨hb, hu, hq, hc⟩ := h c (by simp)
    have hq' : (c == '\'') = false := by simpa using hq
    have hc' : (c == ',') = false := by simpa using hc
    rw [List.cons_append, spelling_cons hb, hu, hq', hc']
    cases w with
    | nil => rfl
    | cons d w => rw [ih (fun e he => h e (List.mem_cons_of_mem _ he)) (by simp)]; rfl

theorem spelling_inside_doubled (cs : List Char) (after : Bool) (rest : List Char) :
    spelling true after (doubled '\'' cs ++ ['\''] ++ rest) =
      doubled '\'' cs ++ ['\''] ++ spelling false false rest := by
  induction cs generalizing after with
  | nil => rfl
  | cons c cs ih =>
    by_cases hc : c = '\''
    · subst hc
      simp only [doubled, if_true, List.cons_append]
      rw [spelling, bne_self_eq_false, spelling_cons (by decide), beq_self_eq_true, ih]
      rfl
    · have hne : (c != '\'') = true := by simpa using hc
      simp only [doubled, if_neg hc, List.cons_append]
      rw [spelling, hne, ih]

theorem spelling_literal (l : String) (after : Bool) (rest : List Char) :
    spelling false after ((literal l).toList ++ rest) =
      (literal l).toList ++ spelling false false rest := by
  rw [toList_literal, List.cons_append, spelling_cons (by decide), beq_self_eq_true,
    spelling_inside_doubled]
  rfl

/-! ## Texts of a spelling -/

theorem spelling_of_beforeComma {cs : List Char} (h : beforeComma cs = true) (after : Bool) :
    ∃ rest, spelling false after cs = ',' :: rest := by
  induction cs with
  | nil => simp [beforeComma] at h
  | cons c cs ih =>
    by_cases hb : isBlank c = true
    · have h' : beforeComma cs = true := by
        rw [← h, beforeComma, beforeComma, List.dropWhile_cons_of_pos hb]
      obtain ⟨rest, hrest⟩ := ih h'
      exact ⟨rest, by rw [spelling, if_pos (by simp [hb, h']), hrest]⟩
    · have hc : c = ',' := by
        rw [beforeComma, List.dropWhile_cons_of_neg hb] at h
        simpa using h
      subst hc
      exact ⟨_, spelling_cons (by decide) after cs⟩

theorem spelling_eq_nil {cs : List Char} (h : spelling false false cs = []) : cs = [] := by
  cases cs with
  | nil => rfl
  | cons c cs =>
    rw [spelling] at h
    split at h
    · next hdrop =>
      simp only [Bool.false_or, Bool.and_eq_true] at hdrop
      obtain ⟨rest, hrest⟩ := spelling_of_beforeComma hdrop.2 false
      rw [hrest] at h
      cases h
    · cases h

/-- A spelling that begins with anything but a comma is that of the first character and the rest. -/
theorem spelling_eq_cons {c : Char} {cs rest : List Char} (hc : c ≠ ',')
    (h : spelling false false cs = c :: rest) :
    ∃ x ds, cs = x :: ds ∧ x.toUpper = c ∧ spelling (x == '\'') (x == ',') ds = rest := by
  cases cs with
  | nil => cases h
  | cons x ds =>
    rw [spelling] at h
    split at h
    · next hdrop =>
      simp only [Bool.false_or, Bool.and_eq_true] at hdrop
      obtain ⟨rest', hrest⟩ := spelling_of_beforeComma hdrop.2 false
      rw [hrest, List.cons.injEq] at h
      exact absurd h.1.symm hc
    · rw [List.cons.injEq] at h
      exact ⟨x, ds, rfl, h.1, h.2⟩

theorem spelling_eq_word {w cs rest : List Char} (hw : ∀ c ∈ w, c ≠ '\'' ∧ c ≠ ',')
    (h : spelling false false cs = w ++ rest) :
    ∃ x ds, cs = x ++ ds ∧ x.map Char.toUpper = w ∧ spelling false false ds = rest := by
  induction w generalizing cs with
  | nil => exact ⟨[], cs, rfl, rfl, h⟩
  | cons c w ih =>
    obtain ⟨hq, hc⟩ := hw c (by simp)
    obtain ⟨x, ds, rfl, hx, hds⟩ := spelling_eq_cons hc h
    have hxq : (x == '\'') = false := by
      simp only [beq_eq_false_iff_ne]
      rintro rfl
      exact hq hx.symm
    have hxc : (x == ',') = false := by
      simp only [beq_eq_false_iff_ne]
      rintro rfl
      exact hc hx.symm
    rw [hxq, hxc] at hds
    obtain ⟨y, es, rfl, hy, hes⟩ := ih (fun d hd => hw d (List.mem_cons_of_mem _ hd)) hds
    exact ⟨x :: y, es, rfl, by rw [List.map_cons, hx, hy], hes⟩

/-- Behind a comma there may be blanks that the spelling leaves out. -/
theorem spelling_eq_after {after : Bool} {c : Char} {cs rest : List Char}
    (h : spelling false after cs = c :: rest) :
    ∃ gap ds, cs = gap ++ ds ∧ (∀ b ∈ gap, isBlank b = true) ∧
      spelling false false ds = c :: rest := by
  cases after with
  | false => exact ⟨[], cs, rfl, by simp, h⟩
  | true =>
    induction cs with
    | nil => cases h
    | cons x cs ih =>
      by_cases hx : isBlank x = true
      · rw [spelling, if_pos (by simp [hx])] at h
        obtain ⟨gap, ds, rfl, hgap, hds⟩ := ih h
        exact ⟨x :: gap, ds, rfl, by simpa [hx] using hgap, hds⟩
      · rw [Bool.not_eq_true] at hx
        exact ⟨[], x :: cs, rfl, by simp, by rw [spelling_cons hx] at h ⊢; exact h⟩

/-- In front of a comma there may be blanks that the spelling leaves out. -/
theorem spelling_eq_comma {cs rest : List Char} (h : spelling false false cs = ',' :: rest) :
    ∃ gap ds, cs = gap ++ ',' :: ds ∧ (∀ b ∈ gap, isBlank b = true) ∧
      spelling false true ds = rest := by
  induction cs with
  | nil => cases h
  | cons x cs ih =>
    rw [spelling] at h
    split at h
    · next hdrop =>
      simp only [Bool.and_eq_true] at hdrop
      obtain ⟨gap, ds, rfl, hgap, hds⟩ := ih h
      exact ⟨x :: gap, ds, rfl, by simpa [hdrop.1] using hgap, hds⟩
    · rw [List.cons.injEq] at h
      obtain rfl := eq_of_toUpper_eq h.1 (by decide)
      exact ⟨[], cs, rfl, by simp, h.2⟩

theorem spelling_eq_quote {cs rest : List Char} (h : spelling false false cs = '\'' :: rest) :
    ∃ ds, cs = '\'' :: ds ∧ spelling true false ds = rest := by
  obtain ⟨x, ds, rfl, hx, hds⟩ := spelling_eq_cons (by decide) h
  obtain rfl := eq_of_toUpper_eq hx (by decide)
  exact ⟨ds, rfl, hds⟩

/-- Inside quotes a spelling begins with the first character itself. -/
theorem spelling_inside_eq_cons {c : Char} {cs rest : List Char}
    (h : spelling true false cs = c :: rest) :
    ∃ ds, cs = c :: ds ∧ spelling (c != '\'') false ds = rest := by
  cases cs with
  | nil => cases h
  | cons x ds =>
    rw [spelling, List.cons.injEq] at h
    obtain ⟨hx, hds⟩ := h
    subst hx
    exact ⟨ds, rfl, hds⟩

theorem spelling_inside_eq_doubled {label cs rest : List Char}
    (h : spelling true false cs = doubled '\'' label ++ ['\''] ++ rest) :
    ∃ ds, cs = doubled '\'' label ++ ['\''] ++ ds ∧ spelling false false ds = rest := by
  induction label generalizing cs with
  | nil => exact spelling_inside_eq_cons h
  | cons c label ih =>
    by_cases hc : c = '\''
    · subst hc
      simp only [doubled, if_true, List.cons_append] at h ⊢
      obtain ⟨ds, rfl, hds⟩ := spelling_inside_eq_cons h
      obtain ⟨es, rfl, hes⟩ := spelling_eq_quote hds
      obtain ⟨fs, rfl, hfs⟩ := ih hes
      exact ⟨fs, rfl, hfs⟩
    · simp only [doubled, if_neg hc, List.cons_append] at h ⊢
      obtain ⟨ds, rfl, hds⟩ := spelling_inside_eq_cons h
      have hne : (c != '\'') = true := by simpa using hc
      rw [hne] at hds
      obtain ⟨es, rfl, hes⟩ := ih hds
      exact ⟨es, rfl, hes⟩

/-- A quoted text is spelled as it is, so it stands in every text of the spelling. -/
theorem spelling_eq_literal {l : String} {cs rest : List Char}
    (h : spelling false false cs = (literal l).toList ++ rest) :
    ∃ ds, cs = (literal l).toList ++ ds ∧ spelling false false ds = rest := by
  rw [toList_literal] at h ⊢
  obtain ⟨ds, rfl, hds⟩ := spelling_eq_quote h
  obtain ⟨es, rfl, hes⟩ := spelling_inside_eq_doubled hds
  exact ⟨es, rfl, hes⟩

end SchemaSync.Catalog
