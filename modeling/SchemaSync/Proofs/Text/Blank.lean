/-
Laws of trimming and of words. A blank ends a word and no trimming reaches
past a character that is not blank, so both may be done part by part.
-/
import Mathlib.Data.List.Induction
import SchemaSync.Text.Blank

namespace SchemaSync.Text

/-! ## Trimming -/

theorem trimEndChars_append {after : List Char} (h : ∀ c ∈ after, isBlank c = true)
    (cs : List Char) : trimEndChars (cs ++ after) = trimEndChars cs := by
  have h' : ∀ c ∈ after.reverse, isBlank c = true := fun c hc => h c (List.mem_reverse.1 hc)
  rw [trimEndChars, List.reverse_append, List.dropWhile_append_of_pos h', trimEndChars]

/-- Blanks around a text do not outlast trimming. -/
theorem trimChars_pad {before after : List Char} (hb : ∀ c ∈ before, isBlank c = true)
    (ha : ∀ c ∈ after, isBlank c = true) (cs : List Char) :
    trimChars (before ++ cs ++ after) = trimChars cs := by
  rw [trimChars, trimStartChars, List.append_assoc, List.dropWhile_append_of_pos hb,
    List.dropWhile_append]
  split
  · next hempty =>
    have hnil : cs.dropWhile isBlank = [] := List.isEmpty_iff.1 hempty
    have hafter : after.dropWhile isBlank = [] := by
      rw [← List.append_nil after, List.dropWhile_append_of_pos ha, List.dropWhile_nil]
    rw [hafter, trimChars, trimStartChars, hnil]
  · rw [trimEndChars_append ha, trimChars, trimStartChars]

theorem trimStartChars_append_cons {c : Char} (h : isBlank c = false) (before rest : List Char) :
    trimStartChars (before ++ c :: rest) = trimStartChars before ++ c :: rest := by
  rw [trimStartChars, List.dropWhile_append, List.dropWhile_cons_of_neg (by simp [h])]
  split
  · next hempty => rw [trimStartChars, List.isEmpty_iff.1 hempty, List.nil_append]
  · rfl

theorem trimEndChars_append_cons {c : Char} (h : isBlank c = false) (rest after : List Char) :
    trimEndChars (rest ++ c :: after) = rest ++ c :: trimEndChars after := by
  have hrev : (rest ++ c :: after).reverse = after.reverse ++ c :: rest.reverse := by simp
  have hstart := trimStartChars_append_cons h after.reverse rest.reverse
  rw [trimStartChars, trimStartChars] at hstart
  rw [trimEndChars, hrev, hstart, trimEndChars]
  simp

/-- A text that neither begins nor ends with a blank is trimmed. -/
theorem trimChars_eq_self {cs : List Char} (hhead : ∀ c ∈ cs.head?, isBlank c = false)
    (hlast : ∀ c ∈ cs.getLast?, isBlank c = false) : trimChars cs = cs := by
  have hdrop : ∀ {ds : List Char}, (∀ c ∈ ds.head?, isBlank c = false) →
      ds.dropWhile isBlank = ds := by
    intro ds hd
    cases ds with
    | nil => rfl
    | cons d ds => exact List.dropWhile_cons_of_neg (by simp [hd d (by simp)])
  rw [trimChars, trimStartChars, hdrop hhead, trimEndChars, hdrop, List.reverse_reverse]
  simpa using hlast

/-! ## Words -/

theorem wordsChars_cons_blank {c : Char} (h : isBlank c = true) (cs : List Char) :
    wordsChars (c :: cs) = wordsChars cs := by
  simp [wordsChars, List.splitOnP_cons_eq_if_modifyHead, h]

theorem wordsChars_append_cons {c : Char} (h : isBlank c = true) (cs ds : List Char) :
    wordsChars (cs ++ c :: ds) = wordsChars cs ++ wordsChars ds := by
  simp [wordsChars, List.splitOnP_append_cons _ _ h]

/-- Texts that a blank keeps apart have their words one after the other. -/
theorem wordsChars_append {cs ds : List Char} (h : ∀ c ∈ ds.head?, isBlank c = true) :
    wordsChars (cs ++ ds) = wordsChars cs ++ wordsChars ds := by
  cases ds with
  | nil => simp [wordsChars]
  | cons d ds =>
    have hd := h d rfl
    rw [wordsChars_append_cons hd, wordsChars_cons_blank hd]

theorem mem_of_mem_splitOnP {α : Type} {p : α → Bool} {as part : List α}
    (h : part ∈ as.splitOnP p) : ∀ a ∈ part, a ∈ as := by
  induction as generalizing part with
  | nil =>
    rw [List.splitOnP_nil, List.mem_singleton] at h
    simp [h]
  | cons x as ih =>
    rw [List.splitOnP_cons_eq_if_modifyHead] at h
    cases hrest : as.splitOnP p with
    | nil => exact absurd hrest (List.splitOnP_ne_nil _ _)
    | cons first others =>
      rw [hrest] at h ih
      have hparts : ∀ v ∈ first :: others, ∀ a ∈ v, a ∈ x :: as :=
        fun v hv a ha => List.mem_cons_of_mem _ (ih hv a ha)
      split at h
      · rcases List.mem_cons.1 h with he | hmem
        · simp [he]
        · exact hparts part hmem
      · rcases List.mem_cons.1 h with he | hmem
        · subst he
          intro a ha
          rcases List.mem_cons.1 ha with hx | ha
          · simp [hx]
          · exact hparts first (by simp) a ha
        · exact hparts part (List.mem_cons_of_mem _ hmem)

/-- The parts of a list hold none of the elements that part it. -/
theorem not_of_mem_splitOnP {α : Type} {p : α → Bool} {as part : List α}
    (h : part ∈ as.splitOnP p) : ∀ a ∈ part, p a = false := by
  induction as generalizing part with
  | nil =>
    rw [List.splitOnP_nil, List.mem_singleton] at h
    simp [h]
  | cons x as ih =>
    rw [List.splitOnP_cons_eq_if_modifyHead] at h
    split at h
    · rcases List.mem_cons.1 h with he | hmem
      · simp [he]
      · exact ih hmem
    · next hx =>
      cases hrest : as.splitOnP p with
      | nil => exact absurd hrest (List.splitOnP_ne_nil _ _)
      | cons first others =>
        rw [hrest] at h ih
        rcases List.mem_cons.1 h with he | hmem
        · rw [he]
          exact List.forall_mem_cons.2 ⟨by simpa using hx, ih (by simp)⟩
        · exact ih (List.mem_cons_of_mem _ hmem)

theorem isBlank_of_mem_wordsChars {cs w : List Char} (h : w ∈ wordsChars cs) :
    ∀ c ∈ w, isBlank c = false :=
  not_of_mem_splitOnP (List.mem_filter.1 h).1

theorem mem_of_mem_wordsChars {cs w : List Char} (h : w ∈ wordsChars cs) : ∀ c ∈ w, c ∈ cs :=
  mem_of_mem_splitOnP (List.mem_filter.1 h).1

theorem wordsChars_trimStart (cs : List Char) : wordsChars (trimStartChars cs) = wordsChars cs := by
  induction cs with
  | nil => rfl
  | cons c cs ih =>
    by_cases hc : isBlank c = true
    · rw [trimStartChars, List.dropWhile_cons_of_pos hc, wordsChars_cons_blank hc]
      exact ih
    · rw [trimStartChars, List.dropWhile_cons_of_neg hc]

theorem wordsChars_trimEnd (cs : List Char) : wordsChars (trimEndChars cs) = wordsChars cs := by
  induction cs using List.reverseRecOn with
  | nil => rfl
  | append_singleton cs c ih =>
    by_cases hc : isBlank c = true
    · rw [trimEndChars_append (by simpa using hc), ih, wordsChars_append_cons hc]
      simp [wordsChars]
    · rw [trimEndChars, List.reverse_append, List.reverse_singleton, List.singleton_append,
        List.dropWhile_cons_of_neg hc]
      simp

end SchemaSync.Text
