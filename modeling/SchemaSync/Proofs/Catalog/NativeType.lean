/-
Native types read part by part: a base in front of the parentheses, the
arguments inside, a suffix behind them (`read_parts`). The reader looks for
the closing parenthesis outside quotes and only toggles at a quote
character, so a doubled quote leaves the quoted region for no character and
a quoted text is passed over whole. The labels of an enum therefore end where
their list was closed (`read_labels`).
-/
import Mathlib.Data.List.TakeDrop
import SchemaSync.Catalog.NativeType
import SchemaSync.Proofs.Text.ItemList

namespace SchemaSync.Catalog

open Text

/-! ## The closing parenthesis -/

/-- The reader passes over a text without finding the closing parenthesis in it. -/
def Passed (cs : List Char) : Prop :=
  ∀ rest, untilClose none (cs ++ rest) =
    (cs ++ (untilClose none rest).1, (untilClose none rest).2)

theorem Passed.append {cs ds : List Char} (hc : Passed cs) (hd : Passed ds) :
    Passed (cs ++ ds) := by
  intro rest
  rw [List.append_assoc, hc, hd, List.append_assoc]

theorem Passed.plain {cs : List Char} (h : ∀ c ∈ cs, c ≠ ')' ∧ c ≠ '\'' ∧ c ≠ '\x22') :
    Passed cs := by
  intro rest
  induction cs with
  | nil => rfl
  | cons c cs ih =>
    obtain ⟨hp, hs, hd⟩ := h c (by simp)
    rw [List.cons_append, untilClose, if_neg hp, if_neg (by simp [hs, hd]),
      ih fun e he => h e (List.mem_cons_of_mem _ he)]
    rfl

theorem Passed.quoted {q : Char} (hq : q = '\'' ∨ q = '\x22') (cs : List Char) :
    Passed (q :: (doubled q cs ++ [q])) := by
  have hopen : q ≠ ')' := by rcases hq with rfl | rfl <;> decide
  intro rest
  have hinside : ∀ ds, untilClose (some q) (doubled q ds ++ [q] ++ rest) =
      (doubled q ds ++ [q] ++ (untilClose none rest).1, (untilClose none rest).2) := by
    intro ds
    induction ds with
    | nil =>
      show untilClose (some q) (q :: rest) = _
      rw [untilClose, if_pos rfl]
      rfl
    | cons d ds ih =>
      by_cases hd : d = q
      · -- The first quote of the pair closes the region, the second opens it again.
        subst hd
        simp only [doubled, if_true, List.cons_append]
        rw [untilClose, if_pos rfl, untilClose, if_neg hopen, if_pos hq, ih]
      · simp only [doubled, if_neg hd, List.cons_append]
        rw [untilClose, if_neg hd, ih]
  rw [List.cons_append, untilClose, if_neg hopen, if_pos hq, hinside]
  rfl

theorem Passed.blanks {cs : List Char} (h : ∀ c ∈ cs, isBlank c = true) : Passed cs := by
  refine .plain fun c hc => ?_
  have hb := h c hc
  refine ⟨?_, ?_, ?_⟩ <;> rintro rfl <;> simp [isBlank] at hb

theorem Passed.listed {item : List Char → List Char → Prop} (hitem : ∀ t v, item t v → Passed t)
    {cs : List Char} {values : List (List Char)} (h : ListedItems item cs values) : Passed cs := by
  induction h with
  | single hb hi ha => exact ((Passed.blanks hb).append (hitem _ _ hi)).append (Passed.blanks ha)
  | cons hb hi ha _ ih =>
    have hcomma : Passed [','] := .plain (by simp)
    exact (((Passed.blanks hb).append (hitem _ _ hi)).append (Passed.blanks ha)).append
      (hcomma.append ih)

/-! ## Words -/

theorem upperWords_trimStart (cs : List Char) :
    upperWords (String.ofList (trimStartChars cs)) = upperWords (String.ofList cs) := by
  simp [upperWords, singleSpaced, words, wordsChars_trimStart]

theorem upperWords_trimEnd (cs : List Char) :
    upperWords (String.ofList (trimEndChars cs)) = upperWords (String.ofList cs) := by
  simp [upperWords, singleSpaced, words, wordsChars_trimEnd]

/-- A single word has only its letters raised. -/
theorem upperWords_word {cs : List Char} (hne : cs ≠ []) (h : ∀ c ∈ cs, isBlank c = false) :
    upperWords (String.ofList cs) = upper (String.ofList cs) := by
  have hempty : cs.isEmpty = false := by simpa using hne
  simp [upperWords, singleSpaced, words, wordsChars, List.splitOnP_eq_singleton h, hempty]

/-! ## Parts -/

theorem span_paren {base rest : List Char} (h : '(' ∉ base) (hrest : ∀ c ∈ rest.head?, c = '(') :
    (base ++ rest).span (· ≠ '(') = (base, rest) := by
  have hb : ∀ c ∈ base, decide (c ≠ '(') = true := by
    intro c hc
    rw [decide_eq_true_eq]
    rintro rfl
    exact h hc
  rw [List.span_eq_takeWhile_dropWhile, List.takeWhile_append_of_pos hb,
    List.dropWhile_append_of_pos hb]
  cases rest with
  | nil => simp
  | cons c rest => simp [hrest c rfl]

/-- **A type is read in its parts**: the base up to the first parenthesis, the list inside, and
the words behind. -/
theorem read_parts {base inner : List Char} (hbase : '(' ∉ base) (hin : Passed inner)
    (after : List Char) :
    NativeType.read (String.ofList (base ++ '(' :: (inner ++ ')' :: after))) =
      ⟨upperWords (String.ofList base), splitList (String.ofList inner),
        upperWords (String.ofList after)⟩ := by
  have htrim : trimChars (base ++ '(' :: (inner ++ ')' :: after)) =
      trimStartChars base ++ '(' :: (inner ++ ')' :: trimEndChars after) := by
    rw [trimChars, trimStartChars_append_cons (by decide), ← List.cons_append, ← List.append_assoc,
      trimEndChars_append_cons (by decide), List.append_assoc, List.cons_append]
  have hbase' : '(' ∉ trimStartChars base := fun h => hbase (List.dropWhile_subset _ h)
  rw [NativeType.read, String.toList_ofList, htrim, span_paren hbase' (by simp)]
  simp only [hin (')' :: trimEndChars after), untilClose, if_true, List.append_nil,
    upperWords_trimStart, upperWords_trimEnd]

theorem read_bare {base : List Char} (hbase : '(' ∉ base) :
    NativeType.read (String.ofList base) = ⟨upperWords (String.ofList base), [], ""⟩ := by
  have hbase' : '(' ∉ trimChars base := by
    intro h
    rw [trimChars, trimEndChars, List.mem_reverse] at h
    exact hbase (List.dropWhile_subset _ (List.mem_reverse.1 (List.dropWhile_subset _ h)))
  rw [NativeType.read, String.toList_ofList, ← List.append_nil (trimChars base),
    span_paren hbase' (by simp)]
  simp only [trimChars, upperWords_trimEnd, upperWords_trimStart]

/-! ## Labels -/

theorem passed_literal (l : String) : Passed (literal l).toList := by
  rw [toList_literal]
  exact .quoted (.inl rfl) _

theorem listed_literals {labels : List String} (hne : labels ≠ []) :
    ListedItems (fun t v => IsItem t v ∧ Passed t) (commaList (labels.map literal)).toList
      (labels.map String.toList) := by
  rw [toList_commaList, List.map_map]
  exact .intercalate [] [' '] (by simp) (by simp [isBlank]) hne
    fun l _ => ⟨isItem_quoted (by decide) l, passed_literal l⟩

theorem passed_literals (labels : List String) :
    Passed (commaList (labels.map literal)).toList := by
  by_cases hne : labels = []
  · subst hne
    exact .plain (by simp [commaList])
  · exact .listed (fun _ _ h => h.2) (listed_literals hne)

theorem splitList_literals (labels : List String) :
    splitList (commaList (labels.map literal)) = labels.filter (· ≠ "") := by
  by_cases hne : labels = []
  · subst hne
    rfl
  · rw [splitList_listed ((listed_literals hne).mono fun _ _ h => h.1), List.map_map]
    simp [Function.comp_def]

/-- **A type with labels is read in its parts**: the words of the base in upper case, the labels in
order, and the words behind the parenthesis in upper case, whatever stands in the labels and behind
them. Only empty labels are left out. -/
theorem read_labels {base : String} (hbase : '(' ∉ base.toList) (labels : List String)
    (trailing : String) :
    NativeType.read (base ++ "(" ++ commaList (labels.map literal) ++ ")" ++ trailing) =
      { base := upper (singleSpaced base)
        arguments := labels.filter (· ≠ "")
        suffix := upper (singleSpaced trailing) } := by
  have hchars : base ++ "(" ++ commaList (labels.map literal) ++ ")" ++ trailing =
      String.ofList (base.toList ++ '(' :: ((commaList (labels.map literal)).toList ++
        ')' :: trailing.toList)) := by
    simp [← String.toList_inj]
  rw [hchars, read_parts hbase (passed_literals labels), String.ofList_toList,
    String.ofList_toList, String.ofList_toList, splitList_literals]
  rfl

/-- Labels with a quote, a comma and parentheses, and as much behind them. -/
theorem read_labels_sizes :
    '(' ∉ "  enum ".toList ∧
      NativeType.read "  enum ('S, M', '', 'it''s (L)')  collate 'b),('" =
        ⟨"ENUM", ["S, M", "it's (L)"], "COLLATE 'B),('"⟩ :=
  ⟨by decide, read_labels (by decide : '(' ∉ "  enum ".toList) ["S, M", "", "it's (L)"]
    "  collate 'b),('"⟩

end SchemaSync.Catalog
