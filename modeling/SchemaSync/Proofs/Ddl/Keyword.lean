/-
The keywords of generated values and of a primary key in column definitions.

Each of these keywords has a word that is not plain and whose letters few texts
have together. A plain phrase is silent about them (`Plain.silent`), and so is
a text that lacks the letters, whatever names and labels are quoted in it.
Outside quotes and default values the keywords stand in a definition just
where it is to show them (`mentions_columnDefinition_iff`).
-/
import SchemaSync.Proofs.Ddl.Masking
import SchemaSync.Proofs.Ddl.Phrase

namespace SchemaSync

open Text

/-- The words that only the keywords of generated values and of a primary key have. -/
def tellingWords : List (List Char) :=
  ["AUTO_INCREMENT".toList, "IDENTITY".toList, primaryWord]

/-- A text that a separator opens, without a telling word outside quotes. -/
def Silent (cs : List Char) : Prop :=
  ∃ words, Worded cs words ∧ ∀ w ∈ tellingWords, w ∉ words

/-- A text that a separator opens, with just these keywords among its words outside quotes. -/
def Tells (d : Dialect) (generated key : Bool) (cs : List Char) : Prop :=
  ∃ before after, Worded cs (before ++ keyWords d generated key ++ after) ∧
    ∀ w ∈ tellingWords, w ∉ before ∧ w ∉ after

/-! ## Silent texts -/

/-- Whether characters lack a letter of each telling word. -/
def lacksTelling (cs : List Char) : Bool :=
  tellingWords.all fun w => !w.all cs.contains

/-- Whether a separator opens a text without quotes that lacks a letter of each telling word. -/
def isSilent (cs : List Char) : Bool :=
  cs.head?.any isSeparator && isQuoteless cs && lacksTelling cs

theorem lacksTelling_iff {cs : List Char} :
    lacksTelling cs = true ↔ ∀ w ∈ tellingWords, ∃ c ∈ w, c ∉ cs := by
  simp [lacksTelling]

namespace Silent

variable {cs ds : List Char}

theorem nil : Silent [] :=
  ⟨[], .nil, by simp⟩

theorem append (hc : Silent cs) (hd : Silent ds) : Silent (cs ++ ds) := by
  obtain ⟨words, hwords, hno⟩ := hc
  obtain ⟨others, hothers, hno'⟩ := hd
  exact ⟨words ++ others, hwords.append hothers, fun w hw => by simp [hno w hw, hno' w hw]⟩

/-- A word is formed with letters outside quotes, or not at all. -/
theorem of_lexes (hhead : ∀ c ∈ cs.head?, isSeparator c = true) {l : List Lexeme}
    (hl : Lexes cs l) (h : lacksTelling (bareChars l) = true) : Silent cs := by
  refine ⟨_, ⟨hhead, l, hl, rfl⟩, fun w hw hmem => ?_⟩
  obtain ⟨c, hc, hno⟩ := lacksTelling_iff.1 h w hw
  exact hno (mem_of_mem_lexemeWords hmem hc).1

theorem bare (h : isSilent cs = true) : Silent cs := by
  simp only [isSilent, Bool.and_eq_true] at h
  obtain ⟨⟨hhead, hq⟩, hlacks⟩ := h
  refine of_lexes (fun c hc => ?_) (.bare cs hq) (by rwa [bareChars_map_bare])
  simpa [Option.mem_def.1 hc] using hhead

/-- A text without quotes, and a name behind it. -/
theorem named (h : isSilent cs = true) (d : Dialect) (name : String) :
    Silent (cs ++ (d.wrap name).toList) := by
  simp only [isSilent, Bool.and_eq_true] at h
  obtain ⟨⟨hhead, hq⟩, hlacks⟩ := h
  have hlex := Lexes.bareAppend cs hq (.quoted (isQuote_identifierQuote d) name)
  refine of_lexes (fun c hc => ?_) hlex (by simpa using hlacks)
  cases cs with
  | nil => cases hhead
  | cons b cs =>
    cases hc
    simpa using hhead

theorem pad {separators : List Char} (hne : separators ≠ [])
    (hall : separators.all isSeparator = true) (h : Silent (' ' :: cs)) :
    Silent (separators ++ cs) := by
  obtain ⟨words, hwords, hno⟩ := h
  exact ⟨words, hwords.pad hne hall, hno⟩

/-- Silent parts behind a first one add nothing that tells. -/
theorem exists_joined (separator : String) (hne : separator.toList ≠ [])
    (hall : separator.toList.all isSeparator = true) {parts : List String}
    (h : ∀ part ∈ parts, Silent (' ' :: part.toList)) (first : String) :
    ∃ rest, (separator.intercalate (first :: parts)).toList = first.toList ++ rest ∧
      Silent rest := by
  induction parts generalizing first with
  | nil => exact ⟨[], by simp, nil⟩
  | cons part parts ih =>
    obtain ⟨hpart, hparts⟩ := List.forall_mem_cons.1 h
    obtain ⟨rest, hrest, hsilent⟩ := ih hparts part
    refine ⟨separator.toList ++ part.toList ++ rest, ?_, (hpart.pad hne hall).append hsilent⟩
    rw [String.intercalate_cons_of_ne_nil (List.cons_ne_nil _ _), String.toList_append,
      String.toList_append, hrest]
    simp only [List.append_assoc]

theorem joined (separator : String) (hne : separator.toList ≠ [])
    (hall : separator.toList.all isSeparator = true) {parts : List String}
    (h : ∀ part ∈ parts, Silent (' ' :: part.toList)) :
    Silent (' ' :: (separator.intercalate parts).toList) := by
  cases parts with
  | nil =>
    rw [String.intercalate_nil]
    exact .bare (by decide)
  | cons first parts =>
    obtain ⟨hfirst, hparts⟩ := List.forall_mem_cons.1 h
    obtain ⟨rest, hrest, hsilent⟩ := exists_joined separator hne hall hparts first
    rw [hrest, ← List.cons_append]
    exact hfirst.append hsilent

end Silent

/-- No telling word is plain. -/
theorem notMem_of_isPlainWord {words : List (List Char)} (h : ∀ w ∈ words, isPlainWord w = true) :
    ∀ w ∈ tellingWords, w ∉ words := by
  have hplain : tellingWords.all (fun w => !isPlainWord w) = true := by decide
  intro w hw hmem
  have hno := List.all_eq_true.1 hplain w hw
  rw [h w hmem] at hno
  cases hno

theorem Plain.silent {cs : List Char} (h : Plain cs) : Silent cs := by
  obtain ⟨words, hwords, hplain⟩ := h
  exact ⟨words, hwords.worded, notMem_of_isPlainWord hplain⟩

/-! ## Telling texts -/

namespace Tells

variable {d : Dialect} {generated key : Bool} {cs ds : List Char}

theorem of_silent (h : Silent cs) : Tells d false false cs := by
  obtain ⟨words, hwords, hno⟩ := h
  exact ⟨words, [], by simpa [keyWords] using hwords, fun w hw => ⟨hno w hw, List.not_mem_nil⟩⟩

theorem prepend (hd : Tells d generated key ds) (hc : Silent cs) :
    Tells d generated key (cs ++ ds) := by
  obtain ⟨words, hwords, hno⟩ := hc
  obtain ⟨before, after, htold, hrest⟩ := hd
  refine ⟨words ++ before, after, ?_, fun w hw => ?_⟩
  · simpa only [List.append_assoc] using hwords.append htold
  · simp [hno w hw, hrest w hw]

theorem append (hc : Tells d generated key cs) (hd : Silent ds) :
    Tells d generated key (cs ++ ds) := by
  obtain ⟨words, hwords, hno⟩ := hd
  obtain ⟨before, after, htold, hrest⟩ := hc
  refine ⟨before, after ++ words, ?_, fun w hw => ?_⟩
  · simpa only [List.append_assoc] using htold.append hwords
  · simp [hno w hw, hrest w hw]

/-- A telling word among the keywords says which of them are told. -/
theorem keyWords_of_mem (d : Dialect) (generated key : Bool) :
    ("AUTO_INCREMENT".toList ∈ keyWords d generated key → generated = true) ∧
      ("IDENTITY".toList ∈ keyWords d generated key → generated = true) ∧
      (primaryWord ∈ keyWords d generated key → key = true) := by
  cases d <;> cases generated <;> cases key <;> decide

/-- A text that tells of generated values or of a key mentions the keywords, and no other does. -/
theorem mentions_iff {s : String} (h : Tells d generated key (' ' :: s.toList)) :
    (Mentions s d.autoIncrementKeywords ↔ generated = true) ∧
      (Mentions s primaryKeyKeywords ↔ key = true) := by
  obtain ⟨before, after, hworded, hrest⟩ := h
  have hwords := hworded.eq
  obtain ⟨hauto, hidentity, hprimary⟩ := keyWords_of_mem d generated key
  have htold : ∀ w ∈ tellingWords, w ∈ bareWords s → w ∈ keyWords d generated key := by
    intro w hw hmem
    rw [hwords, List.mem_append, List.mem_append] at hmem
    rcases hmem with (hmem | hmem) | hmem
    · exact absurd hmem (hrest w hw).1
    · exact hmem
    · exact absurd hmem (hrest w hw).2
  refine ⟨⟨fun hm => ?_, ?_⟩, ⟨fun hm => ?_, ?_⟩⟩
  · cases d with
    | mySql => exact hauto (htold _ (by decide) (hm.subset (by decide)))
    | postgres => exact hidentity (htold _ (by decide) (hm.subset (by decide)))
  · rintro rfl
    refine ⟨before, (if key then wordsChars primaryKeyKeywords.toList else []) ++ after, ?_⟩
    rw [hwords, keyWords, if_pos rfl]
    simp only [List.append_assoc]
  · exact hprimary (htold _ (by decide) (hm.subset (by decide)))
  · rintro rfl
    refine ⟨before ++ (if generated then wordsChars d.autoIncrementKeywords.toList else []),
      after, ?_⟩
    rw [hwords, keyWords, if_pos rfl]
    simp only [List.append_assoc]

end Tells

/-! ## Definitions -/

theorem isLiteral_of_masked (c : Column) : ∀ value ∈ c.masked.default, value.isLiteral = true := by
  intro value hvalue
  obtain ⟨_, -, rfl⟩ := Option.map_eq_some_iff.1 hvalue
  rfl

/-- **A masked definition has just the keywords that it is to show**, behind the column's name. -/
theorem exists_definition_tells (d : Dialect) (keys : KeyPlacement) (c : Column) :
    ∃ rest, (d.columnDefinition keys c.masked).toList = (d.wrap c.name).toList ++ rest ∧
      Tells d (showsGenerated keys c) (showsKey keys c) rest := by
  obtain ⟨rest, before, after, hchars, hrest, hplain⟩ :=
    columnDefinition_phrase d keys (isLiteral_of_masked c)
  obtain ⟨hbefore, hafter⟩ := List.forall_mem_append.1 hplain
  have hnull : ∀ b, ∀ w ∈ nullWords b, w ∉ tellingWords := by decide
  -- The mask changes nothing but the default value.
  have hworded : Worded rest (before ++ (nullWords c.takesNull ++ (after ++
    keyWords d (showsGenerated keys c) (showsKey keys c)))) := hrest.worded
  refine ⟨rest, hchars, before ++ (nullWords c.takesNull ++ after), [], ?_,
    fun w hw => ⟨?_, by simp⟩⟩
  · simpa only [List.append_assoc, List.append_nil] using hworded
  · rw [List.mem_append, List.mem_append]
    rintro (hmem | hmem | hmem)
    · exact notMem_of_isPlainWord hbefore w hw hmem
    · exact hnull _ w hmem hw
    · exact notMem_of_isPlainWord hafter w hw hmem

/-- A definition by itself mentions just the keywords that it is to show. -/
theorem mentions_columnDefinition_iff (d : Dialect) (keys : KeyPlacement) (c : Column) :
    (Mentions (d.columnDefinition keys c.masked) d.autoIncrementKeywords ↔
      showsGenerated keys c = true) ∧
    (Mentions (d.columnDefinition keys c.masked) primaryKeyKeywords ↔ showsKey keys c = true) := by
  obtain ⟨rest, hchars, htells⟩ := exists_definition_tells d keys c
  have hname : Silent ([' '] ++ (d.wrap c.name).toList) := .named (by decide) d c.name
  refine Tells.mentions_iff ?_
  rw [hchars]
  exact htells.prepend hname

end SchemaSync
