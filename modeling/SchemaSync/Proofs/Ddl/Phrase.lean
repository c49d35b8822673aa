/-
Phrases: the parts of a column definition behind the column's name.

Each part opens with a separator, so its words outside quotes are words of the
definition (`Phrase.append`). A type, a default value that the library writes
and the part on unique values are plain: whatever is quoted in them, their own
words are few and known. Only the part on NULL may have the word NOT, and only
the last parts have the keywords of generated values and of a primary key
(`columnDefinition_phrase`).
-/
import SchemaSync.Proofs.Ddl.Outline

namespace SchemaSync

open Text

/-! ## Phrases -/

/-- A text on one line that a separator opens, with these words outside quotes. -/
structure Phrase (cs : List Char) (words : List (List Char)) : Prop where
  worded : Worded cs words
  oneLine : '\n' ∉ bareChars (lexemes cs)

namespace Phrase

variable {cs ds : List Char} {words others : List (List Char)}

theorem nil : Phrase [] [] :=
  ⟨.nil, by simp [lexemes]⟩

theorem bare (hhead : cs.head?.all isSeparator = true) (hq : isQuoteless cs = true)
    (hnl : cs.contains '\n' = false) (h : lexemeWords (cs.map .bare) = words) :
    Phrase cs words := by
  refine ⟨.bare hhead hq h, ?_⟩
  rw [(Lexes.bare cs hq).eq, bareChars_map_bare]
  simpa using hnl

theorem append (hc : Phrase cs words) (hd : Phrase ds others) :
    Phrase (cs ++ ds) (words ++ others) := by
  refine ⟨hc.worded.append hd.worded, ?_⟩
  obtain ⟨-, l, hl, -⟩ := hc.worded
  obtain ⟨-, m, hm, -⟩ := hd.worded
  rw [(hl.append hm hd.worded.unquoted).eq, ← hl.eq, ← hm.eq, bareChars_append, List.mem_append]
  exact not_or.2 ⟨hc.oneLine, hd.oneLine⟩

/-- Quoted texts and separators form no words. -/
theorem separators {l : List Lexeme} (hhead : cs.head?.all isSeparator = true) (hl : Lexes cs l)
    (h : ∀ c ∈ bareChars l, c ∈ " (,)".toList) : Phrase cs [] := by
  have hall : " (,)".toList.all (fun c => isSeparator c && c ≠ '\n') = true := by decide
  have hseparator : ∀ c ∈ bareChars l, isSeparator c = true ∧ c ≠ '\n' := by
    intro c hc
    have hc' := List.all_eq_true.1 hall c (h c hc)
    simpa using hc'
  refine ⟨⟨fun c hc => by simpa [Option.mem_def.1 hc] using hhead, l, hl,
    lexemeWords_eq_nil fun c hc => (hseparator c hc).1⟩, ?_⟩
  rw [hl.eq]
  exact fun hnl => (hseparator _ hnl).2 rfl

end Phrase

/-! ## Plain phrases -/

/-- The names of native types. -/
def nativeNames : List String :=
  ["SMALLINT", "INT", "INTEGER", "BIGINT", "DECIMAL", "FLOAT", "REAL", "DOUBLE",
    "DOUBLE PRECISION", "VARCHAR", "TEXT", "LONGTEXT", "CHAR", "UUID", "VARBINARY", "BYTEA", "BLOB",
    "TINYINT", "BOOLEAN", "DATE", "DATETIME", "TIMESTAMP", "TIMESTAMPTZ", "TIME", "JSON", "JSONB"]

/-- The words of types, of default values and of the part on unique values. -/
def plainWords : List (List Char) :=
  nativeNames.flatMap (fun name => wordsChars name.toList) ++
    ["ENUM", "CHECK", "IN", "DEFAULT", "NULL", "TRUE", "FALSE", "UNIQUE"].map String.toList

/-- Whether a word is one of these or a number. -/
def isPlainWord (w : List Char) : Bool :=
  plainWords.contains w || w.all Char.isDigit

/-- A phrase of plain words. -/
def Plain (cs : List Char) : Prop :=
  ∃ words, Phrase cs words ∧ ∀ w ∈ words, isPlainWord w = true

/-- Whether a separator opens a text without quotes, on one line, that has plain words only. -/
def isPlain (cs : List Char) : Bool :=
  cs.head?.all isSeparator && isQuoteless cs && !cs.contains '\n' &&
    (lexemeWords (cs.map .bare)).all isPlainWord

namespace Plain

variable {cs ds : List Char}

theorem nil : Plain [] :=
  ⟨[], .nil, by simp⟩

theorem append (hc : Plain cs) (hd : Plain ds) : Plain (cs ++ ds) := by
  obtain ⟨words, hwords, hplain⟩ := hc
  obtain ⟨others, hothers, hplain'⟩ := hd
  exact ⟨words ++ others, hwords.append hothers, List.forall_mem_append.2 ⟨hplain, hplain'⟩⟩

theorem bare (h : isPlain cs = true) : Plain cs := by
  simp only [isPlain, Bool.and_eq_true, Bool.not_eq_true'] at h
  obtain ⟨⟨⟨hhead, hq⟩, hnl⟩, hwords⟩ := h
  exact ⟨_, .bare hhead hq hnl rfl, List.all_eq_true.1 hwords⟩

theorem separators {l : List Lexeme} (hhead : cs.head?.all isSeparator = true) (hl : Lexes cs l)
    (h : ∀ c ∈ bareChars l, c ∈ " (,)".toList) : Plain cs :=
  ⟨[], .separators hhead hl h, by simp⟩

end Plain

/-! ## Types -/

/-- Whether a character may stand in the sizes of a type. -/
def isSize (c : Char) : Bool :=
  c.isDigit || c = '(' || c = ',' || c = ')'

theorem isQuote_of_isSize {c : Char} (h : isSize c = true) : isQuote c = false := by
  rw [← Bool.not_eq_true]
  intro hq
  simp only [isQuote, Bool.or_eq_true, decide_eq_true_eq] at hq
  rcases hq with (he | he) | he <;> subst he <;> cases h

theorem isDigit_of_isSize {c : Char} (h : isSize c = true) (hw : isWordChar c = true) :
    c.isDigit = true := by
  simp only [isSize, Bool.or_eq_true, decide_eq_true_eq] at h
  rcases h with ((h | rfl) | rfl) | rfl
  · exact h
  all_goals cases hw

/-- Whether characters may stand behind the name of a type as its sizes. -/
def isSizes (cs : List Char) : Bool :=
  cs.head?.all (· = '(') && cs.all isSize

theorem plain_of_isSizes {cs : List Char} (h : isSizes cs = true) : Plain cs := by
  rw [isSizes, Bool.and_eq_true, List.all_eq_true] at h
  obtain ⟨hopening, hsizes⟩ := h
  have hhead : cs.head?.all isSeparator = true := by
    cases cs with
    | nil => rfl
    | cons c cs =>
      obtain rfl := of_decide_eq_true hopening
      rfl
  have hq : isQuoteless cs = true := isQuoteless_iff.2 fun c hc => isQuote_of_isSize (hsizes c hc)
  have hnl : cs.contains '\n' = false := by
    rw [← Bool.not_eq_true, List.contains_iff_mem]
    exact fun hmem => absurd (hsizes _ hmem) (by decide)
  refine ⟨_, .bare hhead hq hnl rfl, fun w hw => ?_⟩
  rw [isPlainWord, Bool.or_eq_true, List.all_eq_true]
  right
  intro c hc
  obtain ⟨hmem, hword⟩ := mem_of_mem_lexemeWords hw hc
  rw [bareChars_map_bare] at hmem
  exact isDigit_of_isSize (hsizes c hmem) hword

/-- A native name, and sizes behind it or none. -/
def Named (s : String) : Prop :=
  ∃ name ∈ nativeNames, ∃ sizes, s.toList = name.toList ++ sizes ∧ isSizes sizes = true

namespace Named

theorem all_isSize_decimal (n : UInt32) : (decimal n).toList.all isSize = true := by
  rw [List.all_eq_true]
  intro c hc
  rw [isSize, isDigit_of_mem_decimal hc]
  rfl

theorem bare {name : String} (h : name ∈ nativeNames) : Named name :=
  ⟨name, h, [], by simp, rfl⟩

theorem sized {name : String} (h : name ∈ nativeNames) (c : Column) : Named (c.sizedName name) := by
  refine ⟨name, h, '(' :: (decimal (c.length.getD defaultLength)).toList ++ [')'], ?_, ?_⟩
  · simp [Column.sizedName]
  · rw [isSizes, List.all_append, List.all_cons, all_isSize_decimal]
    rfl

theorem seconds {name : String} (h : name ∈ nativeNames) (c : Column) :
    Named (c.secondsName name) := by
  unfold Column.secondsName
  cases c.precision with
  | none => exact bare h
  | some p => exact sized h { c with length := some p }

theorem bareTypeName (d : Dialect) (c : Column) : Named (d.bareTypeName c) := by
  obtain ⟨name, type, length, nullable, unique, default, options, precision, scale⟩ := c
  have huuid : Named "CHAR(36)" := ⟨"CHAR", by decide, "(36)".toList, by decide, by decide⟩
  have hboolean : Named "TINYINT(1)" := ⟨"TINYINT", by decide, "(1)".toList, by decide, by decide⟩
  cases type with
  | string | enum => cases d <;> exact sized (by decide) _
  | dateTime | dateTimeTz | time => cases d <;> exact seconds (by decide) _
  | binary =>
    cases d with
    | mySql => exact sized (by decide) _
    | postgres => exact bare (by simp [nativeNames, Dialect.bareTypeName])
  | uuid =>
    cases d with
    | mySql => exact huuid
    | postgres => exact bare (by simp [nativeNames, Dialect.bareTypeName])
  | boolean =>
    cases d with
    | mySql => exact hboolean
    | postgres => exact bare (by simp [nativeNames, Dialect.bareTypeName, Column.commonTypeName])
  | decimal =>
    have hdecimal : Named ("DECIMAL(" ++ decimal (precision.getD defaultPrecision) ++ "," ++
        decimal (scale.getD defaultScale) ++ ")") := by
      refine ⟨"DECIMAL", by decide, '(' :: (decimal (precision.getD defaultPrecision)).toList ++
        ',' :: (decimal (scale.getD defaultScale)).toList ++ [')'], by simp, ?_⟩
      simp only [isSizes, List.all_append, List.all_cons, all_isSize_decimal]
      rfl
    cases d <;> exact hdecimal
  | _ => cases d <;> exact bare (by simp [nativeNames, Dialect.bareTypeName, Column.commonTypeName])

theorem isQuoteless {s : String} (h : Named s) : isQuoteless s.toList = true := by
  obtain ⟨name, hname, sizes, hs, hsizes⟩ := h
  have hnames : nativeNames.all (fun name => Text.isQuoteless name.toList) = true := by decide
  rw [isSizes, Bool.and_eq_true, List.all_eq_true] at hsizes
  rw [hs, isQuoteless_iff]
  exact List.forall_mem_append.2 ⟨isQuoteless_iff.1 (List.all_eq_true.1 hnames name hname),
    fun c hc => isQuote_of_isSize (hsizes.2 c hc)⟩

theorem plain {s : String} (h : Named s) : Plain (' ' :: s.toList) := by
  obtain ⟨name, hname, sizes, hs, hsizes⟩ := h
  have hnames : nativeNames.all (fun name => isPlain (' ' :: name.toList)) = true := by
    decide
  rw [hs]
  exact (Plain.bare (List.all_eq_true.1 hnames name hname)).append (plain_of_isSizes hsizes)

end Named

theorem plain_bareTypeName (d : Dialect) (c : Column) : Plain (' ' :: (d.bareTypeName c).toList) :=
  (Named.bareTypeName d c).plain

theorem isQuote_identifierQuote (d : Dialect) : isQuote d.identifierQuote = true := by
  cases d <;> rfl

/-- Labels stand in quotes, so only separators are left of a list of them. -/
theorem lexes_labelList (labels : List String) :
    ∃ l, Lexes (labelList labels).toList l ∧ ∀ x ∈ bareChars l, x ∈ " (,)".toList := by
  obtain ⟨l, hl, -, hseparators⟩ := Lexes.commaList (q := '\'') rfl labels
  refine ⟨l, hl, fun x hx => ?_⟩
  rcases hseparators x hx with rfl | rfl <;> decide

theorem plain_enumType (labels : List String) :
    Plain (' ' :: ("ENUM(" ++ labelList labels ++ ")").toList) := by
  obtain ⟨l, hl, hseparators⟩ := lexes_labelList labels
  have hchars : ' ' :: ("ENUM(" ++ labelList labels ++ ")").toList =
      " ENUM".toList ++ (['('] ++ ((labelList labels).toList ++ [')'])) := by
    simp
  have hlabels : Plain (['('] ++ ((labelList labels).toList ++ [')'])) :=
    .separators rfl (.bareAppend ['('] (by decide) (hl.appendBare [')'] (by decide)))
      (by simpa [or_imp, forall_and] using hseparators)
  rw [hchars]
  exact (Plain.bare (by decide)).append hlabels

theorem plain_labelCheck (d : Dialect) (column : String) (labels : List String) :
    Plain (' ' :: (d.labelCheck column labels).toList) := by
  obtain ⟨l, hl, hseparators⟩ := lexes_labelList labels
  have hchars : ' ' :: (d.labelCheck column labels).toList =
      " CHECK".toList ++ ((" (".toList ++ (d.wrap column).toList) ++
        (" IN".toList ++ (" (".toList ++ ((labelList labels).toList ++ "))".toList)))) := by
    simp [Dialect.labelCheck]
  have hcolumn : Plain (" (".toList ++ (d.wrap column).toList) :=
    .separators rfl (.bareAppend _ (by decide) (.quoted (isQuote_identifierQuote d) column))
      (by simp)
  have hlabels : Plain (" (".toList ++ ((labelList labels).toList ++ "))".toList)) :=
    .separators rfl (.bareAppend _ (by decide) (hl.appendBare _ (by decide)))
      (by simpa [or_imp, forall_and] using hseparators)
  rw [hchars]
  exact (Plain.bare (by decide)).append (hcolumn.append
    ((Plain.bare (by decide)).append hlabels))

theorem plain_typeName (d : Dialect) (c : Column) : Plain (' ' :: (d.typeName c).toList) := by
  have hname := plain_bareTypeName d c
  unfold Dialect.typeName
  cases c.enumLabels? with
  | none => exact hname
  | some labels =>
    cases d with
    | mySql => exact plain_enumType labels
    | postgres =>
      have htype := hname.append (plain_labelCheck .postgres c.name labels)
      simp only [String.toList_append, List.append_assoc] at htype ⊢
      exact htype

/-! ## Columns -/

/-- Whether a default value is written by the library and not as its author wrote it. -/
def DefaultValue.isLiteral : DefaultValue → Bool
  | null | bool _ | text _ => true
  | number _ | expression _ => false

theorem plain_default {default : Option DefaultValue}
    (hc : ∀ value ∈ default, value.isLiteral = true) :
    Plain (match default with
      | some value => " DEFAULT " ++ value.sql
      | none => "").toList := by
  cases default with
  | none => exact .nil
  | some value =>
    have hliteral := hc value rfl
    cases value with
    | null => exact .bare (by decide)
    | bool value => cases value <;> exact .bare (by decide)
    | text value =>
      have hvalue : Plain (" ".toList ++ (quoted '\'' value).toList) :=
        .separators rfl (.bareAppend _ (by decide) (.quoted (by decide) value)) (by simp)
      have hdefault : Plain " DEFAULT".toList := .bare (by decide)
      have htext := hdefault.append hvalue
      rw [← List.append_assoc] at htext
      show Plain (" DEFAULT " ++ quoted '\'' value).toList
      rw [String.toList_append]
      exact htext
    | number written => cases hliteral
    | expression sql => cases hliteral

theorem plain_unique (keys : KeyPlacement) (c : Column) :
    Plain (if keys ≠ .omitted ∧ c.unique ∧ !c.primaryKey then " UNIQUE" else "").toList := by
  split
  · exact .bare (by decide)
  · exact .nil

/-- The words of a definition that say whether the column takes NULL. -/
def nullWords (takesNull : Bool) : List (List Char) :=
  if takesNull then ["NULL".toList] else [notWord, "NULL".toList]

theorem null_phrase (c : Column) :
    Phrase (if c.takesNull then " NULL" else " NOT NULL").toList (nullWords c.takesNull) := by
  cases c.takesNull <;> exact .bare (by decide) (by decide) (by decide) (by decide)

/-- Whether a definition says that the database generates the values. -/
def showsGenerated (keys : KeyPlacement) (c : Column) : Bool :=
  keys ≠ .inTable ∧ c.wantsAutoIncrement

/-- Whether a definition says that the column is the primary key. -/
def showsKey (keys : KeyPlacement) (c : Column) : Bool :=
  keys = .inColumn ∧ c.primaryKey

/-- The keywords of a primary key in a column definition. -/
def primaryKeyKeywords : String :=
  "PRIMARY KEY"

/-- The words of the keywords of generated values and of a primary key, where they are told. -/
def keyWords (d : Dialect) (generated key : Bool) : List (List Char) :=
  (if generated then wordsChars d.autoIncrementKeywords.toList else []) ++
    if key then wordsChars primaryKeyKeywords.toList else []

/-- The end of a definition has just the keywords that are to show. -/
theorem keys_phrase (d : Dialect) (keys : KeyPlacement) (c : Column) :
    Phrase ((if keys ≠ .inTable ∧ c.wantsAutoIncrement then " " ++ d.autoIncrementKeywords
        else "").toList ++ (if keys = .inColumn ∧ c.primaryKey then " PRIMARY KEY" else "").toList)
      (keyWords d (showsGenerated keys c) (showsKey keys c)) := by
  refine .append ?generated ?key
  case generated =>
    simp only [showsGenerated, decide_eq_true_eq]
    split
    · cases d <;> exact .bare (by decide) (by decide) (by decide) (by decide)
    · exact .nil
  case key =>
    simp only [showsKey, decide_eq_true_eq]
    split
    · exact .bare (by decide) (by decide) (by decide) (by decide)
    · exact .nil

/-- **The words of a column definition behind the name** say whether the column takes NULL and, at
the end, what is to show of generated values and of a key. All others are plain. -/
theorem columnDefinition_phrase (d : Dialect) (keys : KeyPlacement) {c : Column}
    (hc : ∀ value ∈ c.default, value.isLiteral = true) :
    ∃ rest before after, (d.columnDefinition keys c).toList = (d.wrap c.name).toList ++ rest ∧
      Phrase rest (before ++ (nullWords c.takesNull ++ (after ++
        keyWords d (showsGenerated keys c) (showsKey keys c)))) ∧
      ∀ w ∈ before ++ after, isPlainWord w = true := by
  obtain ⟨before, htype, hbefore⟩ := plain_typeName d c
  obtain ⟨after, hmiddle, hafter⟩ := (plain_default hc).append (plain_unique keys c)
  refine ⟨_, before, after, ?_, htype.append ((null_phrase c).append
    (hmiddle.append (keys_phrase d keys c))), List.forall_mem_append.2 ⟨hbefore, hafter⟩⟩
  simp only [Dialect.columnDefinition, String.toList_append, List.append_assoc]
  rfl

end SchemaSync
