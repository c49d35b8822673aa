/-
The types that MySQL prints are read back as the types that were written.

A written type is a base name and arguments, numbers or enum labels
(`typeName_chars`). Any print of it has the same base in some case and the
same arguments with blanks around them (`read_of_spelling`), so what the
reader makes of it is known (`read_typeName`), and with it the column that a
catalog row describes (`readColumn_typeName`).
-/
import SchemaSync.Catalog.MySql
import SchemaSync.Change.Diff
import SchemaSync.Proofs.Catalog.Spelling
import Mathlib.Data.List.Basic

namespace SchemaSync.Catalog

open Text

/-- An argument of a type. -/
inductive Argument where
  | number (n : UInt32)
  | label (l : String)

namespace Argument

/-- The text of an argument: a label is written as a literal. -/
def text : Argument → String
  | number n => decimal n
  | label l => literal l

/-- What the reader gives for an argument. -/
def value : Argument → String
  | number n => decimal n
  | label l => l

/-- The characters of an argument and of its value. -/
def Stands (chars value : List Char) : Prop :=
  ∃ a : Argument, chars = a.text.toList ∧ value = a.value.toList

end Argument

/-! ## Arguments -/

theorem decimal_ne_nil (n : UInt32) : (decimal n).toList ≠ [] := by
  rw [decimal, Nat.toList_repr]
  exact Nat.toDigits_ne_nil

theorem toNat_of_isDigit {c : Char} (h : c.isDigit = true) : 47 < c.toNat ∧ c.toNat < 58 := by
  simp only [Char.isDigit, Bool.and_eq_true, decide_eq_true_eq, ge_iff_le,
    UInt32.le_iff_toNat_le] at h
  have h0 : '0'.val.toNat = 48 := rfl
  have h9 : '9'.val.toNat = 57 := rfl
  have hn : c.val.toNat = c.toNat := rfl
  omega

theorem isUpper_of_isDigit {c : Char} (h : c.isDigit = true) : c.isUpper = false := by
  have hc := toNat_of_isDigit h
  rw [← Bool.not_eq_true, isUpper_iff]
  omega

theorem isPlain_of_isDigit {c : Char} (h : c.isDigit = true) : IsPlain c := by
  have hc := toNat_of_isDigit h
  refine ⟨?_, ?_, ?_, ?_⟩
  · rw [← Bool.not_eq_true, isBlank_ascii (by omega)]
    omega
  · refine toUpper_eq_self fun hl => ?_
    rw [isLower_iff] at hl
    omega
  · intro he
    subst he
    simp at h
  · intro he
    subst he
    simp at h

theorem Argument.Stands.isItem {chars value : List Char} (h : Argument.Stands chars value) :
    IsItem chars value := by
  obtain ⟨a, rfl, rfl⟩ := h
  cases a with
  | number n =>
    refine .word (decimal_ne_nil n) fun c hc => ?_
    have hdigit := isDigit_of_mem_decimal hc
    obtain ⟨hb, -, hq, hcomma⟩ := isPlain_of_isDigit hdigit
    refine ⟨?_, hcomma, hb⟩
    have hc := toNat_of_isDigit hdigit
    simp only [isQuote, Bool.or_eq_false_iff, decide_eq_false_iff_not]
    refine ⟨⟨hq, ?_⟩, ?_⟩ <;> intro he <;> subst he <;> revert hc <;> decide
  | label l => exact isItem_quoted (by decide) l

theorem Argument.Stands.passed {chars value : List Char} (h : Argument.Stands chars value) :
    Passed chars := by
  obtain ⟨a, rfl, rfl⟩ := h
  cases a with
  | number n =>
    refine .plain fun c hc => ?_
    have hc := toNat_of_isDigit (isDigit_of_mem_decimal hc)
    refine ⟨?_, ?_, ?_⟩ <;> intro he <;> subst he <;> revert hc <;> decide
  | label l => exact passed_literal l

theorem spelling_argument (a : Argument) (after : Bool) (rest : List Char) :
    spelling false after (a.text.toList ++ rest) = a.text.toList ++ spelling false false rest := by
  cases a with
  | number n =>
    have hplain : ∀ c ∈ (decimal n).toList, IsPlain c :=
      fun c hc => isPlain_of_isDigit (isDigit_of_mem_decimal hc)
    exact spelling_plain hplain (decimal_ne_nil n) after rest
  | label l => exact spelling_literal l after rest

theorem spelling_eq_argument {a : Argument} {cs rest : List Char}
    (h : spelling false false cs = a.text.toList ++ rest) :
    ∃ ds, cs = a.text.toList ++ ds ∧ spelling false false ds = rest := by
  cases a with
  | label l => exact spelling_eq_literal h
  | number n =>
    obtain ⟨w, ds, rfl, hw, hds⟩ := spelling_eq_word
      (fun c hc => (isPlain_of_isDigit (isDigit_of_mem_decimal hc)).2.2) h
    refine ⟨ds, ?_, hds⟩
    congr 1
    -- Digits have no case: a character that is spelled as a digit is that digit.
    have hsame : ∀ c ∈ w, c.toUpper = id c := by
      intro c hc
      have hup : c.toUpper ∈ (decimal n).toList := hw ▸ List.mem_map_of_mem hc
      exact (eq_of_toUpper_eq rfl (isUpper_of_isDigit (isDigit_of_mem_decimal hup))).symm
    rw [List.map_congr_left hsame, List.map_id] at hw
    exact hw

/-! ## Argument lists -/

/-- The texts of arguments, with this between neighbours. -/
def Argument.joined (separator : List Char) (args : List Argument) : List Char :=
  separator.intercalate (args.map fun a => a.text.toList)

theorem Argument.joined_cons (separator : List Char) (a b : Argument) (args : List Argument) :
    joined separator (a :: b :: args) = a.text.toList ++ (separator ++ joined separator (b :: args)) := by
  simp [joined, List.intercalate_cons_cons]

theorem Argument.text_ne_nil (a : Argument) : a.text.toList ≠ [] := by
  cases a with
  | number n => exact decimal_ne_nil n
  | label l => simp [text, toList_literal]

theorem spelling_joined {separator : List Char} (hsep : separator = [','] ∨ separator = [',', ' '])
    {args : List Argument} (hne : args ≠ []) (after : Bool) (rest : List Char) :
    spelling false after (Argument.joined separator args ++ rest) =
      Argument.joined [','] args ++ spelling false false rest := by
  have hafter : ∀ cs, spelling false false (separator ++ cs) = ',' :: spelling false true cs := by
    intro cs
    rcases hsep with rfl | rfl
    · exact spelling_cons (by decide) false cs
    · rw [List.cons_append, spelling_cons (by decide)]
      rfl
  induction args generalizing after with
  | nil => exact absurd rfl hne
  | cons a args ih =>
    cases args with
    | nil => simp only [Argument.joined, List.map_singleton, List.intercalate_singleton, spelling_argument]
    | cons b args =>
      simp only [Argument.joined_cons, List.append_assoc]
      rw [spelling_argument, hafter, ih (by simp)]
      rfl

/-- A list of arguments stands in every text of its spelling, up to blanks around the commas. -/
theorem spelling_eq_joined {args : List Argument} (hne : args ≠ []) {after : Bool}
    {cs rest : List Char}
    (h : spelling false after cs = Argument.joined [','] args ++ ')' :: rest) :
    ∃ inner ds, cs = inner ++ ')' :: ds ∧ spelling false false ds = rest ∧
      ListedItems Argument.Stands inner (args.map fun a => a.value.toList) := by
  induction args generalizing after cs with
  | nil => exact absurd rfl hne
  | cons a args ih =>
    have hgap : ∀ tail, spelling false after cs = a.text.toList ++ tail →
        ∃ gap ds, cs = gap ++ (a.text.toList ++ ds) ∧ (∀ b ∈ gap, isBlank b = true) ∧
          spelling false false ds = tail := by
      intro tail htail
      obtain ⟨c, text, htext⟩ := List.exists_cons_of_ne_nil a.text_ne_nil
      rw [htext, List.cons_append] at htail
      obtain ⟨gap, ds, rfl, hgap, hds⟩ := spelling_eq_after htail
      rw [← List.cons_append, ← htext] at hds
      obtain ⟨es, rfl, hes⟩ := spelling_eq_argument hds
      exact ⟨gap, es, rfl, hgap, hes⟩
    cases args with
    | nil =>
      simp only [Argument.joined, List.map_singleton, List.intercalate_singleton] at h
      obtain ⟨gap, ds, rfl, hblank, hds⟩ := hgap _ h
      obtain ⟨x, es, rfl, hx, hes⟩ := spelling_eq_cons (by decide) hds
      obtain rfl := eq_of_toUpper_eq hx (by decide)
      refine ⟨gap ++ a.text.toList ++ [], es, by simp, hes, ?_⟩
      exact .single hblank ⟨a, rfl, rfl⟩ (by simp)
    | cons b args =>
      rw [Argument.joined_cons, List.append_assoc, List.append_assoc] at h
      obtain ⟨gap, ds, rfl, hblank, hds⟩ := hgap _ h
      obtain ⟨gap', es, rfl, hblank', hes⟩ := spelling_eq_comma hds
      obtain ⟨inner, fs, rfl, hfs, hlisted⟩ := ih (by simp) hes
      refine ⟨gap ++ a.text.toList ++ gap' ++ ',' :: inner, fs, by simp, hfs, ?_⟩
      exact .cons hblank ⟨a, rfl, rfl⟩ hblank' hlisted

/-! ## Types -/

/-- The text of a type, with this between its arguments. -/
def typeChars (separator : List Char) (base : String) (args : List Argument) : List Char :=
  base.toList ++ if args = [] then [] else '(' :: (Argument.joined separator args ++ [')'])

theorem isPlain_of_isUpper {c : Char} (h : c.isUpper = true) : IsPlain c := by
  have halpha : c.isAlpha = true := isAlpha_iff.2 (.inl h)
  refine ⟨isBlank_of_isAlpha halpha, toUpper_eq_self fun hl => ?_, ?_, ?_⟩
  · rw [isUpper_iff] at h
    rw [isLower_iff] at hl
    omega
  · intro he
    subst he
    simp at h
  · intro he
    subst he
    simp at h

theorem spelling_typeChars {separator : List Char} (hsep : separator = [','] ∨ separator = [',', ' '])
    {base : String} (hne : base ≠ "") (hbase : ∀ c ∈ base.toList, c.isUpper = true)
    (args : List Argument) :
    spelling false false (typeChars separator base args) = typeChars [','] base args := by
  have hplain : ∀ c ∈ base.toList, IsPlain c := fun c hc => isPlain_of_isUpper (hbase c hc)
  rw [typeChars, spelling_plain hplain (mt String.toList_eq_nil_iff.1 hne), typeChars]
  by_cases hargs : args = []
  · rw [if_pos hargs, if_pos hargs]
    rfl
  · rw [if_neg hargs, if_neg hargs, spelling_cons (by decide)]
    have hparen : ('(' == '\'') = false ∧ ('(' == ',') = false := by decide
    rw [hparen.1, hparen.2, spelling_joined hsep hargs]
    rfl

/-- Letters read in upper case are the letters that their spelling has. -/
theorem upperWords_of_spelled {base : String} (hne : base ≠ "")
    (hbase : ∀ c ∈ base.toList, c.isUpper = true) {cs : List Char}
    (hcs : cs.map Char.toUpper = base.toList) :
    '(' ∉ cs ∧ upperWords (String.ofList cs) = base := by
  have halpha : ∀ c ∈ cs, c.isAlpha = true := by
    intro c hc
    exact isAlpha_of_toUpper_eq rfl (hbase _ (hcs ▸ List.mem_map_of_mem hc))
  refine ⟨fun h => absurd (halpha _ h) (by decide), ?_⟩
  have hcsne : cs ≠ [] := by
    intro he
    rw [he, List.map_nil] at hcs
    exact hne (String.toList_eq_nil_iff.1 hcs.symm)
  rw [upperWords_word hcsne fun c hc => isBlank_of_isAlpha (halpha c hc), upper,
    String.toList_ofList, ← String.ofList_toList (s := base), ← hcs]
  congr 1
  rw [List.map_eq_flatMap]
  refine List.flatMap_congr fun c hc => ?_
  have hlt := toNat_lt_of_isAlpha (halpha c hc)
  exact upperChar_ascii (by omega)

/-- **Any print of a type is read as its base and its arguments.** -/
theorem read_of_spelling {base : String} (hne : base ≠ "")
    (hbase : ∀ c ∈ base.toList, c.isUpper = true) (args : List Argument) {printed : String}
    (h : spelling false false printed.toList = typeChars [','] base args) :
    NativeType.read printed = ⟨base, (args.map Argument.value).filter (· ≠ ""), ""⟩ := by
  have hw : ∀ c ∈ base.toList, c ≠ '\'' ∧ c ≠ ',' := by
    intro c hc
    have hup := hbase c hc
    constructor <;> intro he <;> subst he <;> simp at hup
  obtain ⟨cs, ds, hprinted, hcs, hds⟩ := spelling_eq_word hw h
  obtain ⟨hparen, hread⟩ := upperWords_of_spelled hne hbase hcs
  rw [← String.ofList_toList (s := printed), hprinted]
  by_cases hargs : args = []
  · rw [if_pos hargs] at hds
    rw [spelling_eq_nil hds, List.append_nil, read_bare hparen, hread, hargs]
    rfl
  · rw [if_neg hargs] at hds
    obtain ⟨x, es, rfl, hx, hes⟩ := spelling_eq_cons (by decide) hds
    obtain rfl := eq_of_toUpper_eq hx (by decide)
    obtain ⟨inner, fs, rfl, hfs, hlisted⟩ := spelling_eq_joined hargs hes
    rw [read_parts hparen (.listed (fun _ _ hs => Argument.Stands.passed hs) hlisted), hread,
      spelling_eq_nil hfs, splitList_listed (by
        rw [String.toList_ofList]
        exact hlisted.mono fun _ _ hs => Argument.Stands.isItem hs)]
    simp [Function.comp_def, upperWords, singleSpaced, words, wordsChars, upper]

/-! ## Columns -/

/-- The base of the type that MySQL gives a column; an enum has labels. -/
def mySqlBase : ColumnType → String
  | .smallInt => "SMALLINT"
  | .integer => "INT"
  | .bigInt => "BIGINT"
  | .decimal => "DECIMAL"
  | .smallFloat => "FLOAT"
  | .float => "DOUBLE"
  | .string => "VARCHAR"
  | .text => "TEXT"
  | .uuid => "CHAR"
  | .binary => "VARBINARY"
  | .blob => "BLOB"
  | .boolean => "TINYINT"
  | .date => "DATE"
  | .dateTime => "DATETIME"
  | .dateTimeTz => "TIMESTAMP"
  | .time => "TIME"
  | .array => "LONGTEXT"
  | .json => "JSON"
  | .enum => "ENUM"

/-- The arguments of the type that MySQL gives a column. -/
def mySqlArguments (c : Column) : List Argument :=
  match c.type with
  | .decimal =>
    [.number (c.precision.getD defaultPrecision), .number (c.scale.getD defaultScale)]
  | .string | .binary => [.number (c.length.getD defaultLength)]
  | .uuid => [.number 36]
  | .boolean => [.number 1]
  | .dateTime | .dateTimeTz | .time => c.precision.toList.map .number
  | .enum => c.enumOptions.map .label
  | _ => []

/-- The sizes of a column that its type uses. -/
def usedSizes (c : Column) : Sizes :=
  match c.type with
  | .string | .binary => { length := c.length }
  | .decimal => { precision := c.precision, scale := c.scale }
  | .dateTime | .dateTimeTz | .time => { precision := c.precision }
  | _ => {}

theorem mySqlBase_ne_empty (t : ColumnType) : mySqlBase t ≠ "" := by
  cases t <;> simp [mySqlBase]

theorem isUpper_mySqlBase (t : ColumnType) : ∀ c ∈ (mySqlBase t).toList, c.isUpper = true := by
  cases t <;> simp [mySqlBase]

theorem columnType_mySqlBase (t : ColumnType) (args : List String) (suffix : String) :
    MySql.columnType ⟨mySqlBase t, args, suffix⟩ = t := by
  cases t <;> rfl

theorem typeName_chars (c : Column) (hc : c.type = .enum → c.enumOptions ≠ []) :
    ∃ separator, (separator = [','] ∨ separator = [',', ' ']) ∧
      (Dialect.mySql.typeName c).toList =
        typeChars separator (mySqlBase c.type) (mySqlArguments c) := by
  obtain ⟨name, type, length, nullable, unique, default, options, precision, scale⟩ := c
  cases type with
  | enum =>
    refine ⟨[',', ' '], .inr rfl, ?_⟩
    have hoptions : options ≠ [] := hc rfl
    simp [Dialect.typeName, Column.enumLabels?, hoptions, labelList, commaList, typeChars, mySqlBase,
      mySqlArguments, Argument.joined, String.toList_intercalate, Function.comp_def, Argument.text]
  | dateTime | dateTimeTz | time =>
    refine ⟨[','], .inl rfl, ?_⟩
    cases precision <;>
      simp [Dialect.typeName, Column.enumLabels?, Dialect.bareTypeName, Column.commonTypeName,
        Column.secondsName, typeChars, mySqlBase, mySqlArguments, Argument.joined, Argument.text]
  | uuid | boolean =>
    refine ⟨[','], .inl rfl, ?_⟩
    have hdecimal : decimal 36 = "36" ∧ decimal 1 = "1" := by decide
    simp [Dialect.typeName, Column.enumLabels?, Dialect.bareTypeName, Column.commonTypeName,
      typeChars, mySqlBase, mySqlArguments, Argument.joined, Argument.text, hdecimal]
  | _ =>
    refine ⟨[','], .inl rfl, ?_⟩
    simp [Dialect.typeName, Column.enumLabels?, Dialect.bareTypeName, Column.commonTypeName,
      Column.sizedName, typeChars, mySqlBase, mySqlArguments, Argument.joined, Argument.text]

theorem numbers?_map_number (base suffix : String) (ns : List UInt32) :
    NativeType.numbers? ⟨base, (ns.map Argument.number).map Argument.value, suffix⟩ = some ns := by
  rw [NativeType.numbers?]
  induction ns with
  | nil => rfl
  | cons n ns ih =>
    simp only [List.map_cons, List.mapM_cons, Argument.value, number32?_decimal] at ih ⊢
    rw [ih]
    rfl

theorem sizes_mySqlArguments (c : Column) (hc : c.type ≠ .enum) (base suffix : String) :
    NativeType.sizes ⟨base, (mySqlArguments c).map Argument.value, suffix⟩ c.type =
      usedSizes c.effective := by
  have hsizes : ∀ ns, mySqlArguments c = ns.map Argument.number →
      NativeType.sizes ⟨base, (mySqlArguments c).map Argument.value, suffix⟩ c.type =
        Sizes.ofNumbers c.type ns := by
    intro ns hns
    rw [NativeType.sizes, hns, numbers?_map_number]
  obtain ⟨name, type, length, nullable, unique, default, options, precision, scale⟩ := c
  cases type with
  | enum => exact absurd rfl hc
  | decimal => exact hsizes [precision.getD defaultPrecision, scale.getD defaultScale] rfl
  | string | binary => exact hsizes [length.getD defaultLength] rfl
  | uuid => exact hsizes [36] rfl
  | boolean => exact hsizes [1] rfl
  | dateTime | dateTimeTz | time =>
    rw [hsizes precision.toList rfl]
    cases precision <;> rfl
  | _ => exact hsizes [] rfl

theorem label_mem_mySqlArguments {c : Column} {l : String} (h : .label l ∈ mySqlArguments c) :
    c.type = .enum ∧ l ∈ c.enumOptions := by
  unfold mySqlArguments at h
  cases ht : c.type <;> simp [ht] at h ⊢
  exact h

/-- What the reader makes of any print of a column's type. -/
theorem read_typeName (c : Column)
    (hc : c.type = .enum → c.enumOptions ≠ [] ∧ ∀ l ∈ c.enumOptions, l ≠ "") {printed : String}
    (hs : SameSpelling printed (Dialect.mySql.typeName c)) :
    NativeType.read printed =
      ⟨mySqlBase c.type, (mySqlArguments c).map Argument.value, ""⟩ := by
  obtain ⟨separator, hsep, hchars⟩ := typeName_chars c fun he => (hc he).1
  have hne := mySqlBase_ne_empty c.type
  have hup := isUpper_mySqlBase c.type
  have hvalue : ∀ v ∈ (mySqlArguments c).map Argument.value, decide (v ≠ "") = true := by
    intro v hv
    obtain ⟨a, ha, rfl⟩ := List.mem_map.1 hv
    rw [decide_eq_true_eq]
    cases a with
    | number n => exact mt (congrArg String.toList) (decimal_ne_nil n)
    | label l =>
      obtain ⟨he, hl⟩ := label_mem_mySqlArguments ha
      exact (hc he).2 l hl
  rw [SameSpelling, hchars, spelling_typeChars hsep hne hup] at hs
  rw [read_of_spelling hne hup _ hs, List.filter_eq_self.2 hvalue]

/--
**MySQL types read back.** Whatever case and blanks a catalog prints the type of a column in, its
row is read as a column of the same type, with the same labels in order if it is an enum, and
otherwise with the sizes that the type uses and no others.
-/
theorem readColumn_typeName (c : Column)
    (hc : c.type = .enum → c.enumOptions ≠ [] ∧ ∀ l ∈ c.enumOptions, l ≠ "")
    (sql : String) (row : Row) {name printed : String} (hname : row.get? "Field" = some name)
    (htype : row.get? "Type" = some printed)
    (hs : SameSpelling printed (Dialect.mySql.typeName c)) :
    ∃ r, MySql.readColumn sql row = .ok r ∧ r.type = c.type ∧
      (c.type = .enum → r.enumOptions = c.enumOptions) ∧
      (c.type ≠ .enum →
        ({ length := r.length, precision := r.precision, scale := r.scale } : Sizes) =
          usedSizes c.effective) := by
  have hread := read_typeName c hc hs
  have hfield : row.require sql "Field" = .ok name := by rw [Row.require, hname]
  have hprinted : row.require sql "Type" = .ok printed := by rw [Row.require, htype]
  rw [MySql.readColumn, hfield, hprinted]
  refine ⟨_, rfl, ?_, ?_, ?_⟩
  · rw [hread, columnType_mySqlBase]
  · intro he
    rw [hread, columnType_mySqlBase, if_pos he, mySqlArguments, he]
    simp [Argument.value, Function.comp_def]
  · intro he
    rw [hread, columnType_mySqlBase, ← sizes_mySqlArguments c he]

/-- A column whose labels hold a quote, a comma, blanks and parentheses. -/
def shirtSize : Column :=
  { name := "size", type := .enum, enumOptions := ["it's S, M", "(L)", " XL )"] }

theorem readColumn_typeName_shirt :
    ∃ r, MySql.readColumn ""
        (.ofPairs [("Field", "size"), ("Type", "enum('it''s S, M','(L)' , ' XL )')")]) = .ok r ∧
      r.type = shirtSize.type ∧
      (shirtSize.type = .enum → r.enumOptions = shirtSize.enumOptions) ∧
      (shirtSize.type ≠ .enum →
        ({ length := r.length, precision := r.precision, scale := r.scale } : Sizes) =
          usedSizes shirtSize.effective) :=
  readColumn_typeName shirtSize (by decide) "" _ rfl rfl (by decide)

end SchemaSync.Catalog
