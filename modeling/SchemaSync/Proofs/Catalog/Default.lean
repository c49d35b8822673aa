/-
Default values read back from a catalog.

MySQL prints a literal without its quotes, so a text is told from a number by
its looks alone, whatever the type of the column. A text default is read back
as itself exactly if it does not look like a number
(`readColumn_literalDefault_iff`).

Postgres prints a literal in quotes, and keywords and numbers without. Every
such print, with a cast behind it or without one, is read back as the value
that it prints (`alignDefault_of_printed`).
-/
import SchemaSync.Proofs.Catalog.MySqlType
import SchemaSync.Proofs.Change.Agreement
import SchemaSync.Proofs.Text.Lexeme

namespace SchemaSync

/-- A column differs from itself under another default exactly where the defaults differ. -/
theorem Column.diffColumns_default_eq_nil_iff {c : Column} {v : Option DefaultValue} :
    diffColumns [c] [{ c with default := v }] = [] ↔ v = c.default := by
  have hname : c.name = { c with default := v }.name := rfl
  rw [diffColumns_singleton_eq_nil_iff hname]
  simp [effective, takesNull, wantsAutoIncrement, eq_comm]

namespace Catalog

open Text

/-! ## Alignment with a type -/

/-- Whether a value is written as a keyword. -/
def IsKeyword : DefaultValue → Prop
  | .null | .bool _ => True
  | _ => False

/-- A column that holds neither numbers nor truth values takes a default as it was classified. -/
theorem alignDefault_eq_self {type : ColumnType} (hnumeric : type.isNumeric = false)
    (hboolean : type ≠ .boolean) (v : DefaultValue) : alignDefault type v = v := by
  cases v <;> simp [alignDefault, hnumeric, hboolean]

theorem ne_boolean_of_isNumeric {type : ColumnType} (h : type.isNumeric = true) :
    type ≠ .boolean := by
  rintro rfl
  cases h

/-- On a numeric column a number is a number, printed as a number or as a text. -/
theorem alignDefault_number {type : ColumnType} (h : type.isNumeric = true) (n : String) :
    alignDefault type (.number n) = .number n := by
  simp [alignDefault, ne_boolean_of_isNumeric h]

theorem alignDefault_text_of_isNumeric {type : ColumnType} (h : type.isNumeric = true) {n : String}
    (hn : isNumeric n = true) : alignDefault type (.text n) = .number n := by
  simp [alignDefault, ne_boolean_of_isNumeric h, h, hn]

theorem alignDefault_of_isKeyword {v : DefaultValue} (h : IsKeyword v) (type : ColumnType) :
    alignDefault type v = v := by
  cases v with
  | null => rfl
  | bool b => rfl
  | number n => cases h
  | text s => cases h
  | expression sql => rfl

/-! ## MySQL -/

/-- The types of columns that hold texts. -/
def IsTextual (type : ColumnType) : Prop :=
  type = .string ∨ type = .text ∨ type = .enum

/-- Whether a print without quotes is NULL, or begins like an expression, in any case. -/
def NamesExpression (raw : String) : Prop :=
  upper (trim raw) = "NULL" ∨
    ∃ word ∈ mySqlExpressions, beginsWith (upper (trim raw)) word = true

instance (raw : String) : Decidable (NamesExpression raw) :=
  inferInstanceAs (Decidable (_ ∨ _))

theorem mySqlDefault_of_literal {raw : String} (h : ¬ NamesExpression raw) :
    mySqlDefault false raw = if isNumeric (trim raw) then .number (trim raw) else .text raw := by
  obtain ⟨hnull, hwords⟩ := not_or.1 h
  have hany : mySqlExpressions.any (beginsWith (upper (trim raw))) = false := by simpa using hwords
  simp [mySqlDefault, hnull, hany]

theorem alignDefault_of_isTextual {type : ColumnType} (h : IsTextual type) (v : DefaultValue) :
    alignDefault type v = v := by
  refine alignDefault_eq_self ?_ ?_ v
  · rcases h with rfl | rfl | rfl <;> rfl
  · rcases h with rfl | rfl | rfl <;> decide

/--
**A text default is read back as itself unless it looks like a number.** The row of a textual column
that prints a literal, which is neither NULL nor the front of an expression, is read. The default is
the text where it is no number between its blanks, and otherwise that number; so exactly the texts
that are no numbers are not in the difference.
-/
theorem readColumn_literalDefault_iff (sql : String) (row : Row) {name printed s : String}
    (hfield : row.get? "Field" = some name) (hprinted : row.get? "Type" = some printed)
    (htype : IsTextual (MySql.columnType (NativeType.read printed)))
    (hextra : hasPart (lower ((row.get? "Extra").getD "")) "default_generated" = false)
    (hdefault : row.get? "Default" = some s) (hs : ¬ NamesExpression s) :
    ∃ r, MySql.readColumn sql row = .ok r ∧
      r.default = some (if isNumeric (trim s) then .number (trim s) else .text s) ∧
      (r.default = some (.text s) ↔ isNumeric (trim s) = false) ∧
      ∀ c : Column, c.default = some (.text s) →
        (diffColumns [c] [{ c with default := r.default }] = [] ↔ isNumeric (trim s) = false) := by
  have hname : row.require sql "Field" = .ok name := by rw [Row.require, hfield]
  have htext : row.require sql "Type" = .ok printed := by rw [Row.require, hprinted]
  obtain ⟨r, hread, hr⟩ : ∃ r, MySql.readColumn sql row = .ok r ∧
      r.default = some (if isNumeric (trim s) then .number (trim s) else .text s) := by
    rw [MySql.readColumn, hname, htext]
    refine ⟨_, rfl, ?_⟩
    rw [hdefault, hextra, Option.map_some, mySqlDefault_of_literal hs,
      alignDefault_of_isTextual htype]
  have hsame : r.default = some (.text s) ↔ isNumeric (trim s) = false := by
    rw [hr]
    cases isNumeric (trim s) <;> simp
  refine ⟨r, hread, hr, hsame, fun c hc => ?_⟩
  rw [Column.diffColumns_default_eq_nil_iff, hc, hsame]

/-- The row of a column of this type with this default. -/
def defaultRow (printed default : String) : Row :=
  .ofPairs [("Field", "code"), ("Type", printed), ("Default", default), ("Extra", "")]

theorem readColumn_literalDefault_dashed :
    ¬ NamesExpression " now: 4-2" ∧
      ∃ r, MySql.readColumn "" (defaultRow "enum(' now: 4-2','b')" " now: 4-2") = .ok r ∧
        r.default = some (.text " now: 4-2") := by
  have hs : ¬ NamesExpression " now: 4-2" := by decide +kernel
  obtain ⟨r, hread, -, hsame, -⟩ :=
    readColumn_literalDefault_iff "" (defaultRow "enum(' now: 4-2','b')" " now: 4-2") rfl rfl
      (.inr (.inr (by decide +kernel))) (by decide +kernel) rfl hs
  exact ⟨hs, r, hread, hsame.2 (by decide +kernel)⟩

/-- A code of digits is read back as a number from a column of texts, and differs from itself. -/
theorem not_readBack_digits :
    ¬ NamesExpression "42" ∧
      ∃ r, MySql.readColumn "" (defaultRow "varchar(255)" "42") = .ok r ∧ r.type = .string ∧
        r.default = some (.number "42") ∧
        diffColumns [{ r with default := some (.text "42") }] [r] ≠ [] :=
  ⟨by decide +kernel, _, rfl, by decide +kernel, by decide +kernel, by decide +kernel⟩

/-! ## Postgres -/

/-- The cast behind a value, if one is printed. -/
def castTo : Option String → String
  | none => ""
  | some type => "::" ++ type

/-- Whether a text is a word with each of its letters in either case. -/
def InAnyCase (s word : String) : Prop :=
  s.toList.map Char.toUpper = word.toList

/-- How Postgres prints a value as the default of a column, with a cast or without one: a text in
quotes, a number by itself, in parentheses or in quotes, and a keyword in any case. -/
inductive Printed : DefaultValue → String → Prop
  | text (s : String) (cast : Option String) :
      Printed (.text s) ((DefaultValue.text s).sql ++ castTo cast)
  | number (n : String) (cast : Option String) : Printed (.number n) (n ++ castTo cast)
  | inParens (n : String) (cast : Option String) :
      Printed (.number n) ("(" ++ n ++ ")" ++ castTo cast)
  | quotedNumber (n : String) (cast : Option String) :
      Printed (.number n) (literal n ++ castTo cast)
  | keyword {v : DefaultValue} {word : String} (hv : IsKeyword v) (h : InAnyCase word v.sql)
      (cast : Option String) : Printed v (word ++ castTo cast)

/-- Whether a value may be the default of a column of this type: a text where neither numbers nor
truth values are held, a number where numbers are, a keyword anywhere. -/
def Suits (type : ColumnType) : DefaultValue → Prop
  | .text _ => type.isNumeric = false ∧ type ≠ .boolean
  | .number n => type.isNumeric = true ∧ isNumeric n = true
  | .null | .bool _ => True
  | .expression _ => False

/-! ### Casts -/

theorem toList_castTo_some (type : String) :
    (castTo (some type)).toList = ':' :: ':' :: type.toList := by
  simp [castTo]

theorem castTo_head (cast : Option String) {c : Char} (h : c ≠ ':') :
    (castTo cast).toList.head? ≠ some c := by
  cases cast with
  | none => simp [castTo]
  | some type => simpa [toList_castTo_some] using h.symm

/-- Trimming a print reaches no further than into its cast. -/
theorem trimChars_cast {cs : List Char} (hhead : ∀ c ∈ cs.head?, isBlank c = false)
    (hlast : ∀ c ∈ cs.getLast?, isBlank c = false) (cast : Option String) :
    ∃ cast', trimChars (cs ++ (castTo cast).toList) = cs ++ (castTo cast').toList := by
  cases cast with
  | none => exact ⟨none, by simpa [castTo] using trimChars_eq_self hhead hlast⟩
  | some type =>
    have hstart : trimStartChars cs = cs := by
      cases cs with
      | nil => rfl
      | cons c cs => exact List.dropWhile_cons_of_neg (by simp [hhead c rfl])
    refine ⟨some (String.ofList (trimEndChars type.toList)), ?_⟩
    rw [toList_castTo_some, toList_castTo_some, String.toList_ofList, trimChars,
      trimStartChars_append_cons rfl, hstart, ← List.singleton_append, ← List.append_assoc,
      trimEndChars_append_cons rfl, List.append_assoc, List.singleton_append]

theorem beforeCast_cons_ne {c : Char} (h : c ≠ ':') (cs : List Char) :
    beforeCast (c :: cs) = c :: beforeCast cs := by
  cases cs with
  | nil => rfl
  | cons d cs => simp [beforeCast, h]

theorem beforeCast_append {cs : List Char} (h : ∀ c ∈ cs, c ≠ ':') (cast : Option String) :
    beforeCast (cs ++ (castTo cast).toList) = cs := by
  induction cs with
  | nil =>
    cases cast with
    | none => rfl
    | some type => simp [toList_castTo_some, beforeCast]
  | cons c cs ih =>
    obtain ⟨hc, hcs⟩ := List.forall_mem_cons.1 h
    rw [List.cons_append, beforeCast_cons_ne hc, ih hcs]

/-! ### Literals -/

/-- The reader of literals is the scanner of quoted texts, what follows left out. -/
theorem literalText?_eq (cs : List Char) : literalText? cs = (scanInside '\'' cs).map (·.1) := by
  induction cs using literalText?.induct with
  | case1 => rfl
  | case2 => simp [literalText?, scanInside]
  | case3 c hc => simp [literalText?, scanInside, hc]
  | case4 rest ih => simp [literalText?, scanInside, ih, Function.comp_def]
  | case5 d rest hd => simp [literalText?, scanInside, hd]
  | case6 c d rest hc ih => simp [literalText?, scanInside, hc, ih, Function.comp_def]

theorem postgresDefault_literal (s : String) (cast : Option String) :
    postgresDefault (literal s ++ castTo cast) = .text s := by
  have hquote : isBlank '\'' = false := rfl
  have hhead : ∀ c ∈ (literal s).toList.head?, isBlank c = false := by
    simp [toList_literal, hquote]
  have hlast : ∀ c ∈ (literal s).toList.getLast?, isBlank c = false := by
    simp [toList_literal, List.getLast?_cons, hquote]
  obtain ⟨cast', htrim⟩ := trimChars_cast hhead hlast cast
  have hchars : trimChars (literal s ++ castTo cast).toList =
      '\'' :: (doubled '\'' s.toList ++ '\'' :: (castTo cast').toList) := by
    rw [String.toList_append, htrim, toList_literal]
    simp
  have hread : literalText? (doubled '\'' s.toList ++ '\'' :: (castTo cast').toList) =
      some s.toList := by
    rw [literalText?_eq, scanInside_doubled _ _ (castTo_head cast' (by decide)), Option.map_some]
  rw [postgresDefault, hchars]
  simp only [hread, String.ofList_toList]

/-! ### Prints without quotes -/

/-- The value of a print without quotes, cast and parentheses, `other` if it is none that is
known. -/
def bareValue (other : DefaultValue) (cs : List Char) : DefaultValue :=
  let word := lower (String.ofList cs)
  if word = "null" then .null
  else if word = "true" then .bool true
  else if word = "false" then .bool false
  else if isNumber cs then .number (String.ofList cs)
  else other

theorem postgresDefault_unquoted {body : List Char} (hquote : body.head? ≠ some '\'')
    (hbody : ∀ c ∈ body, isBlank c = false ∧ c ≠ ':') (cast : Option String) :
    ∃ other, postgresDefault (String.ofList body ++ castTo cast) =
      bareValue other (withoutParens body) := by
  have hhead : ∀ c ∈ body.head?, isBlank c = false :=
    fun c hc => (hbody c (List.mem_of_mem_head? hc)).1
  have hlast : ∀ c ∈ body.getLast?, isBlank c = false :=
    fun c hc => (hbody c (List.mem_of_getLast? hc)).1
  obtain ⟨cast', htrim⟩ := trimChars_cast hhead hlast cast
  have hchars : trimChars (String.ofList body ++ castTo cast).toList =
      body ++ (castTo cast').toList := by
    rw [String.toList_append, String.toList_ofList, htrim]
  rw [postgresDefault, hchars]
  split
  · next rest hopen =>
    -- Neither the print nor the cast begins with a quote.
    exfalso
    have hfirst : (body ++ (castTo cast').toList).head? = some '\'' := by rw [hopen]; rfl
    cases body with
    | nil => exact castTo_head cast' (by decide) hfirst
    | cons c body => exact hquote hfirst
  · rw [beforeCast_append (fun c hc => (hbody c hc).2), trimChars_eq_self hhead hlast]
    exact ⟨_, rfl⟩

/-- A character of a number or of a word: none of these opens a quoted text, a parenthesis or a
cast. -/
def IsBareChar (c : Char) : Prop :=
  (42 < c.toNat ∧ c.toNat < 58) ∨ (64 < c.toNat ∧ c.toNat < 123)

instance (c : Char) : Decidable (IsBareChar c) :=
  inferInstanceAs (Decidable (_ ∨ _))

theorem IsBareChar.isBlank {c : Char} (h : IsBareChar c) : isBlank c = false := by
  rw [IsBareChar] at h
  rw [← Bool.not_eq_true, isBlank_ascii (by omega)]
  omega

theorem IsBareChar.ne {c d : Char} (hc : IsBareChar c) (hd : ¬ IsBareChar d) : c ≠ d := by
  rintro rfl
  exact hd hc

theorem withoutParens_inParens (cs : List Char) : withoutParens ('(' :: (cs ++ [')'])) = cs := by
  simp [withoutParens]

theorem withoutParens_of_bare {cs : List Char} (h : ∀ c ∈ cs, IsBareChar c) :
    withoutParens cs = cs := by
  cases cs with
  | nil => rfl
  | cons c cs =>
    have hc : c ≠ '(' := (h c List.mem_cons_self).ne (by decide)
    simp [withoutParens, hc]

theorem postgresDefault_bare {s : String} (h : ∀ c ∈ s.toList, IsBareChar c)
    (cast : Option String) :
    ∃ other, postgresDefault (s ++ castTo cast) = bareValue other s.toList := by
  have hquote : s.toList.head? ≠ some '\'' := fun he =>
    (h _ (List.mem_of_mem_head? he)).ne (by decide) rfl
  have hbody : ∀ c ∈ s.toList, isBlank c = false ∧ c ≠ ':' := fun c hc =>
    ⟨(h c hc).isBlank, (h c hc).ne (by decide)⟩
  obtain ⟨other, hvalue⟩ := postgresDefault_unquoted hquote hbody cast
  rw [String.ofList_toList, withoutParens_of_bare h] at hvalue
  exact ⟨other, hvalue⟩

theorem postgresDefault_inParens {s : String} (h : ∀ c ∈ s.toList, IsBareChar c)
    (cast : Option String) :
    ∃ other, postgresDefault ("(" ++ s ++ ")" ++ castTo cast) = bareValue other s.toList := by
  have hwhole : "(" ++ s ++ ")" = String.ofList ('(' :: (s.toList ++ [')'])) := by
    rw [← String.toList_inj]
    simp
  have hbody : ∀ c ∈ '(' :: (s.toList ++ [')']), isBlank c = false ∧ c ≠ ':' := by
    intro c hc
    simp only [List.mem_cons, List.mem_append, List.not_mem_nil, or_false] at hc
    rcases hc with rfl | hc | rfl
    · decide
    · exact ⟨(h c hc).isBlank, (h c hc).ne (by decide)⟩
    · decide
  obtain ⟨other, hvalue⟩ := postgresDefault_unquoted (by simp) hbody cast
  rw [withoutParens_inParens, ← hwhole] at hvalue
  exact ⟨other, hvalue⟩

/-! ### Keywords -/

theorem isAlpha_of_inAnyCase {s word : String} (h : InAnyCase s word)
    (hword : ∀ c ∈ word.toList, c.isUpper = true) {c : Char} (hc : c ∈ s.toList) :
    c.isAlpha = true := by
  have hmem : c.toUpper ∈ word.toList := h ▸ List.mem_map_of_mem hc
  exact isAlpha_of_toUpper_eq rfl (hword _ hmem)

theorem toLower_toUpper_ascii {c : Char} (h : c.toNat < 128) : c.toUpper.toLower = c.toLower := by
  have hall : ∀ n < 128, (Char.ofNat n).toUpper.toLower = (Char.ofNat n).toLower := by decide
  rw [← Char.ofNat_toNat c]
  exact hall _ h

theorem lower_of_inAnyCase {s word : String} (h : InAnyCase s word)
    (hword : ∀ c ∈ word.toList, c.isUpper = true) :
    lower s = String.ofList (word.toList.map Char.toLower) := by
  have hascii : ∀ c ∈ s.toList, c.toNat < 128 := fun c hc =>
    Nat.lt_trans (toNat_lt_of_isAlpha (isAlpha_of_inAnyCase h hword hc)).2 (by decide)
  rw [← String.toList_inj, toList_lower_ascii hascii, String.toList_ofList, ← h, List.map_map]
  exact List.map_congr_left fun c hc => (toLower_toUpper_ascii (hascii c hc)).symm

theorem isUpper_of_isKeyword {v : DefaultValue} (hv : IsKeyword v) :
    ∀ c ∈ v.sql.toList, c.isUpper = true := by
  rw [← List.all_eq_true]
  cases v with
  | null => rfl
  | bool b => cases b <;> rfl
  | number n => cases hv
  | text s => cases hv
  | expression sql => cases hv

theorem bareValue_of_isKeyword {v : DefaultValue} (hv : IsKeyword v) {s : String}
    (h : InAnyCase s v.sql) (other : DefaultValue) : bareValue other s.toList = v := by
  rw [bareValue, String.ofList_toList, lower_of_inAnyCase h (isUpper_of_isKeyword hv)]
  cases v with
  | null => rfl
  | bool b => cases b <;> rfl
  | number n => cases hv
  | text s => cases hv
  | expression sql => cases hv

/-- A keyword is read in any case of its letters, with a cast or without one. -/
theorem postgresDefault_keyword {v : DefaultValue} (hv : IsKeyword v) {s : String}
    (h : InAnyCase s v.sql) (cast : Option String) : postgresDefault (s ++ castTo cast) = v := by
  have hbare : ∀ c ∈ s.toList, IsBareChar c := fun c hc =>
    .inr (toNat_lt_of_isAlpha (isAlpha_of_inAnyCase h (isUpper_of_isKeyword hv) hc))
  obtain ⟨other, hvalue⟩ := postgresDefault_bare hbare cast
  rw [hvalue, bareValue_of_isKeyword hv h]

/-! ### Numbers -/

theorem toNat_of_isUnsigned {cs : List Char} (h : isUnsigned cs = true) :
    ∀ c ∈ cs, 42 < c.toNat ∧ c.toNat < 58 := by
  intro c hc
  simp only [isUnsigned, Bool.and_eq_true, List.all_eq_true] at h
  have hchar := h.1.2 c hc
  simp only [Bool.or_eq_true, decide_eq_true_eq] at hchar
  rcases hchar with hdigit | rfl
  · have hc := toNat_of_isDigit hdigit
    omega
  · decide

/-- The characters of a number stand in front of the letters and behind the parentheses. -/
theorem toNat_of_isNumber {cs : List Char} (h : isNumber cs = true) :
    ∀ c ∈ cs, 42 < c.toNat ∧ c.toNat < 58 := by
  cases cs with
  | nil => simp
  | cons c cs =>
    rw [isNumber] at h
    split at h
    · next hsign =>
      refine List.forall_mem_cons.2 ⟨?_, toNat_of_isUnsigned h⟩
      rcases hsign with rfl | rfl <;> decide
    · exact toNat_of_isUnsigned h

/-- A number has no letters, so its lower case is itself. -/
theorem lower_of_isNumeric {n : String} (h : isNumeric n = true) : lower n = n := by
  have hchars := toNat_of_isNumber h
  have hascii : ∀ c ∈ n.toList, c.toNat < 128 := fun c hc => by
    have hc := hchars c hc
    omega
  have hall : ∀ m < 58, (Char.ofNat m).toLower = Char.ofNat m := by decide
  have hsame : ∀ c ∈ n.toList, c.toLower = c := fun c hc => by
    rw [← Char.ofNat_toNat c]
    exact hall _ (hchars c hc).2
  rw [← String.toList_inj, toList_lower_ascii hascii, List.map_congr_left hsame, List.map_id']

theorem bareValue_of_isNumeric {n : String} (h : isNumeric n = true) (other : DefaultValue) :
    bareValue other n.toList = .number n := by
  have hne : ∀ word : String, isNumeric word = false → n ≠ word := by
    rintro word hword rfl
    rw [hword] at h
    cases h
  rw [bareValue, String.ofList_toList]
  simp only [lower_of_isNumeric h, hne "null" (by decide), hne "true" (by decide),
    hne "false" (by decide), if_false]
  exact if_pos h

/-- A number is read with its parentheses or without them, with a cast or without one. -/
theorem postgresDefault_number {n : String} (h : isNumeric n = true) (cast : Option String) :
    postgresDefault (n ++ castTo cast) = .number n ∧
      postgresDefault ("(" ++ n ++ ")" ++ castTo cast) = .number n := by
  have hbare : ∀ c ∈ n.toList, IsBareChar c := fun c hc => .inl (toNat_of_isNumber h c hc)
  obtain ⟨plain, hplain⟩ := postgresDefault_bare hbare cast
  obtain ⟨inside, hinside⟩ := postgresDefault_inParens hbare cast
  rw [hplain, hinside, bareValue_of_isNumeric h, bareValue_of_isNumeric h]
  exact ⟨rfl, rfl⟩

/-! ### All prints -/

/--
**What Postgres prints is read back as the value that it prints.** A text in quotes is that text
again on every column that holds neither numbers nor truth values, whatever stands in it; a number,
in parentheses, in quotes or by itself, is that number on every numeric column; and NULL, TRUE and
FALSE are those values in any case of their letters and on every column. A cast to any type may
follow.
-/
theorem alignDefault_of_printed {type : ColumnType} {v : DefaultValue} {print : String}
    (h : Printed v print) (hv : Suits type v) : alignDefault type (postgresDefault print) = v := by
  cases h with
  | text s cast =>
    rw [DefaultValue.sql, postgresDefault_literal, alignDefault_eq_self hv.1 hv.2]
  | number n cast =>
    rw [(postgresDefault_number hv.2 cast).1, alignDefault_number hv.1]
  | inParens n cast =>
    rw [(postgresDefault_number hv.2 cast).2, alignDefault_number hv.1]
  | quotedNumber n cast =>
    rw [postgresDefault_literal, alignDefault_text_of_isNumeric hv.1 hv.2]
  | keyword hv h cast =>
    rw [postgresDefault_keyword hv h, alignDefault_of_isKeyword hv]

theorem alignDefault_of_printed_inQuotes :
    Printed (.text "'a'::b (1)") "'''a''::b (1)'::character varying" ∧
      alignDefault .enum (postgresDefault "'''a''::b (1)'::character varying") =
        .text "'a'::b (1)" ∧
      alignDefault .decimal (postgresDefault "(-1.50)::numeric(10,2)") = .number "-1.50" ∧
      alignDefault .boolean (postgresDefault "fALSE") = .bool false := by
  have htext : Printed (.text "'a'::b (1)") "'''a''::b (1)'::character varying" :=
    .text "'a'::b (1)" (some "character varying")
  have hnumber : Printed (.number "-1.50") "(-1.50)::numeric(10,2)" :=
    .inParens "-1.50" (some "numeric(10,2)")
  have hword : Printed (.bool false) "fALSE" :=
    @Printed.keyword (.bool false) "fALSE" trivial rfl none
  exact ⟨htext, alignDefault_of_printed htext ⟨rfl, by decide⟩,
    alignDefault_of_printed hnumber ⟨rfl, by decide⟩, alignDefault_of_printed hword trivial⟩

end Catalog

end SchemaSync
