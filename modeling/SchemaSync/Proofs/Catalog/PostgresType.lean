/-
The types that Postgres prints, read back.

A catalog prints a type under another name than the one it was written with,
numbers in the middle of several words (`PrintsTypes`). Each printed type is
read as one logical type with the numbers that were written
(`columnType_printed`, `numbers?_printed`), but two logical types may be written
alike: an array is written as a text, a binary as a blob, and the labels of an
enum are no part of its type. The columns that are read as they were declared
are exactly the others (`readColumn_printed_iff`).
-/
import SchemaSync.Catalog.Postgres
import SchemaSync.Proofs.Catalog.MySqlType
import SchemaSync.Proofs.Change.Agreement

namespace SchemaSync

/-- The type that a column of this type is read back with from Postgres. -/
def ColumnType.inPostgres : ColumnType → ColumnType
  | array => text
  | binary => blob
  | enum => string
  | t => t

theorem ColumnType.inPostgres_eq_self_iff {t : ColumnType} :
    t.inPostgres = t ↔ t ≠ .array ∧ t ≠ .binary ∧ t ≠ .enum := by
  cases t <;> decide

namespace Column

open Catalog (Sizes)

/-- The sizes of a column. -/
def sizes (c : Column) : Sizes :=
  { length := c.length, precision := c.precision, scale := c.scale }

/-- A column with the type of another, its labels and its sizes. -/
def retyped (c r : Column) : Column :=
  { c with
    type := r.type, length := r.length, enumOptions := r.enumOptions
    precision := r.precision, scale := r.scale }

/-- Whether two columns agree in the type, the labels and the effective sizes. -/
structure SameType (c r : Column) : Prop where
  type : r.type = c.type
  enumOptions : r.enumOptions = c.enumOptions
  sizes : r.effective.sizes = c.effective.sizes

theorem effective_retyped_iff {c r : Column} :
    c.effective = (c.retyped r).effective ↔ c.SameType r := by
  constructor
  · intro h
    exact ⟨(congrArg type h).symm, (congrArg enumOptions h).symm, (congrArg sizes h).symm⟩
  · rintro ⟨htype, hoptions, hsizes⟩
    simp only [sizes, effective, Sizes.mk.injEq] at hsizes
    simp only [effective, retyped, takesNull, wantsAutoIncrement, mk.injEq, true_and]
    exact ⟨htype.symm, hsizes.1.symm, hoptions.symm, hsizes.2.1.symm, hsizes.2.2.symm,
      by rw [htype]⟩

/-- A column differs from itself under another type exactly when the types differ. -/
theorem diffColumns_retyped_eq_nil_iff {c r : Column} :
    diffColumns [c] [c.retyped r] = [] ↔ c.SameType r := by
  have hname : c.name = (c.retyped r).name := rfl
  rw [diffColumns_singleton_eq_nil_iff hname, effective_retyped_iff]

end Column

namespace Catalog

open Text

/-! ## Written types -/

/-- A type name with numbers in parentheses behind it, if there are any. -/
def numbered (name : String) (ns : List UInt32) : String :=
  if ns = [] then name else name ++ "(" ++ ",".intercalate (ns.map decimal) ++ ")"

/-- The name that is written for the type of a column in Postgres. -/
def writtenName : ColumnType → String
  | .smallInt => "SMALLINT"
  | .integer => "INTEGER"
  | .bigInt => "BIGINT"
  | .decimal => "DECIMAL"
  | .smallFloat => "REAL"
  | .float => "DOUBLE PRECISION"
  | .string | .enum => "VARCHAR"
  | .text | .array => "TEXT"
  | .uuid => "UUID"
  | .binary | .blob => "BYTEA"
  | .boolean => "BOOLEAN"
  | .date => "DATE"
  | .dateTime => "TIMESTAMP"
  | .dateTimeTz => "TIMESTAMPTZ"
  | .time => "TIME"
  | .json => "JSONB"

/-- The numbers that are written behind it. -/
def writtenNumbers (c : Column) : List UInt32 :=
  match c.type with
  | .decimal => [c.precision.getD defaultPrecision, c.scale.getD defaultScale]
  | .string | .enum => [c.length.getD defaultLength]
  | .dateTime | .dateTimeTz | .time => c.precision.toList
  | _ => []

theorem bareTypeName_eq_numbered (c : Column) :
    Dialect.postgres.bareTypeName c = numbered (writtenName c.type) (writtenNumbers c) := by
  obtain ⟨name, type, length, nullable, unique, default, options, precision, scale⟩ := c
  cases type with
  | dateTime | dateTimeTz | time => cases precision <;> rfl
  | _ =>
    simp [Dialect.bareTypeName, Column.commonTypeName, Column.sizedName, numbered, writtenName,
      writtenNumbers, String.append_assoc]

theorem typeName_of_ne_enum {c : Column} (h : c.type ≠ .enum) :
    Dialect.postgres.typeName c = numbered (writtenName c.type) (writtenNumbers c) := by
  rw [← bareTypeName_eq_numbered, Dialect.typeName, Column.enumLabels?, if_neg fun he => h he.1]

/-- An enum is written as a string, with a condition behind it if it has labels. -/
theorem typeName_of_enum {c : Column} (h : c.type = .enum) :
    ∃ check, (check = "" ∨ ∃ condition, check = " CHECK (" ++ condition ++ ")") ∧
      Dialect.postgres.typeName c = numbered "VARCHAR" [c.length.getD defaultLength] ++ check := by
  have hbare :
      Dialect.postgres.bareTypeName c = numbered "VARCHAR" [c.length.getD defaultLength] := by
    rw [bareTypeName_eq_numbered, writtenNumbers, h]
    rfl
  rw [Dialect.typeName]
  cases c.enumLabels? with
  | none => exact ⟨"", .inl rfl, by simp [hbare]⟩
  | some labels =>
    refine ⟨_, .inr ⟨Dialect.postgres.wrap c.name ++ " IN (" ++ labelList labels ++ ")", rfl⟩, ?_⟩
    rw [hbare, String.append_assoc, ← String.toList_inj]
    simp [Dialect.labelCheck]

/-! ## Printed types -/

/-- The names that are printed as they are written, in lower case. -/
def plainNames : List String :=
  ["SMALLINT", "INTEGER", "BIGINT", "REAL", "DOUBLE PRECISION", "TEXT", "UUID", "BYTEA", "BOOLEAN",
    "DATE", "JSONB"]

/-- How Postgres prints the type of a column that was created with the written one. -/
structure PrintsTypes (print : String → String) : Prop where
  decimal (p s : UInt32) : print (numbered "DECIMAL" [p, s]) = numbered "numeric" [p, s]
  varchar (n : UInt32) : print (numbered "VARCHAR" [n]) = numbered "character varying" [n]
  checkedVarchar (n : UInt32) (condition : String) :
    print (numbered "VARCHAR" [n] ++ (" CHECK (" ++ condition ++ ")")) =
      numbered "character varying" [n]
  timestamp (p : Option UInt32) :
    print (numbered "TIMESTAMP" p.toList) = numbered "timestamp" p.toList ++ " without time zone"
  timestamptz (p : Option UInt32) :
    print (numbered "TIMESTAMPTZ" p.toList) = numbered "timestamp" p.toList ++ " with time zone"
  time (p : Option UInt32) :
    print (numbered "TIME" p.toList) = numbered "time" p.toList ++ " without time zone"
  plain (name : String) (h : name ∈ plainNames) : print name = lower name

/-- The name that is printed for the type of a column. -/
def printedName (t : ColumnType) : String :=
  match t with
  | .decimal => "numeric"
  | .string | .enum => "character varying"
  | .dateTime | .dateTimeTz => "timestamp"
  | .time => "time"
  | t => lower (writtenName t)

/-- The words that are printed behind its numbers. -/
def printedWords : ColumnType → String
  | .dateTime | .time => " without time zone"
  | .dateTimeTz => " with time zone"
  | _ => ""

theorem print_typeName {print : String → String} (hp : PrintsTypes print) (c : Column) :
    print (Dialect.postgres.typeName c) =
      numbered (printedName c.type) (writtenNumbers c) ++ printedWords c.type := by
  by_cases he : c.type = .enum
  · obtain ⟨check, hcheck, hname⟩ := typeName_of_enum he
    have hnumbers : writtenNumbers c = [c.length.getD defaultLength] := by rw [writtenNumbers, he]
    have hwords : printedWords .enum = "" := rfl
    rw [hname, hnumbers, he, hwords, String.append_empty]
    rcases hcheck with rfl | ⟨condition, rfl⟩
    · rw [String.append_empty]
      exact hp.varchar _
    · exact hp.checkedVarchar _ _
  · rw [typeName_of_ne_enum he]
    obtain ⟨name, type, length, nullable, unique, default, options, precision, scale⟩ := c
    cases type with
    | enum => exact absurd rfl he
    | decimal => exact (hp.decimal _ _).trans (String.append_empty).symm
    | string => exact (hp.varchar _).trans (String.append_empty).symm
    | dateTime => exact hp.timestamp precision
    | dateTimeTz => exact hp.timestamptz precision
    | time => exact hp.time precision
    | _ =>
      dsimp only [writtenNumbers]
      exact (hp.plain _ (by decide)).trans (String.append_empty).symm

/-! ## Reading -/

theorem listedItems_joined {args : List Argument} (hne : args ≠ []) :
    ListedItems Argument.Stands (Argument.joined [','] args)
      (args.map fun a => a.value.toList) :=
  .intercalate [] [] (by simp) (by simp) hne fun a _ => ⟨a, rfl, rfl⟩

theorem splitList_numbers {ns : List UInt32} (hne : ns ≠ []) :
    splitList (String.ofList (Argument.joined [','] (ns.map .number))) =
      (ns.map .number).map Argument.value := by
  have hargs : ns.map Argument.number ≠ [] := by simpa using hne
  have hlisted := listedItems_joined hargs
  have hvalue : ∀ v ∈ (ns.map .number).map Argument.value, decide (v ≠ "") = true := by
    intro v hv
    simp only [List.mem_map, Argument.value] at hv
    obtain ⟨_, ⟨n, -, rfl⟩, rfl⟩ := hv
    exact decide_eq_true (mt (congrArg String.toList) (decimal_ne_nil n))
  rw [splitList_listed (by
    rw [String.toList_ofList]
    exact hlisted.mono fun _ _ hs => Argument.Stands.isItem hs), List.map_map]
  simpa [Function.comp_def] using List.filter_eq_self.2 hvalue

theorem passed_numbers {ns : List UInt32} (hne : ns ≠ []) :
    Passed (Argument.joined [','] (ns.map .number)) :=
  .listed (fun _ _ hs => Argument.Stands.passed hs) (listedItems_joined (by simpa using hne))

theorem toList_numbered {name : String} {ns : List UInt32} (hne : ns ≠ []) (words : String) :
    (numbered name ns ++ words).toList =
      name.toList ++ '(' :: (Argument.joined [','] (ns.map .number) ++ ')' :: words.toList) := by
  rw [numbered, if_neg hne]
  simp [Argument.joined, Argument.text, String.toList_intercalate, Function.comp_def]

/-- Numbers in parentheses are read as the numbers that they are. -/
theorem read_numbered {name words : String} (hname : '(' ∉ name.toList) {ns : List UInt32}
    (hne : ns ≠ []) :
    NativeType.read (numbered name ns ++ words) =
      ⟨upperWords name, (ns.map .number).map Argument.value, upperWords words⟩ := by
  rw [← String.ofList_toList (s := numbered name ns ++ words), toList_numbered hne,
    read_parts hname (passed_numbers hne), splitList_numbers hne, String.ofList_toList,
    String.ofList_toList]

theorem read_unnumbered {name words : String} (hname : '(' ∉ name.toList)
    (hwords : '(' ∉ words.toList) :
    NativeType.read (numbered name [] ++ words) = ⟨upperWords (name ++ words), [], ""⟩ := by
  rw [numbered, if_pos rfl, ← String.ofList_toList (s := name ++ words),
    read_bare (by simp [hname, hwords])]

/-- The logical type depends on the words of a native type only. -/
theorem columnType_of_words (base suffix : String) (arguments : List String) :
    Postgres.columnType ⟨base, arguments, suffix⟩ = Postgres.columnType ⟨base, [], suffix⟩ := rfl

theorem paren_not_mem_printed (t : ColumnType) :
    '(' ∉ (printedName t).toList ∧ '(' ∉ (printedWords t).toList := by
  cases t <;> decide +kernel

/-- A printed type is read with the numbers that were written. -/
theorem numbers?_printed (t : ColumnType) (ns : List UInt32) :
    (NativeType.read (numbered (printedName t) ns ++ printedWords t)).numbers? = some ns := by
  obtain ⟨hname, hwords⟩ := paren_not_mem_printed t
  by_cases hne : ns = []
  · rw [hne, read_unnumbered hname hwords]
    rfl
  · rw [read_numbered hname hne, numbers?_map_number]

/-- A printed type is read as the type that Postgres has for it. -/
theorem columnType_printed (t : ColumnType) (ns : List UInt32) :
    Postgres.columnType (NativeType.read (numbered (printedName t) ns ++ printedWords t)) =
      t.inPostgres := by
  obtain ⟨hname, hwords⟩ := paren_not_mem_printed t
  by_cases hne : ns = []
  · rw [hne, read_unnumbered hname hwords]
    cases t <;> decide +kernel
  · rw [read_numbered hname hne, columnType_of_words]
    cases t <;> decide +kernel

/-- The numbers that are written are the effective sizes of the column that is read. -/
theorem ofNumbers_writtenNumbers (c : Column) :
    Sizes.ofNumbers c.type.inPostgres (writtenNumbers c) =
      usedSizes { c with type := c.type.inPostgres : Column }.effective := by
  obtain ⟨name, type, length, nullable, unique, default, options, precision, scale⟩ := c
  cases type with
  | dateTime | dateTimeTz | time => cases precision <;> rfl
  | _ => rfl

/-! ## Columns -/

theorem readColumn_printed {print : String → String} (hp : PrintsTypes print)
    (keys : List Postgres.Key) {row : Row} {c : Column} {name : String}
    (hname : row.get? "name" = some name)
    (htype : row.get? "type" = some (print (Dialect.postgres.typeName c))) :
    ∃ r, Postgres.readColumn keys row = .ok r ∧ r.type = c.type.inPostgres ∧ r.enumOptions = [] ∧
      r.sizes = usedSizes { c with type := c.type.inPostgres : Column }.effective := by
  have hcolumn : row.require Postgres.columnsQuery "name" = .ok name := by rw [Row.require, hname]
  have hprinted : row.require Postgres.columnsQuery "type" =
      .ok (numbered (printedName c.type) (writtenNumbers c) ++ printedWords c.type) := by
    rw [Row.require, htype, print_typeName hp]
  have hread := columnType_printed c.type (writtenNumbers c)
  rw [Postgres.readColumn, hcolumn, hprinted]
  refine ⟨_, rfl, ?_, rfl, ?_⟩
  · rw [hread]
  · rw [← ofNumbers_writtenNumbers, Column.sizes, hread, NativeType.sizes, numbers?_printed]

theorem usedSizes_effective_iff (c : Column) :
    usedSizes c.effective = c.effective.sizes ↔ c.sizes = usedSizes c := by
  obtain ⟨name, type, length, nullable, unique, default, options, precision, scale⟩ := c
  cases type <;> simp [usedSizes, Column.sizes, Column.effective, eq_comm]

/-- Sizes that are used and spelled out have no more to be spelled out. -/
theorem sizes_effective_of_used {c r : Column} (htype : r.type = c.type)
    (hsizes : r.sizes = usedSizes c.effective) : r.effective.sizes = usedSizes c.effective := by
  cases ht : c.type <;>
    simp only [Column.sizes, usedSizes, Column.effective, htype, ht, Sizes.mk.injEq] at hsizes ⊢ <;>
    simp [hsizes]

/-- The columns that are read back with the type that they were declared with. -/
theorem sameType_iff {c r : Column} (htype : r.type = c.type.inPostgres)
    (hoptions : r.enumOptions = [])
    (hsizes : r.sizes = usedSizes { c with type := c.type.inPostgres : Column }.effective) :
    c.SameType r ↔ (c.type ≠ .array ∧ c.type ≠ .binary ∧ c.type ≠ .enum) ∧
      c.enumOptions = [] ∧ c.sizes = usedSizes c := by
  rw [← ColumnType.inPostgres_eq_self_iff]
  constructor
  · rintro ⟨hself, hnone, hsame⟩
    have hown : c.type.inPostgres = c.type := htype.symm.trans hself
    rw [hown] at hsizes
    refine ⟨hown, hnone.symm.trans hoptions, ?_⟩
    rw [← usedSizes_effective_iff, ← hsame, sizes_effective_of_used hself hsizes]
  · rintro ⟨hown, hnone, hused⟩
    rw [hown] at htype hsizes
    refine ⟨htype, hoptions.trans hnone.symm, ?_⟩
    rw [sizes_effective_of_used htype hsizes, usedSizes_effective_iff, hused]

/--
**Postgres types read back, but for those that are written alike.** Whatever Postgres prints for
the type that a column was created with, its row is read as a column of the type that Postgres has
for it, without labels, and with the sizes that this type uses, spelled out. That is the declared
type, and the difference is empty, exactly where the column is no array, binary or enum, and has no
labels or sizes that its type has no use for.
-/
theorem readColumn_printed_iff (print : String → String) (hp : PrintsTypes print)
    (keys : List Postgres.Key) (row : Row) (c : Column) {name : String}
    (hname : row.get? "name" = some name)
    (htype : row.get? "type" = some (print (Dialect.postgres.typeName c))) :
    ∃ r, Postgres.readColumn keys row = .ok r ∧ r.type = c.type.inPostgres ∧ r.enumOptions = [] ∧
      r.sizes = usedSizes { c with type := c.type.inPostgres : Column }.effective ∧
      (c.SameType r ↔ (c.type ≠ .array ∧ c.type ≠ .binary ∧ c.type ≠ .enum) ∧
        c.enumOptions = [] ∧ c.sizes = usedSizes c) ∧
      (diffColumns [c] [c.retyped r] = [] ↔ c.SameType r) := by
  obtain ⟨r, hread, hr, hoptions, hsizes⟩ := readColumn_printed hp keys hname htype
  exact ⟨r, hread, hr, hoptions, hsizes, sameType_iff hr hoptions hsizes,
    Column.diffColumns_retyped_eq_nil_iff⟩

/-! ## A print -/

/-- The print of a type with this name and what it has in parentheses. -/
def printOf (name parens : String) : String :=
  match name with
  | "DECIMAL" => "numeric" ++ parens
  | "VARCHAR" => "character varying" ++ parens
  | "TIMESTAMP" => "timestamp" ++ parens ++ " without time zone"
  | "TIMESTAMPTZ" => "timestamp" ++ parens ++ " with time zone"
  | "TIME" => "time" ++ parens ++ " without time zone"
  | _ => lower name ++ parens

/-- A print that keeps what stands in the first parentheses and drops what stands behind them. -/
def formatType (written : String) : String :=
  match written.toList.span (· ≠ '(') with
  | (name, []) => printOf (String.ofList name) ""
  | (name, _ :: rest) =>
    printOf (String.ofList name) ("(" ++ String.ofList (untilClose none rest).1 ++ ")")

theorem formatType_unnumbered {name : String} (h : '(' ∉ name.toList) :
    formatType name = printOf name "" := by
  rw [formatType, ← List.append_nil name.toList, span_paren h (by simp)]
  simp

theorem formatType_numbered {name : String} (h : '(' ∉ name.toList) {ns : List UInt32}
    (hne : ns ≠ []) (behind : String) :
    formatType (numbered name ns ++ behind) = printOf name (numbered "" ns) := by
  have hparens : "(" ++ String.ofList (Argument.joined [','] (ns.map .number)) ++ ")" =
      numbered "" ns := by
    rw [← String.toList_inj, ← String.append_empty (s := numbered "" ns), toList_numbered hne]
    simp
  rw [formatType, toList_numbered hne, span_paren h (by simp)]
  simp only [passed_numbers hne (')' :: behind.toList), untilClose, if_true, List.append_nil,
    String.ofList_toList, hparens]

theorem numbered_eq_append (name : String) (ns : List UInt32) :
    numbered name ns = name ++ numbered "" ns := by
  unfold numbered
  split
  · rw [String.append_empty]
  · simp only [String.append_assoc, String.empty_append]

/-- With numbers or without, a type is printed as its name is. -/
theorem formatType_written {name : String} (h : '(' ∉ name.toList) (ns : List UInt32) :
    formatType (numbered name ns) = printOf name (numbered "" ns) := by
  by_cases hne : ns = []
  · rw [hne]
    exact formatType_unnumbered h
  · rw [← formatType_numbered h hne "", String.append_empty]

theorem printsTypes_formatType : PrintsTypes formatType where
  decimal p s := by
    rw [formatType_written (by decide), numbered_eq_append "numeric"]
    rfl
  varchar n := by
    rw [formatType_written (by decide), numbered_eq_append "character varying"]
    rfl
  checkedVarchar n condition := by
    rw [formatType_numbered (by decide) (List.cons_ne_nil _ _),
      numbered_eq_append "character varying"]
    rfl
  timestamp p := by
    rw [formatType_written (by decide), numbered_eq_append "timestamp"]
    rfl
  timestamptz p := by
    rw [formatType_written (by decide), numbered_eq_append "timestamp"]
    rfl
  time p := by
    rw [formatType_written (by decide), numbered_eq_append "time"]
    rfl
  plain name h := by
    have hplain : ∀ name ∈ plainNames, formatType name = lower name := by decide +kernel
    exact hplain name h

/-- The row of a column that was created with its written type. -/
def formatTypeRow (c : Column) : Row :=
  ⟨[("name", some c.name), ("type", some (formatType (Dialect.postgres.typeName c)))]⟩

/-- A time with milliseconds. -/
def startsAt : Column :=
  { name := "starts_at", type := .dateTimeTz, precision := some 3 }

theorem readColumn_printed_startsAt :
    PrintsTypes formatType ∧ (formatTypeRow startsAt).get? "name" = some "starts_at" ∧
      (formatTypeRow startsAt).get? "type" =
        some (formatType (Dialect.postgres.typeName startsAt)) ∧
      ∃ r, Postgres.readColumn [] (formatTypeRow startsAt) = .ok r ∧
        startsAt.SameType r ∧ diffColumns [startsAt] [startsAt.retyped r] = [] := by
  refine ⟨printsTypes_formatType, rfl, rfl, ?_⟩
  obtain ⟨r, hread, -, -, -, hsame, hdiff⟩ :=
    readColumn_printed_iff formatType printsTypes_formatType [] (formatTypeRow startsAt) startsAt
      rfl rfl
  have hr := hsame.2 (by decide)
  exact ⟨r, hread, hr, hdiff.2 hr⟩

/-- An array, a binary and an enum, each with what its type uses. -/
def writtenAlike : List Column :=
  [{ name := "tags", type := .array }, { name := "digest", type := .binary, length := some 32 },
    { name := "size", type := .enum, enumOptions := ["S", "M"] }]

/-- A column that is written like one of another type is read as that one, and differs from
itself. -/
theorem not_sameType_writtenAlike :
    PrintsTypes formatType ∧ ∀ c ∈ writtenAlike,
      ∃ r, Postgres.readColumn [] (formatTypeRow c) = .ok r ∧ ¬ c.SameType r ∧
        diffColumns [c] [c.retyped r] ≠ [] := by
  refine ⟨printsTypes_formatType, fun c hc => ?_⟩
  have halike : ∀ c ∈ writtenAlike, c.type = .array ∨ c.type = .binary ∨ c.type = .enum := by
    decide
  have hname : (formatTypeRow c).get? "name" = some c.name := rfl
  obtain ⟨r, hread, htype, hoptions, hsizes⟩ :=
    readColumn_printed printsTypes_formatType [] hname rfl
  have hdiffers : ¬ c.SameType r := by
    rw [sameType_iff htype hoptions hsizes]
    rintro ⟨⟨harray, hbinary, henum⟩, -⟩
    rcases halike c hc with h | h | h
    · exact harray h
    · exact hbinary h
    · exact henum h
  exact ⟨r, hread, hdiffers, fun h => hdiffers (Column.diffColumns_retyped_eq_nil_iff.1 h)⟩

end Catalog

end SchemaSync
