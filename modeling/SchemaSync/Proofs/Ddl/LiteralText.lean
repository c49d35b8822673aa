/-
The literals of a MySQL column definition, read back.

A definition writes the labels of an enum and a default that is a text as
literals (`Column.literalTexts`). MySQL reads them back as these texts, and
nothing else between them, just if all of them keep their backslashes
(`literals_read_back_iff`). Any other backslash is lost, and one at the end of
a text takes the closing quote with it, so that the literal runs on into what
follows it in the definition.
-/
import SchemaSync.Proofs.Ddl.Definition
import SchemaSync.Proofs.Text.MySqlLiteral

namespace SchemaSync

open Text

/-- The text of a default that is written as a literal. -/
def DefaultValue.literalTexts : DefaultValue → List String
  | text s => [s]
  | _ => []

/-- The SQL of a default that is kept as its author wrote it. -/
def DefaultValue.ownSql : DefaultValue → String
  | number written => written
  | expression sql => sql
  | _ => ""

/-- The texts that a MySQL definition of the column writes as literals. -/
def Column.literalTexts (c : Column) : List String :=
  c.enumLabels?.getD [] ++ c.default.elim [] DefaultValue.literalTexts

/-- The SQL in the default of the column that is kept as its author wrote it. -/
def Column.ownSql (c : Column) : String :=
  c.default.elim "" DefaultValue.ownSql

variable {rest tail : List Char} {texts : List String}

/-! ## Parts of a definition -/

theorem mySqlLiterals_typeName_iff (c : Column) :
    mySqlLiterals ((Dialect.mySql.typeName c).toList ++ rest) = c.enumLabels?.getD [] ++ texts ↔
      (∀ l ∈ c.enumLabels?.getD [], keepsBackslashes l.toList = true) ∧
        mySqlLiterals rest = texts := by
  cases hlabels : c.enumLabels? with
  | none =>
    rw [typeName_of_labels_eq_none hlabels, mySqlLiterals_bare (Named.bareTypeName _ c).isQuoteless]
    simp
  | some labels =>
    rw [typeName_of_labels_eq_some hlabels, List.append_assoc, List.append_assoc,
      mySqlLiterals_bare (by decide), Option.getD_some, mySqlLiterals_commaList_iff (by simp),
      mySqlLiterals_bare (by decide)]

theorem mySqlLiterals_sql_iff (value : DefaultValue) (htail : isQuoteless tail = true) :
    mySqlLiterals (value.sql.toList ++ tail) =
        value.literalTexts ++ mySqlLiterals value.ownSql.toList ↔
      ∀ s ∈ value.literalTexts, keepsBackslashes s.toList = true := by
  rw [mySqlLiterals_append_bare htail]
  have hnone : ∀ word : String, isQuoteless word.toList = true →
      (mySqlLiterals word.toList = [] ++ mySqlLiterals "".toList ↔
        ∀ s ∈ ([] : List String), keepsBackslashes s.toList = true) := by
    intro word hword
    simp [mySqlLiterals_of_isQuoteless hword, mySqlLiterals]
  cases value with
  | null => exact hnone "NULL" (by decide)
  | bool b => cases b <;> exact hnone _ (by decide)
  | text s =>
    have hread : mySqlLiterals ((quoted '\'' s).toList ++ []) = [s] ↔
        keepsBackslashes s.toList = true ∧ mySqlLiterals [] = [] :=
      mySqlLiterals_literal_iff (by simp)
    rw [List.append_nil] at hread
    simpa [DefaultValue.sql, literal, DefaultValue.literalTexts, DefaultValue.ownSql,
      mySqlLiterals] using hread
  | number written => simp [DefaultValue.sql, DefaultValue.literalTexts, DefaultValue.ownSql]
  | expression sql => simp [DefaultValue.sql, DefaultValue.literalTexts, DefaultValue.ownSql]

theorem mySqlLiterals_default_iff (default : Option DefaultValue)
    (htail : isQuoteless tail = true) :
    mySqlLiterals (defaultPhrase default ++ tail) =
        default.elim [] DefaultValue.literalTexts ++
          mySqlLiterals (default.elim "" DefaultValue.ownSql).toList ↔
      ∀ s ∈ default.elim [] DefaultValue.literalTexts, keepsBackslashes s.toList = true := by
  cases default with
  | none =>
    rw [defaultPhrase, List.nil_append, mySqlLiterals_of_isQuoteless htail]
    simp [mySqlLiterals]
  | some value =>
    rw [defaultPhrase, String.toList_append, List.append_assoc, mySqlLiterals_bare (by decide)]
    exact mySqlLiterals_sql_iff value htail

theorem isQuoteless_keywords (unique generated key : Bool) :
    isQuoteless (onlyIf unique " UNIQUE".toList ++ (onlyIf generated " AUTO_INCREMENT".toList ++
      onlyIf key " PRIMARY KEY".toList)) = true := by
  cases unique <;> cases generated <;> cases key <;> decide

/-- **MySQL reads the literals of a definition back just if all keep their backslashes.** For every
column, wherever its keys are declared: the literals of the definition are the labels and the text
that the column declares, in this order and with nothing between them, exactly if each backslash in
them stands in front of a wildcard. Behind them stand only those in SQL of the author's own. -/
theorem literals_read_back_iff (keys : KeyPlacement) (c : Column) :
    mySqlLiterals (Dialect.mySql.columnDefinition keys c).toList =
        c.literalTexts ++ mySqlLiterals c.ownSql.toList ↔
      ∀ s ∈ c.literalTexts, keepsBackslashes s.toList = true := by
  have hnull : isQuoteless (' ' :: if c.takesNull then "NULL".toList else "NOT NULL".toList) =
      true := by
    cases c.takesNull <;> decide
  rw [columnDefinition_chars, mySqlLiterals_identifier c.name (by rw [List.head?_cons]; decide),
    ← List.singleton_append, mySqlLiterals_bare (by decide), Column.literalTexts,
    List.append_assoc, mySqlLiterals_typeName_iff, ← List.cons_append, mySqlLiterals_bare hnull,
    Column.ownSql, mySqlLiterals_default_iff c.default (isQuoteless_keywords _ _ _), List.forall_mem_append]

/-- A column with a backslash at the end of its default. -/
def folderColumn : Column :=
  { name := "folder", type := .string, default := some (.text "C:\\") }

/-- A column with a backslash at the end of its labels. -/
def driveColumn : Column :=
  { name := "drive", type := .enum, enumOptions := ["C:\\", "D:\\"] }

/-- The first literal is never closed, and the other one runs on to the label behind it. -/
theorem literals_not_read_back_drives :
    folderColumn.literalTexts = ["C:\\"] ∧
      mySqlLiterals (Dialect.mySql.columnDefinition .inColumn folderColumn).toList = [] ∧
      driveColumn.literalTexts = ["C:\\", "D:\\"] ∧
      mySqlLiterals (Dialect.mySql.columnDefinition .inColumn driveColumn).toList = ["C:', "] := by
  refine ⟨rfl, ?_, rfl, ?_⟩ <;> decide +kernel

end SchemaSync
