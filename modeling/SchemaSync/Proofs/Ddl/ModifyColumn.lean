/-
When a column is modified by no statement at all.

MySQL restates the definition, and does nothing only for equal columns.
Postgres looks at one property after the other (`AlteredAlike`). These make
up the definition except for the request for generated values, so a change of
that alone is passed over (`definition_of_modifyColumn_eq_empty`).
-/
import SchemaSync.Ddl.ModifyColumn

namespace SchemaSync

/-! ## Emptiness -/

theorem intercalate_eq_empty_iff {separator : String} {parts : List String}
    (h : ∀ s ∈ parts, s ≠ "") : separator.intercalate parts = "" ↔ parts = [] := by
  cases parts with
  | nil => simp
  | cons s rest =>
    have hs : s ≠ "" := h s List.mem_cons_self
    cases rest with
    | nil => simp [hs]
    | cons r rest => simp [String.intercalate_cons_of_ne_nil, hs]

theorem mySqlModify_eq_empty_iff {table : String} {old new : Column} :
    mySqlModify table old new = "" ↔ old = new := by
  by_cases h : old = new <;> simp [mySqlModify, h]

/-- Two columns between which the Postgres statements see no difference. -/
structure Column.AlteredAlike (old new : Column) : Prop where
  name : old.name = new.name
  type : Dialect.postgres.bareTypeName old = Dialect.postgres.bareTypeName new
  takesNull : old.takesNull = new.takesNull
  default : old.default = new.default
  unique : old.unique = new.unique
  enumLabels : old.enumLabels? = new.enumLabels?
  primaryKey : old.primaryKey = new.primaryKey

section

variable {table : String} {old new : Column}

theorem postgresActions_eq_nil_iff :
    postgresActions table old new = [] ↔
      Dialect.postgres.bareTypeName old = Dialect.postgres.bareTypeName new ∧
        old.takesNull = new.takesNull ∧ old.default = new.default ∧ old.unique = new.unique ∧
        old.enumLabels? = new.enumLabels? := by
  simp only [postgresActions, List.append_eq_nil_iff, ite_eq_left_iff, and_assoc]
  refine and_congr (by simp) (and_congr (by simp) (and_congr ?default (and_congr ?unique ?labels)))
  case default =>
    cases new.default <;> simp
  case unique =>
    cases old.unique <;> cases new.unique <;> simp
  case labels =>
    cases old.enumLabels? <;> cases new.enumLabels? <;> simp

theorem postgresStatements_eq_nil_iff :
    postgresStatements table old new = [] ↔ old.AlteredAlike new := by
  simp only [postgresStatements, List.append_eq_nil_iff, ite_eq_left_iff, List.cons_ne_nil,
    imp_false, Decidable.not_not, postgresActions_eq_nil_iff]
  constructor
  · rintro ⟨⟨hname, htype, hnull, hdefault, hunique, hlabels⟩, hkey⟩
    exact ⟨hname, htype, hnull, hdefault, hunique, hlabels, hkey⟩
  · rintro ⟨hname, htype, hnull, hdefault, hunique, hlabels, hkey⟩
    exact ⟨⟨hname, htype, hnull, hdefault, hunique, hlabels⟩, hkey⟩

theorem ne_empty_of_mem_postgresStatements {s : String}
    (h : s ∈ postgresStatements table old new) : s ≠ "" := by
  have hends : ∀ {start last : String}, last ≠ "" → start ++ last ≠ "" :=
    fun hlast he => hlast (String.append_eq_empty_iff.1 he).2
  simp only [postgresStatements, List.mem_append, List.mem_ite_nil_left, List.mem_singleton] at h
  rcases h with (⟨-, rfl⟩ | ⟨-, rfl⟩) | ⟨-, rfl⟩ <;> exact hends (by decide)

theorem modifyColumn_postgres_eq_empty_iff :
    Dialect.postgres.modifyColumn table old new = "" ↔ old.AlteredAlike new :=
  (intercalate_eq_empty_iff fun _ => ne_empty_of_mem_postgresStatements).trans
    postgresStatements_eq_nil_iff

end

/-! ## The definition -/

/-- The column without a request for generated values. -/
def Column.ungenerated (c : Column) : Column :=
  { c with autoIncrement := false }

theorem Column.AlteredAlike.typeName_eq {old new : Column} (h : old.AlteredAlike new) :
    Dialect.postgres.typeName old = Dialect.postgres.typeName new := by
  rw [Dialect.typeName, Dialect.typeName, h.enumLabels, h.type, h.name]

/-- Alike columns have one definition but for the words on generated values. -/
theorem Column.AlteredAlike.definition {old new : Column} (h : old.AlteredAlike new) :
    Dialect.postgres.columnDefinition .inColumn old.ungenerated =
        Dialect.postgres.columnDefinition .inColumn new.ungenerated ∧
      (Dialect.postgres.columnDefinition .inColumn old =
          Dialect.postgres.columnDefinition .inColumn new ↔
        old.wantsAutoIncrement = new.wantsAutoIncrement) := by
  have hbare : ∀ c : Column,
      Dialect.postgres.typeName c.ungenerated = Dialect.postgres.typeName c := fun _ => rfl
  constructor
  · have hnull : old.ungenerated.takesNull = new.ungenerated.takesNull := h.takesNull
    simp only [Dialect.columnDefinition, hbare, h.typeName_eq, hnull]
    simp [Column.ungenerated, Column.wantsAutoIncrement, h.name, h.default, h.unique, h.primaryKey]
  · simp only [Dialect.columnDefinition, h.name, h.typeName_eq, h.takesNull, h.default, h.unique,
      h.primaryKey, String.append_left_inj, String.append_right_inj]
    cases old.wantsAutoIncrement <;> cases new.wantsAutoIncrement <;> simp

/-- **No statement is emitted only for columns that are defined alike, generated values aside.** In
Postgres a change of that request is passed over, though the definition of the column states it. -/
theorem definition_of_modifyColumn_eq_empty (d : Dialect) (table : String) (old new : Column)
    (hname : old.name = new.name) (h : d.modifyColumn table old new = "") :
    d.columnDefinition .inColumn old.ungenerated = d.columnDefinition .inColumn new.ungenerated ∧
      (d.columnDefinition .inColumn old = d.columnDefinition .inColumn new ↔
        d = .mySql ∨ old.wantsAutoIncrement = new.wantsAutoIncrement) := by
  cases d with
  | mySql =>
    obtain rfl := mySqlModify_eq_empty_iff.1 h
    simp
  | postgres =>
    simpa using (modifyColumn_postgres_eq_empty_iff.1 h).definition

/-- An integer key. -/
def plainId : Column :=
  { name := "id", type := .integer, primaryKey := true }

/-- The same key, its values generated. -/
def generatedId : Column :=
  { plainId with autoIncrement := true }

theorem definition_of_modifyColumn_eq_empty_id :
    plainId.name = generatedId.name ∧
      Dialect.postgres.modifyColumn "users" plainId generatedId = "" ∧
      Dialect.postgres.columnDefinition .inColumn plainId.ungenerated =
        Dialect.postgres.columnDefinition .inColumn generatedId.ungenerated ∧
      (Dialect.postgres.columnDefinition .inColumn plainId =
          Dialect.postgres.columnDefinition .inColumn generatedId ↔
        Dialect.postgres = .mySql ∨ plainId.wantsAutoIncrement = generatedId.wantsAutoIncrement) :=
  ⟨rfl, rfl, definition_of_modifyColumn_eq_empty .postgres "users" plainId generatedId rfl rfl⟩

/-- A key whose values are to be generated from now on is left as it is. -/
theorem generated_id_passed_over :
    plainId.name = generatedId.name ∧
      Dialect.postgres.modifyColumn "users" plainId generatedId = "" ∧
      Dialect.postgres.columnDefinition .inColumn plainId ≠
        Dialect.postgres.columnDefinition .inColumn generatedId :=
  ⟨rfl, rfl, by decide⟩

end SchemaSync
