/-
Statements with their default values masked.

A default value may be kept as its author wrote it and may look like any part
of a statement. What is said about the rest of a statement is therefore said
of the one that has NULL for a default value, which is the same in every other
place (`sql_masked`).
-/
import SchemaSync.Ddl.Statement

namespace SchemaSync

open Text

/-! ## The Postgres actions, each by what it reads -/

/-- The actions that alter the type of a column. -/
def typeActions (column old new : String) : List String :=
  let column := Dialect.postgres.wrap column
  if old = new then []
  else ["ALTER COLUMN " ++ column ++ " TYPE " ++ new ++ " USING " ++ column ++ "::" ++ new]

/-- The actions that alter whether a column takes NULL. -/
def nullActions (column : String) (old new : Bool) : List String :=
  if old = new then []
  else
    ["ALTER COLUMN " ++ Dialect.postgres.wrap column ++
      if new then " DROP NOT NULL" else " SET NOT NULL"]

/-- The actions that alter the default of a column. -/
def defaultActions (column : String) (old new : Option DefaultValue) : List String :=
  let column := Dialect.postgres.wrap column
  if old = new then []
  else
    match new with
    | some value => ["ALTER COLUMN " ++ column ++ " SET DEFAULT " ++ value.sql]
    | none => ["ALTER COLUMN " ++ column ++ " DROP DEFAULT"]

/-- The actions that alter whether the values of a column are unique. -/
def uniqueActions (table oldColumn newColumn : String) (old new : Bool) : List String :=
  let d := Dialect.postgres
  if !old ∧ new then
    ["ADD CONSTRAINT " ++ d.wrap (derivedConstraint table newColumn "key") ++ " UNIQUE (" ++
      d.wrap newColumn ++ ")"]
  else if old ∧ !new then
    ["DROP CONSTRAINT IF EXISTS " ++ d.wrap (derivedConstraint table oldColumn "key")]
  else []

/-- The actions that alter the labels which a column is kept to. -/
def labelActions (table oldColumn newColumn : String) (old new : Option (List String)) :
    List String :=
  let d := Dialect.postgres
  if old = new then []
  else
    (if old.isSome then
      ["DROP CONSTRAINT IF EXISTS " ++ d.wrap (derivedConstraint table oldColumn "check")]
    else []) ++
    match new with
    | some labels =>
      ["ADD CONSTRAINT " ++ d.wrap (derivedConstraint table newColumn "check") ++ " " ++
        d.labelCheck newColumn labels]
    | none => []

theorem postgresActions_eq (table : String) (old new : Column) :
    postgresActions table old new =
      typeActions new.name (Dialect.postgres.bareTypeName old) (Dialect.postgres.bareTypeName new) ++
        nullActions new.name old.takesNull new.takesNull ++
        defaultActions new.name old.default new.default ++
        uniqueActions table old.name new.name old.unique new.unique ++
        labelActions table old.name new.name old.enumLabels? new.enumLabels? :=
  rfl

/-! ## Masks -/

/-- The column with NULL in place of its default value. -/
def Column.masked (c : Column) : Column :=
  { c with default := c.default.map fun _ => .null }

/-- The column with a default that is the masked one of `new` just if the defaults are equal. -/
def Column.maskedBeside (old new : Column) : Column :=
  { old with default :=
      if old.default = new.default then new.masked.default
      else if new.default.isSome then none else some .null }

/-- The statement with NULL in place of the default value in it. -/
def Statement.masked : Statement → Statement
  | .addColumn table c => .addColumn table c.masked
  | .modifyColumn table old new => .modifyColumn table (old.maskedBeside new) new.masked
  | s => s

/-- The default value of the column that a statement adds or modifies. -/
def Statement.default? : Statement → Option DefaultValue
  | .addColumn _ c => c.default
  | .modifyColumn _ _ new => new.default
  | _ => none

section

variable (c old new : Column) (d : Dialect)

@[simp] theorem masked_name : c.masked.name = c.name := rfl

@[simp] theorem masked_takesNull : c.masked.takesNull = c.takesNull := rfl

@[simp] theorem masked_unique : c.masked.unique = c.unique := rfl

@[simp] theorem masked_enumLabels? : c.masked.enumLabels? = c.enumLabels? := rfl

@[simp] theorem masked_primaryKey : c.masked.primaryKey = c.primaryKey := rfl

@[simp] theorem masked_wantsAutoIncrement :
    c.masked.wantsAutoIncrement = c.wantsAutoIncrement := rfl

@[simp] theorem bareTypeName_masked : d.bareTypeName c.masked = d.bareTypeName c := by
  cases d <;> rfl

@[simp] theorem typeName_masked : d.typeName c.masked = d.typeName c := by
  rw [Dialect.typeName, Dialect.typeName, masked_enumLabels?, bareTypeName_masked, masked_name]

@[simp] theorem maskedBeside_name : (old.maskedBeside new).name = old.name := rfl

@[simp] theorem maskedBeside_takesNull : (old.maskedBeside new).takesNull = old.takesNull := rfl

@[simp] theorem maskedBeside_unique : (old.maskedBeside new).unique = old.unique := rfl

@[simp] theorem maskedBeside_enumLabels? :
    (old.maskedBeside new).enumLabels? = old.enumLabels? := rfl

@[simp] theorem maskedBeside_primaryKey : (old.maskedBeside new).primaryKey = old.primaryKey := rfl

@[simp] theorem bareTypeName_maskedBeside :
    d.bareTypeName (old.maskedBeside new) = d.bareTypeName old := by
  cases d <;> rfl

end

theorem maskedBeside_default_eq_iff {old new : Column} :
    (old.maskedBeside new).default = new.masked.default ↔ old.default = new.default := by
  by_cases h : old.default = new.default
  · simp [Column.maskedBeside, h]
  · cases hnew : new.default <;> simp_all [Column.maskedBeside, Column.masked]

theorem maskedBeside_eq_iff {old new : Column} : old.maskedBeside new = new.masked ↔ old = new := by
  constructor
  · intro h
    have hdefault := maskedBeside_default_eq_iff.1 (congrArg Column.default h)
    cases old
    cases new
    simp only [Column.maskedBeside, Column.masked, Column.mk.injEq] at h hdefault ⊢
    obtain ⟨h₁, h₂, h₃, h₄, h₅, -, h₇⟩ := h
    exact ⟨h₁, h₂, h₃, h₄, h₅, hdefault, h₇⟩
  · rintro rfl
    simp [Column.maskedBeside, Column.masked]

/-- A text and the same text with NULL in place of a default value, if that stands in it. -/
def Masks (value? : Option DefaultValue) (s masked : String) : Prop :=
  masked = s ∨ ∃ value ∈ value?, ∃ front back,
    s = front ++ value.sql ++ back ∧ masked = front ++ "NULL" ++ back

namespace Masks

variable {value? : Option DefaultValue} {s masked : String}

theorem append (h : Masks value? s masked) (back : String) :
    Masks value? (s ++ back) (masked ++ back) := by
  rcases h with rfl | ⟨value, hvalue, before, after, rfl, rfl⟩
  · exact .inl rfl
  · exact .inr ⟨value, hvalue, before, after ++ back, String.append_assoc, String.append_assoc⟩

theorem prepend (h : Masks value? s masked) (front : String) :
    Masks value? (front ++ s) (front ++ masked) := by
  rcases h with rfl | ⟨value, hvalue, before, after, rfl, rfl⟩
  · exact .inl rfl
  · exact .inr ⟨value, hvalue, front ++ before, after, by simp only [String.append_assoc],
      by simp only [String.append_assoc]⟩

theorem intercalate (h : Masks value? s masked) (separator : String) (before after : List String) :
    Masks value? (separator.intercalate (before ++ s :: after))
      (separator.intercalate (before ++ masked :: after)) := by
  induction before with
  | nil =>
    cases after with
    | nil => simpa using h
    | cons a after =>
      have hne : a :: after ≠ [] := List.cons_ne_nil _ _
      rw [List.nil_append, List.nil_append, String.intercalate_cons_of_ne_nil hne,
        String.intercalate_cons_of_ne_nil hne]
      exact (h.append _).append _
  | cons b before ih =>
    rw [List.cons_append, List.cons_append, String.intercalate_cons_of_ne_nil (by simp),
      String.intercalate_cons_of_ne_nil (by simp)]
    exact ih.prepend _

end Masks

theorem masks_columnDefinition (d : Dialect) (keys : KeyPlacement) (c : Column) :
    Masks c.default (d.columnDefinition keys c) (d.columnDefinition keys c.masked) := by
  have hvalue : Masks c.default
      (match c.default with
        | some value => " DEFAULT " ++ value.sql
        | none => "")
      (match c.masked.default with
        | some value => " DEFAULT " ++ value.sql
        | none => "") := by
    rw [Column.masked]
    cases c.default with
    | none => exact .inl rfl
    | some value => exact .inr ⟨value, rfl, " DEFAULT ", "", by simp, rfl⟩
  simp only [Dialect.columnDefinition, masked_name, masked_takesNull, masked_unique,
    masked_primaryKey, masked_wantsAutoIncrement, typeName_masked]
  exact (((hvalue.prepend _).append _).append _).append _

theorem masks_mySqlModify (table : String) (old new : Column) :
    Masks new.default (mySqlModify table old new)
      (mySqlModify table (old.maskedBeside new) new.masked) := by
  unfold mySqlModify
  by_cases h : old = new
  · exact .inl (by rw [if_pos h, if_pos (maskedBeside_eq_iff.2 h)])
  · rw [if_neg h, if_neg (mt maskedBeside_eq_iff.1 h)]
    have hdefinition := masks_columnDefinition .mySql .omitted new
    have hfirst : Masks new.default
        (if old.name = new.name then
            "MODIFY COLUMN " ++ Dialect.mySql.columnDefinition .omitted new
          else "CHANGE COLUMN " ++ Dialect.mySql.wrap old.name ++ " " ++
            Dialect.mySql.columnDefinition .omitted new)
        (if old.name = new.name then
            "MODIFY COLUMN " ++ Dialect.mySql.columnDefinition .omitted new.masked
          else "CHANGE COLUMN " ++ Dialect.mySql.wrap old.name ++ " " ++
            Dialect.mySql.columnDefinition .omitted new.masked) := by
      split
      · exact hdefinition.prepend _
      · exact hdefinition.prepend _
    exact (((hfirst.intercalate ", " [] _).prepend _).append _).append _

theorem masks_defaultActions (column : String) (old new : Column) :
    defaultActions column (old.maskedBeside new).default new.masked.default =
        defaultActions column old.default new.default ∨
      ∃ action masked, Masks new.default action masked ∧
        defaultActions column old.default new.default = [action] ∧
        defaultActions column (old.maskedBeside new).default new.masked.default = [masked] := by
  unfold defaultActions
  by_cases h : old.default = new.default
  · exact .inl (by rw [if_pos h, if_pos (maskedBeside_default_eq_iff.2 h)])
  · rw [if_neg h, if_neg (mt maskedBeside_default_eq_iff.1 h), Column.masked]
    cases new.default with
    | none => exact .inl rfl
    | some value =>
      have hvalue : Masks (some value) value.sql "NULL" :=
        .inr ⟨value, rfl, "", "", by simp, by simp⟩
      exact .inr ⟨_, _, hvalue.prepend _, rfl, rfl⟩

theorem masks_postgresActions (table : String) (old new : Column) :
    postgresActions table (old.maskedBeside new) new.masked = postgresActions table old new ∨
      ∃ before after action masked, Masks new.default action masked ∧
        postgresActions table old new = before ++ action :: after ∧
        postgresActions table (old.maskedBeside new) new.masked = before ++ masked :: after := by
  simp only [postgresActions_eq, masked_name, masked_takesNull, masked_unique, masked_enumLabels?,
    bareTypeName_masked, maskedBeside_name, maskedBeside_takesNull, maskedBeside_unique,
    maskedBeside_enumLabels?, bareTypeName_maskedBeside]
  rcases masks_defaultActions new.name old new with he | ⟨action, masked, h, he, he'⟩
  · exact .inl (by rw [he])
  · right
    simp only [he, he', List.append_assoc, List.singleton_append]
    exact ⟨_ ++ _, _, action, masked, h, (List.append_assoc _ _ _).symm,
      (List.append_assoc _ _ _).symm⟩

theorem masks_postgresStatements (table : String) (old new : Column) :
    Masks new.default ("\n".intercalate (postgresStatements table old new))
      ("\n".intercalate (postgresStatements table (old.maskedBeside new) new.masked)) := by
  unfold postgresStatements
  rcases masks_postgresActions table old new with he | ⟨before, after, action, masked, h, he, he'⟩
  · exact .inl (by rw [he, masked_name, masked_primaryKey, maskedBeside_name, maskedBeside_primaryKey])
  · have hcomma : Masks new.default (commaList (before ++ action :: after))
        (commaList (before ++ masked :: after)) := h.intercalate ", " before after
    have hne : ∀ a : String, before ++ a :: after ≠ [] := fun a => by simp
    dsimp only
    rw [he, he', if_neg (hne action), if_neg (hne masked), masked_name, masked_primaryKey,
      maskedBeside_name, maskedBeside_primaryKey, List.append_assoc, List.append_assoc,
      List.singleton_append, List.singleton_append]
    exact ((hcomma.prepend _).append ";").intercalate "\n" _ _

/-- **A statement is masked in its default value only.** -/
theorem sql_masked (d : Dialect) (s : Statement) : Masks s.default? (s.sql d) (s.masked.sql d) := by
  cases s with
  | addColumn table c => exact ((masks_columnDefinition d .inColumn c).prepend _).append _
  | modifyColumn table old new =>
    cases d with
    | mySql => exact masks_mySqlModify table old new
    | postgres => exact masks_postgresStatements table old new
  | _ => exact .inl rfl

end SchemaSync
