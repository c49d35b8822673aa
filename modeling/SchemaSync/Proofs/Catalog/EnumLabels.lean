/-
The labels of enums that are numbers.

The sizes of a column are read off the arguments of its type, and the labels of
an enum are its arguments. Two labels that are numbers are taken for a precision
and a scale, although an enum has neither; no other labels give a size
(`sizes_labels_eq_iff`). So an enum is read back without sizes, and is not in the
difference, unless it has two labels and both are numbers
(`readColumn_labels_iff`).
-/
import SchemaSync.Proofs.Catalog.PostgresType

namespace SchemaSync.Catalog

open Text

/-- Whether labels are taken for a precision and a scale. -/
def LookLikeSizes (labels : List String) : Prop :=
  labels.length = 2 ∧ ∀ l ∈ labels, (number32? l).isSome = true

instance (labels : List String) : Decidable (LookLikeSizes labels) :=
  inferInstanceAs (Decidable (labels.length = 2 ∧ ∀ l ∈ labels, (number32? l).isSome = true))

/-! ## Sizes -/

theorem exists_numbers_of_lookLikeSizes {t : NativeType} (h : LookLikeSizes t.arguments) :
    ∃ p s, t.numbers? = some [p, s] := by
  obtain ⟨hlength, hnumbers⟩ := h
  obtain ⟨a, b, hlabels⟩ := List.length_eq_two.1 hlength
  rw [hlabels] at hnumbers
  obtain ⟨p, hp⟩ := Option.isSome_iff_exists.1 (hnumbers a (by simp))
  obtain ⟨s, hs⟩ := Option.isSome_iff_exists.1 (hnumbers b (by simp))
  refine ⟨p, s, ?_⟩
  rw [NativeType.numbers?, hlabels]
  simp [hp, hs]

theorem lookLikeSizes_of_numbers {t : NativeType} {p s : UInt32} (h : t.numbers? = some [p, s]) :
    LookLikeSizes t.arguments := by
  rw [NativeType.numbers?] at h
  rcases harguments : t.arguments with _ | ⟨a, _ | ⟨b, _ | ⟨c, rest⟩⟩⟩
  · simp [harguments] at h
  · simp [harguments, Option.bind_eq_some_iff] at h
  · have hnumbers : number32? a = some p ∧ number32? b = some s := by
      simpa [harguments, Option.bind_eq_some_iff] using h
    exact ⟨rfl, by simp [hnumbers]⟩
  · simp [harguments, Option.bind_eq_some_iff] at h

/-- Labels give an enum sizes where there are two and both are numbers. -/
theorem sizes_labels_eq_iff (t : NativeType) :
    t.sizes .enum = {} ↔ ¬LookLikeSizes t.arguments := by
  constructor
  · intro h hlook
    obtain ⟨p, s, hnumbers⟩ := exists_numbers_of_lookLikeSizes hlook
    simp [NativeType.sizes, hnumbers, Sizes.ofNumbers] at h
  · intro h
    rw [NativeType.sizes]
    cases hnumbers : t.numbers? with
    | none => rfl
    | some numbers =>
      rcases numbers with _ | ⟨p, _ | ⟨s, _ | ⟨n, rest⟩⟩⟩
      · rfl
      · rfl
      · exact absurd (lookLikeSizes_of_numbers hnumbers) h
      · rfl

/-! ## Columns -/

theorem sizes_effective_of_enum {c : Column} (h : c.type = .enum) :
    c.effective.sizes = c.sizes := by
  simp [Column.sizes, Column.effective, h]

theorem readColumn_labels {c : Column} (htype : c.type = .enum) (hne : c.enumOptions ≠ [])
    (hlabels : ∀ l ∈ c.enumOptions, l ≠ "") (sql : String) {row : Row} {name printed : String}
    (hfield : row.get? "Field" = some name) (hprinted : row.get? "Type" = some printed)
    (hs : SameSpelling printed (Dialect.mySql.typeName c)) :
    ∃ r, MySql.readColumn sql row = .ok r ∧ r.type = .enum ∧ r.enumOptions = c.enumOptions ∧
      (r.sizes = {} ↔ ¬LookLikeSizes c.enumOptions) := by
  have hread : NativeType.read printed = ⟨mySqlBase .enum, c.enumOptions, ""⟩ := by
    rw [read_typeName c (fun _ => ⟨hne, hlabels⟩) hs, htype, mySqlArguments, htype]
    simp [Argument.value, Function.comp_def]
  have hname : row.require sql "Field" = .ok name := by rw [Row.require, hfield]
  have htext : row.require sql "Type" = .ok printed := by rw [Row.require, hprinted]
  rw [MySql.readColumn, hname, htext]
  refine ⟨_, rfl, ?_, ?_, ?_⟩
  · rw [hread, columnType_mySqlBase]
  · rw [hread, columnType_mySqlBase, if_pos rfl]
  · rw [Column.sizes, hread, columnType_mySqlBase]
    exact sizes_labels_eq_iff _

/--
**An enum is read back without sizes unless its labels look like them.** Whatever case and blanks
a catalog prints the type of an enum in, its row is read as an enum of the same labels. It has no
sizes, and so is not in the difference, exactly where the labels are not two numbers.
-/
theorem readColumn_labels_iff (c : Column) (htype : c.type = .enum) (hne : c.enumOptions ≠ [])
    (hlabels : ∀ l ∈ c.enumOptions, l ≠ "") (hsizes : c.sizes = {}) (sql : String) (row : Row)
    {name printed : String} (hfield : row.get? "Field" = some name)
    (hprinted : row.get? "Type" = some printed)
    (hs : SameSpelling printed (Dialect.mySql.typeName c)) :
    ∃ r, MySql.readColumn sql row = .ok r ∧ r.type = .enum ∧ r.enumOptions = c.enumOptions ∧
      (r.sizes = {} ↔ ¬LookLikeSizes c.enumOptions) ∧
      (diffColumns [c] [c.retyped r] = [] ↔ ¬LookLikeSizes c.enumOptions) := by
  obtain ⟨r, hread, hr, hoptions, hsame⟩ :=
    readColumn_labels htype hne hlabels sql hfield hprinted hs
  refine ⟨r, hread, hr, hoptions, hsame, ?_⟩
  rw [Column.diffColumns_retyped_eq_nil_iff, ← hsame]
  constructor
  · intro h
    rw [← sizes_effective_of_enum hr, h.sizes, sizes_effective_of_enum htype, hsizes]
  · intro h
    refine ⟨hr.trans htype.symm, hoptions, ?_⟩
    rw [sizes_effective_of_enum hr, sizes_effective_of_enum htype, h, hsizes]

/-- A column for ratings with these labels. -/
def ratingColumn (labels : List String) : Column :=
  { name := "rating", type := .enum, enumOptions := labels }

/-- The row of a column whose type is printed so. -/
def printedRow (name printed : String) : Row :=
  .ofPairs [("Field", name), ("Type", printed)]

theorem readColumn_labels_threeStars :
    SameSpelling "enum('1','2','3')" (Dialect.mySql.typeName (ratingColumn ["1", "2", "3"])) ∧
      ∃ r, MySql.readColumn "" (printedRow "rating" "enum('1','2','3')") = .ok r ∧
        r.sizes = {} ∧ diffColumns [ratingColumn ["1", "2", "3"]]
          [(ratingColumn ["1", "2", "3"]).retyped r] = [] := by
  have hs : SameSpelling "enum('1','2','3')"
      (Dialect.mySql.typeName (ratingColumn ["1", "2", "3"])) := by decide
  obtain ⟨r, hread, -, -, hsizes, hdiff⟩ :=
    readColumn_labels_iff (ratingColumn ["1", "2", "3"]) rfl (by decide) (by decide) rfl ""
      (printedRow "rating" "enum('1','2','3')") rfl rfl hs
  have hwords : ¬LookLikeSizes (ratingColumn ["1", "2", "3"]).enumOptions := by decide
  exact ⟨hs, r, hread, hsizes.2 hwords, hdiff.2 hwords⟩

/-- Two stars are read as a precision and a scale, from the text that they are written with. -/
theorem readColumn_labels_twoStars :
    ∃ r, MySql.readColumn ""
        (printedRow "rating" (Dialect.mySql.typeName (ratingColumn ["1", "2"]))) = .ok r ∧
      r.sizes = { precision := some 1, scale := some 2 } ∧
        diffColumns [ratingColumn ["1", "2"]] [(ratingColumn ["1", "2"]).retyped r] ≠ [] :=
  ⟨_, rfl, by decide +kernel, by decide +kernel⟩

end SchemaSync.Catalog
