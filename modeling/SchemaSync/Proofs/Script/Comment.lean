/-
The comments of scripts.

A comment ends with its line: what stands behind a line break is read as SQL
again (`exposed`). A script has a comment for each entity that is left out,
the script of a difference has one for each table. The reason of an omission
is put on one line, the name of an entity or of a table is written as it is.
So a comment is a single line exactly if that name is
(`comments_singleLine_iff`), and otherwise the rest of the name is exposed.
-/
import Mathlib.Data.List.TakeWhile
import SchemaSync.Migration
import SchemaSync.Proofs.Script.Placement
import SchemaSync.Proofs.Text.Blank

namespace SchemaSync

open Text

/-! ## Lines -/

namespace Text

/-- Whether a character ends a line, and a comment with it. -/
def isLineBreak (c : Char) : Bool :=
  c = '\n' || c = '\r'

/-- Whether a text has no line break. -/
def SingleLine (s : String) : Prop :=
  ∀ c ∈ s.toList, isLineBreak c = false

instance (s : String) : Decidable (SingleLine s) :=
  List.decidableBAll (fun c => isLineBreak c = false) s.toList

/-- What of a text stands outside the comment that it begins: all from its first line break on. -/
def exposed (s : String) : String :=
  String.ofList (s.toList.dropWhile fun c => !isLineBreak c)

theorem exposed_eq_empty_iff {s : String} : exposed s = "" ↔ SingleLine s := by
  rw [exposed, ← String.toList_inj, String.toList_ofList, String.toList_empty,
    List.dropWhile_eq_nil_iff]
  simp [SingleLine]

theorem singleLine_append {s t : String} : SingleLine (s ++ t) ↔ SingleLine s ∧ SingleLine t := by
  simp only [SingleLine, String.toList_append, List.forall_mem_append]

theorem exposed_append_of_singleLine {s : String} (h : SingleLine s) (t : String) :
    exposed (s ++ t) = exposed t := by
  rw [exposed, String.toList_append, List.dropWhile_append_of_pos (by simpa [SingleLine] using h),
    exposed]

theorem exposed_append_of_not_singleLine {s : String} (h : ¬ SingleLine s) (t : String) :
    exposed (s ++ t) = exposed s ++ t := by
  have hrest : (s.toList.dropWhile fun c => !isLineBreak c).isEmpty = false := by
    rw [Bool.eq_false_iff, ne_eq, List.isEmpty_iff, List.dropWhile_eq_nil_iff]
    simpa [SingleLine] using h
  rw [exposed, exposed, String.toList_append, List.dropWhile_append, hrest, ← String.toList_inj]
  simp

theorem isBlank_of_isLineBreak {c : Char} (h : isLineBreak c = true) : isBlank c = true := by
  simp only [isLineBreak, Bool.or_eq_true, decide_eq_true_eq] at h
  rcases h with rfl | rfl <;> rfl

theorem singleLine_intercalate {separator : String} (hsep : SingleLine separator)
    {parts : List String} (hparts : ∀ s ∈ parts, SingleLine s) :
    SingleLine (separator.intercalate parts) := by
  induction parts with
  | nil => simp [SingleLine]
  | cons s parts ih =>
    obtain ⟨hs, hrest⟩ := List.forall_mem_cons.1 hparts
    cases parts with
    | nil => rwa [String.intercalate_singleton]
    | cons t parts =>
      rw [String.intercalate_cons_cons]
      exact singleLine_append.2 ⟨singleLine_append.2 ⟨hs, hsep⟩, ih hrest⟩

/-- A line break is a blank, and words have none, so nothing breaks the line of a single-spaced
text. -/
theorem singleLine_singleSpaced (s : String) : SingleLine (singleSpaced s) := by
  refine singleLine_intercalate (by decide) fun word hword c hc => ?_
  obtain ⟨w, hw, rfl⟩ := List.mem_map.1 hword
  rw [String.toList_ofList] at hc
  have hblank := isBlank_of_mem_wordsChars hw c hc
  cases hbreak : isLineBreak c with
  | false => rfl
  | true => rw [isBlank_of_isLineBreak hbreak] at hblank; cases hblank

end Text

/-! ## Comments -/

/-- The comment in front of the statements for a table. -/
def heading (table : String) : String :=
  "-- Table: " ++ table

/-- The entities that a report leaves out, each with its reason. -/
def Entity.Report.omitted (r : Entity.Report) : List (String × String) :=
  r.skipped.map fun s => (s.entity, s.error.message)

/-- Behind all statements of a script stand the remarks on the entities that are left out. -/
theorem exists_statements_script (settings : Settings) (r : Entity.Report) :
    ∃ statements : List Statement, r.script settings = "\n\n".intercalate
      (statements.map (Statement.sql settings.dialect) ++ r.omitted.map remark) := by
  obtain ⟨statements, hblocks⟩ : ∃ statements : List Statement,
      scriptBlocks settings.foreignKeys r.schema r.omitted =
        statements.map .statement ++ omissions r.omitted :=
    ⟨_, by rw [scriptBlocks, ← List.map_append]; rfl⟩
  refine ⟨statements, ?_⟩
  change script settings.dialect settings.foreignKeys r.schema r.omitted = _
  rw [script, hblocks, List.map_append, List.map_map, texts_omissions]
  rfl

theorem exposed_heading (table : String) : exposed (heading table) = exposed table :=
  exposed_append_of_singleLine (by decide +kernel) table

/-- A remark is an opening on one line, the entity, a colon, and the reason on one line. -/
theorem exists_opening_remark : ∃ opening, SingleLine opening ∧ ∀ entity reason,
    remark (entity, reason) = opening ++ entity ++ ": " ++ singleSpaced reason :=
  ⟨"-- Error generating SQL for ", by decide +kernel, fun _ _ => rfl⟩

theorem singleLine_remark_iff (entity reason : String) :
    SingleLine (remark (entity, reason)) ↔ SingleLine entity := by
  obtain ⟨opening, hopening, hremark⟩ := exists_opening_remark
  have hcolon : SingleLine ": " := by decide +kernel
  rw [hremark, singleLine_append, singleLine_append, singleLine_append,
    and_iff_left (singleLine_singleSpaced reason), and_iff_left hcolon, and_iff_right hopening]

theorem exposed_remark (entity reason : String) :
    exposed (remark (entity, reason)) =
      if SingleLine entity then "" else exposed entity ++ ": " ++ singleSpaced reason := by
  split
  · next h => exact exposed_eq_empty_iff.2 ((singleLine_remark_iff entity reason).2 h)
  · next h =>
    obtain ⟨opening, hopening, hremark⟩ := exists_opening_remark
    have hname : ¬ SingleLine (opening ++ entity) := fun hall => h (singleLine_append.1 hall).2
    have hcolon : ¬ SingleLine (opening ++ entity ++ ": ") :=
      fun hall => hname (singleLine_append.1 hall).1
    rw [hremark, exposed_append_of_not_singleLine hcolon, exposed_append_of_not_singleLine hname,
      exposed_append_of_singleLine hopening]

theorem singleLine_heading_iff (table : String) :
    SingleLine (heading table) ↔ SingleLine table := by
  rw [← exposed_eq_empty_iff, exposed_heading, exposed_eq_empty_iff]

/--
**The comments of a script are single lines exactly if the names in them are.** Whatever a report
leaves out, its script ends with one remark for each omission, and the script of a difference has
one heading for each table. All remarks are single lines where all entities are, whatever the
reasons say, and all headings where all tables are. Of any other remark all stands outside the
comment from the first line break of the entity on, the reason included, and of any other heading
the rest of the table's name.
-/
theorem comments_singleLine_iff (settings : Settings) (r : Entity.Report) (d : Dialect)
    (desired current : Schema) :
    (∃ statements : List Statement, r.script settings = "\n\n".intercalate
      (statements.map (Statement.sql settings.dialect) ++ r.omitted.map remark)) ∧
    ((∀ comment ∈ r.omitted.map remark, SingleLine comment) ↔
      ∀ s ∈ r.skipped, SingleLine s.entity) ∧
    (∀ entity reason, exposed (remark (entity, reason)) =
      if SingleLine entity then "" else exposed entity ++ ": " ++ singleSpaced reason) ∧
    diffScript d (diff desired current) = String.join ((diff desired current).map fun td =>
      heading td.table ++ "\n" ++ String.join ((td.statements d).map (· ++ "\n")) ++ "\n") ∧
    ((∀ td ∈ diff desired current, SingleLine (heading td.table)) ↔
      ∀ td ∈ diff desired current, SingleLine td.table) ∧
    ∀ table, exposed (heading table) = exposed table := by
  refine ⟨exists_statements_script settings r, ?_, exposed_remark, rfl, ?_, exposed_heading⟩
  · rw [Entity.Report.omitted, List.map_map, List.forall_mem_map]
    exact forall₂_congr fun s _ => singleLine_remark_iff s.entity s.error.message
  · exact forall₂_congr fun td _ => singleLine_heading_iff td.table

/-- An entity from a file whose name has a line break. -/
def brokenReport : Entity.Report where
  schema := .empty
  skipped := [⟨"shop\nDROP TABLE users;::Shop",
    .unknownTarget "shop\nDROP TABLE users;::Shop" "Owner"⟩]

/-- A table whose name has a line break. -/
def brokenNames : Schema :=
  ⟨[{ name := "a\nDROP TABLE b;", columns := [{ name := "id", type := .integer }] }], by decide⟩

/-- Both comments break, and a statement that nothing compiled stands in each script. -/
theorem not_singleLine_brokenNames :
    brokenReport.script {} = "-- Error generating SQL for shop\nDROP TABLE users;::Shop: " ++
        "shop DROP TABLE users;::Shop references unknown entity 'Owner'" ∧
      diffScript .mySql (diff brokenNames .empty) = "-- Table: a\nDROP TABLE b;\n" ++
        "CREATE TABLE \x60a\nDROP TABLE b;\x60 (\n    \x60id\x60 INT NOT NULL\n);\n\n" ∧
      ¬ (∀ o ∈ brokenReport.omitted, SingleLine (remark o)) ∧
      ¬ ∀ td ∈ diff brokenNames .empty, SingleLine (heading td.table) := by
  refine ⟨by decide +kernel, by decide +kernel, fun h => ?_, fun h => ?_⟩
  · have hremark := h _ List.mem_cons_self
    revert hremark
    decide +kernel
  · have hheading := h _ List.mem_cons_self
    revert hheading
    decide +kernel

end SchemaSync
