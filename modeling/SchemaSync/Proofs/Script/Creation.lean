/-
The two ways to create a schema: by its script, and by its difference from a
schema without tables.

The difference adds every table (`diff_empty`), the script creates those that
have columns. So the two have the same CREATE TABLE statements exactly if each
table has a column (`creationTexts_eq_iff`); for a table without columns the
difference has a CREATE TABLE statement with nothing between its parentheses.
-/
import SchemaSync.Change.Diff
import SchemaSync.Proofs.Script.Placement

namespace SchemaSync

/-- Whether a statement creates a table. -/
def Statement.createsTable : Statement → Bool
  | createTable _ _ _ => true
  | _ => false

/-- The texts of the statements that create tables, in order. -/
def creationTexts (d : Dialect) (statements : List Statement) : List String :=
  (statements.filter (·.createsTable)).map (Statement.sql d)

/-- The statements of a script. -/
def scriptStatements (blocks : List Block) : List Statement :=
  blocks.filterMap fun
    | .statement s => some s
    | .omission _ _ => none

/-- The statements of a difference, table by table. -/
def diffStatements (diffs : List TableDiff) : List Statement :=
  diffs.flatMap fun td => td.changes.map (·.statement td.table)

/-! ## By the script -/

theorem scriptStatements_inTable (s : Schema) (omitted : List (String × String)) :
    scriptStatements (scriptBlocks .inTable s omitted) = s.createdTables.map .create := by
  have hcreated : scriptStatements (creations (·.foreignKeys) s.createdTables) =
      s.createdTables.map .create := by
    rw [scriptStatements, creations, List.filterMap_map]
    exact congrFun List.filterMap_eq_map _
  have homitted : scriptStatements (omissions omitted) = [] := by
    rw [scriptStatements, omissions, List.filterMap_map, List.filterMap_eq_nil_iff]
    exact fun _ _ => rfl
  rw [scriptBlocks_inTable, scriptStatements, List.filterMap_append]
  change scriptStatements _ ++ scriptStatements _ = _
  rw [hcreated, homitted, List.append_nil]

theorem creationTexts_map_create (d : Dialect) (tables : List Table) :
    creationTexts d (tables.map .create) = tables.map fun t => (Statement.create t).sql d := by
  have hcreate : ∀ statement ∈ tables.map Statement.create, statement.createsTable = true := by
    intro statement hmem
    obtain ⟨t, -, rfl⟩ := List.mem_map.1 hmem
    rfl
  rw [creationTexts, List.filter_eq_self.2 hcreate, List.map_map]
  rfl

/-! ## By the difference -/

/-- Against a schema without tables every table is an addition. -/
theorem diff_empty (s : Schema) :
    diff s .empty = s.tables.map fun t => ⟨t.name, [.addTable t]⟩ := by
  have hnew : s.tables.filter (fun t => !Schema.empty.contains t.name) = s.tables :=
    List.filter_eq_self.2 fun _ _ => rfl
  have hnone : ∀ name, Schema.empty.get? name = none := fun _ => rfl
  have htables : Schema.empty.tables = [] := rfl
  simp [diff, hnew, hnone, htables]

theorem diffStatements_empty (s : Schema) :
    diffStatements (diff s .empty) = s.tables.map .create := by
  rw [diff_empty, diffStatements, List.flatMap_map, List.map_eq_flatMap]
  rfl

theorem create_sql_ne_empty (d : Dialect) (t : Table) : (Statement.create t).sql d ≠ "" := by
  intro h
  obtain ⟨front, hfront⟩ : ∃ front, (Statement.create t).sql d = front ++ "\n);" := ⟨_, rfl⟩
  have hlength := congrArg String.length (hfront.symm.trans h)
  rw [String.length_append] at hlength
  exact absurd hlength (Nat.ne_of_gt (Nat.add_pos_right _ (by decide)))

theorem diffScript_empty (d : Dialect) (s : Schema) :
    diffScript d (diff s .empty) = String.join (s.tables.map fun t =>
      "-- Table: " ++ t.name ++ "\n" ++ (Statement.create t).sql d ++ "\n\n") := by
  have hkept : ∀ t : Table, (⟨t.name, [.addTable t]⟩ : TableDiff).statements d =
      [(Statement.create t).sql d] :=
    fun t => List.filter_eq_self.2 fun text htext => by
      rw [List.mem_singleton.1 htext]
      exact decide_eq_true (create_sql_ne_empty d t)
  rw [diffScript, diff_empty, List.map_map]
  congr 1
  refine List.map_congr_left fun t _ => ?_
  rw [Function.comp_apply, hkept, List.map_singleton]
  simp only [String.join, List.foldl_cons, List.foldl_nil, String.empty_append,
    String.append_assoc]
  rfl

/-! ## Both -/

theorem script_inTable (d : Dialect) (s : Schema) (omitted : List (String × String)) :
    script d .inTable s omitted = "\n\n".intercalate
      (s.createdTables.map (fun t => (Statement.create t).sql d) ++ omitted.map remark) := by
  rw [script, scriptBlocks_inTable, List.map_append, texts_omissions, creations, List.map_map]
  rfl

theorem map_createdTables_eq_iff {β : Type} (f : Table → β) (s : Schema) :
    s.createdTables.map f = s.tables.map f ↔ ∀ t ∈ s.tables, t.columns ≠ [] := by
  have hkept : ∀ t : Table, (!t.isEmpty) = true ↔ t.columns ≠ [] := by
    simp [Table.isEmpty, List.isEmpty_eq_false_iff]
  rw [← forall₂_congr fun t _ => hkept t]
  constructor
  · intro h
    have hlength := congrArg List.length h
    rw [List.length_map, List.length_map] at hlength
    exact List.length_filter_eq_length_iff.1 hlength
  · intro h
    rw [Schema.createdTables, List.filter_eq_self.2 h]

/-- **The difference from nothing creates the tables of the script exactly if each table has a
column.** The script of a schema has the CREATE TABLE statements of its tables with columns, in
order, and its difference from the empty schema those of all tables, in order. So the two have the
same CREATE TABLE statements exactly if no table is without columns, in either dialect and whatever
the script leaves out for other reasons. -/
theorem creationTexts_eq_iff (d : Dialect) (s : Schema) (omitted : List (String × String)) :
    script d .inTable s omitted = "\n\n".intercalate
      (s.createdTables.map (fun t => (Statement.create t).sql d) ++ omitted.map remark) ∧
    diffScript d (diff s .empty) = String.join (s.tables.map fun t =>
      "-- Table: " ++ t.name ++ "\n" ++ (Statement.create t).sql d ++ "\n\n") ∧
    (creationTexts d (diffStatements (diff s .empty)) =
        creationTexts d (scriptStatements (scriptBlocks .inTable s omitted)) ↔
      ∀ t ∈ s.tables, t.columns ≠ []) := by
  refine ⟨script_inTable d s omitted, diffScript_empty d s, ?_⟩
  rw [diffStatements_empty, scriptStatements_inTable, creationTexts_map_create,
    creationTexts_map_create, eq_comm, map_createdTables_eq_iff]

/-- Users, and markers that have a name and nothing else. -/
def withMarkers : Schema :=
  ⟨[{ name := "markers" },
      { name := "users", columns := [{ name := "id", type := .integer, primaryKey := true }] }],
    by decide⟩

/-- The difference creates the markers, with nothing between the parentheses; the script creates the
users alone. -/
theorem not_creationTexts_eq_withMarkers :
    creationTexts .mySql (diffStatements (diff withMarkers .empty)) =
        ["CREATE TABLE `markers` (\n\n);",
          "CREATE TABLE `users` (\n    `id` INT NOT NULL PRIMARY KEY\n);"] ∧
      creationTexts .mySql (scriptStatements (scriptBlocks .inTable withMarkers [])) =
        ["CREATE TABLE `users` (\n    `id` INT NOT NULL PRIMARY KEY\n);"] ∧
      ¬ ∀ (d : Dialect) (s : Schema), creationTexts d (diffStatements (diff s .empty)) =
        creationTexts d (scriptStatements (scriptBlocks .inTable s [])) := by
  refine ⟨by decide +kernel, by decide +kernel, fun h => ?_⟩
  have hlengths := congrArg List.length (h .mySql withMarkers)
  revert hlengths
  decide +kernel

end SchemaSync
