/-
Schemas that are put together step by step.

A workbench holds a table in the making and the schema that takes the finished
ones. An operation that is not done changes neither (`perform_of_not_done`).
One that is done and puts the table into the schema puts it at the end, so a
schema lists just what the run stored, in the order of the run
(`tables_run`), each name once. The schema of a list of tables goes by another
rule: a repeated name keeps its first place and has its last table
(`names_ofTables`, `get?_ofTables`).
-/
import Mathlib.Data.List.Induction
import SchemaSync.Proofs.Schema.Checked

namespace SchemaSync

/-- A table in the making, and the schema that takes the finished ones. -/
structure Workbench where
  table : Table
  schema : Schema

namespace Workbench

/-- A step of the work. -/
inductive Operation where
  /-- Begins another table, without columns. -/
  | newTable (name : String)
  | setColumns (columns : List Column)
  | addForeignKey (fk : ForeignKey)
  /-- Puts the table into the schema; a second one of its name is refused. -/
  | insert
  /-- Puts the table into the schema, unless that has one of its name. -/
  | insertIfAbsent
  deriving DecidableEq, Repr

/-- What becomes of an operation. -/
inductive Answer where
  | done
  | refused (v : Violation)
  /-- The schema has a table of that name already. -/
  | present
  deriving DecidableEq, Repr

/-- The workbench with what a checked operation makes of the table. -/
def withTable (w : Workbench) : Except Violation Table → Workbench × Answer
  | .ok table => ({ w with table }, .done)
  | .error v => (w, .refused v)

/-- The workbench with what a checked operation makes of the schema. -/
def withSchema (w : Workbench) : Except Violation Schema → Workbench × Answer
  | .ok schema => ({ w with schema }, .done)
  | .error v => (w, .refused v)

/-- The workbench after an operation, and what became of it. -/
def perform (w : Workbench) : Operation → Workbench × Answer
  | .newTable name => ({ w with table := { name } }, .done)
  | .setColumns columns => w.withTable (w.table.setColumns columns)
  | .addForeignKey fk => w.withTable (w.table.addForeignKey fk)
  | .insert => w.withSchema (w.schema.insert w.table)
  | .insertIfAbsent =>
    ({ w with schema := (w.schema.insertIfAbsent w.table).1 },
      if (w.schema.insertIfAbsent w.table).2 then .done else .present)

/-- A workbench with an empty schema and a table of this name just begun. -/
def start (name : String) : Workbench :=
  ⟨{ name }, .empty⟩

/-- The workbench after operations, one after the other. -/
def run (w : Workbench) (operations : List Operation) : Workbench :=
  operations.foldl (fun w o => (w.perform o).1) w

/-- Whether an operation is one that puts the table into the schema. -/
def Operation.stores : Operation → Bool
  | insert | insertIfAbsent => true
  | _ => false

/-- The table that an operation puts into the schema, if it is done. -/
def stored (w : Workbench) (o : Operation) : List Table :=
  if o.stores ∧ (w.perform o).2 = .done then [w.table] else []

/-- The tables that the operations of a run put into the schema, in order. -/
def storedIn (w : Workbench) : List Operation → List Table
  | [] => []
  | o :: operations => w.stored o ++ (w.perform o).1.storedIn operations

/-! ## One operation -/

section

variable {w : Workbench} {o : Operation}

theorem withTable_of_not_done {x : Except Violation Table} (h : (w.withTable x).2 ≠ .done) :
    (w.withTable x).1 = w := by
  cases x with
  | ok table => exact absurd rfl h
  | error v => rfl

theorem withSchema_of_not_done {x : Except Violation Schema} (h : (w.withSchema x).2 ≠ .done) :
    (w.withSchema x).1 = w := by
  cases x with
  | ok schema => exact absurd rfl h
  | error v => rfl

theorem schema_withTable (w : Workbench) (x : Except Violation Table) :
    (w.withTable x).1.schema = w.schema := by
  cases x <;> rfl

theorem table_withSchema (w : Workbench) (x : Except Violation Schema) :
    (w.withSchema x).1.table = w.table := by
  cases x <;> rfl

/-- An operation that is not done leaves the table and the schema as they are. -/
theorem perform_of_not_done (h : (w.perform o).2 ≠ .done) : (w.perform o).1 = w := by
  cases o with
  | newTable name => exact absurd rfl h
  | setColumns columns => exact withTable_of_not_done h
  | addForeignKey fk => exact withTable_of_not_done h
  | insert => exact withSchema_of_not_done h
  | insertIfAbsent =>
    have hold : w.table.name ∈ w.schema.tables.map (·.name) := by
      by_contra hnew
      exact h (if_pos (Schema.insertIfAbsent_added_iff.2 hnew))
    have hsame : (w.schema.insertIfAbsent w.table).1 = w.schema :=
      Schema.ext_tables (by rw [Schema.tables_insertIfAbsent, if_pos hold])
    simp only [perform, hsame]

theorem tables_perform_insert (h : (w.perform .insert).2 = .done) :
    (w.perform .insert).1.schema.tables = w.schema.tables ++ [w.table] := by
  simp only [perform] at h ⊢
  cases hinsert : w.schema.insert w.table with
  | ok schema => exact (Schema.insert_eq_ok_iff.1 hinsert).2
  | error v =>
    rw [hinsert] at h
    cases h

theorem tables_perform_insertIfAbsent (h : (w.perform .insertIfAbsent).2 = .done) :
    (w.perform .insertIfAbsent).1.schema.tables = w.schema.tables ++ [w.table] := by
  simp only [perform] at h ⊢
  split at h
  · next hadded =>
    rw [Schema.tables_insertIfAbsent, if_neg (Schema.insertIfAbsent_added_iff.1 hadded)]
  · cases h

/-- A schema gains what an operation stores, at its end, and nothing else. -/
theorem tables_perform (w : Workbench) (o : Operation) :
    (w.perform o).1.schema.tables = w.schema.tables ++ w.stored o := by
  by_cases hdone : (w.perform o).2 = .done
  · cases o with
    | newTable name => simp [perform, stored, Operation.stores]
    | setColumns columns => simp [perform, stored, Operation.stores, schema_withTable]
    | addForeignKey fk => simp [perform, stored, Operation.stores, schema_withTable]
    | insert => rw [stored, if_pos ⟨rfl, hdone⟩, tables_perform_insert hdone]
    | insertIfAbsent => rw [stored, if_pos ⟨rfl, hdone⟩, tables_perform_insertIfAbsent hdone]
  · rw [perform_of_not_done hdone, stored, if_neg fun h => hdone h.2, List.append_nil]

theorem mem_stored {t : Table} (h : t ∈ w.stored o) : t = w.table := by
  unfold stored at h
  split at h
  · exact List.mem_singleton.1 h
  · cases h

/-- The table in the making and those of the schema have distinct columns. -/
structure DistinctColumns (w : Workbench) : Prop where
  table : (w.table.columns.map (·.name)).Nodup
  schema : ∀ t ∈ w.schema.tables, (t.columns.map (·.name)).Nodup

theorem distinctColumns_start (name : String) : (start name).DistinctColumns :=
  ⟨List.nodup_nil, fun _ h => absurd h List.not_mem_nil⟩

/-- Only new columns can change the column names of the table in the making, and they are checked. -/
theorem nodup_columns_perform (h : (w.table.columns.map (·.name)).Nodup) (o : Operation) :
    ((w.perform o).1.table.columns.map (·.name)).Nodup := by
  cases o with
  | newTable name => exact List.nodup_nil
  | setColumns columns =>
    simp only [perform]
    cases hset : w.table.setColumns columns with
    | ok table =>
      obtain ⟨hdistinct, rfl⟩ := Table.setColumns_eq_ok_iff.1 hset
      exact hdistinct
    | error v => exact h
  | addForeignKey fk =>
    simp only [perform]
    cases hadd : w.table.addForeignKey fk with
    | ok table =>
      obtain ⟨-, rfl⟩ := Table.addForeignKey_eq_ok_iff.1 hadd
      exact h
    | error v => exact h
  | insert =>
    rw [perform, table_withSchema]
    exact h
  | insertIfAbsent => exact h

theorem distinctColumns_perform (h : w.DistinctColumns) (o : Operation) :
    (w.perform o).1.DistinctColumns := by
  refine ⟨nodup_columns_perform h.table o, fun t ht => ?_⟩
  rw [tables_perform, List.mem_append] at ht
  rcases ht with ht | ht
  · exact h.schema t ht
  · rw [mem_stored ht]
    exact h.table

end

/-! ## A whole run -/

/-- A schema gains what a run stores, in the order of the run. -/
theorem tables_run (w : Workbench) (operations : List Operation) :
    (w.run operations).schema.tables = w.schema.tables ++ w.storedIn operations := by
  induction operations generalizing w with
  | nil => simp [run, storedIn]
  | cons o operations ih =>
    have hrest := ih (w.perform o).1
    rw [tables_perform, List.append_assoc] at hrest
    exact hrest

theorem distinctColumns_run {w : Workbench} (h : w.DistinctColumns) (operations : List Operation) :
    (w.run operations).DistinctColumns := by
  induction operations generalizing w with
  | nil => exact h
  | cons o operations ih => exact ih (distinctColumns_perform h o)

end Workbench

/-! ## The schema of a list of tables -/

namespace Schema

/-- A schema that takes a table in has it, and all others that it had except one of its name. -/
theorem mem_put {s : Schema} {t u : Table} :
    u ∈ (s.put t).tables ↔ u = t ∨ u ∈ s.tables ∧ u.name ≠ t.name := by
  unfold put
  split
  · next h =>
    have hnew : ∀ v ∈ s.tables, v.name ≠ t.name := by
      simpa [contains_eq_false_iff] using h
    simp only [push, List.mem_append, List.mem_singleton]
    constructor
    · rintro (hu | hu)
      · exact .inr ⟨hu, hnew u hu⟩
      · exact .inl hu
    · rintro (hu | ⟨hu, -⟩)
      · exact .inr hu
      · exact .inl hu
  · next h =>
    obtain ⟨v, hv, hname⟩ : ∃ v ∈ s.tables, v.name = t.name := by
      simpa [contains_eq_false_iff] using h
    simp only [List.mem_map, beq_iff_eq]
    constructor
    · rintro ⟨w, hw, rfl⟩
      split
      · exact .inl rfl
      · next hne => exact .inr ⟨hw, hne⟩
    · rintro (rfl | ⟨hu, hne⟩)
      · exact ⟨v, hv, if_pos hname⟩
      · exact ⟨u, hu, if_neg hne⟩

theorem get?_put (s : Schema) (t : Table) (name : String) :
    (s.put t).get? name = if t.name = name then some t else s.get? name := by
  ext u
  rw [get?_eq_some_iff, mem_put]
  split
  · next h =>
    subst h
    simp only [Option.some.injEq]
    constructor
    · rintro ⟨rfl | ⟨-, hne⟩, hname⟩
      · rfl
      · exact absurd hname hne
    · rintro rfl
      exact ⟨.inl rfl, rfl⟩
  · next h =>
    rw [get?_eq_some_iff]
    constructor
    · rintro ⟨rfl | ⟨hu, -⟩, hname⟩
      · exact absurd hname h
      · exact ⟨hu, hname⟩
    · rintro ⟨hu, rfl⟩
      exact ⟨.inr ⟨hu, fun he => h he.symm⟩, rfl⟩

theorem names_put (s : Schema) (t : Table) :
    (s.put t).tables.map (·.name) =
      if t.name ∈ s.tables.map (·.name) then s.tables.map (·.name)
      else s.tables.map (·.name) ++ [t.name] := by
  unfold put
  split
  · next h => rw [if_neg (contains_eq_false_iff.1 h)]; simp [push]
  · next h =>
    rw [contains_eq_false_iff, Decidable.not_not] at h
    rw [if_pos h, List.map_map]
    refine List.map_congr_left fun u _ => ?_
    by_cases hu : u.name = t.name <;> simp [hu]

theorem ofTables_concat (tables : List Table) (t : Table) :
    ofTables (tables ++ [t]) = (ofTables tables).put t := by
  simp [ofTables]

theorem eraseDups_concat (names : List String) (name : String) :
    (names ++ [name]).eraseDups =
      if name ∈ names then names.eraseDups else names.eraseDups ++ [name] := by
  rw [List.eraseDups_append]
  split
  · next h => simp [List.removeAll, List.filter_cons_of_neg, h]
  · next h => simp [List.removeAll, List.filter_cons_of_pos, h, List.eraseDups_cons]

/-- A name has its first place in the list. -/
theorem names_ofTables (tables : List Table) :
    (ofTables tables).tables.map (·.name) = (tables.map (·.name)).eraseDups := by
  induction tables using List.reverseRecOn with
  | nil => rfl
  | append_singleton tables t ih =>
    rw [ofTables_concat, names_put, ih, List.map_append, List.map_singleton, eraseDups_concat]
    simp only [List.mem_eraseDups]

/-- A name has its last table in the list. -/
theorem get?_ofTables (tables : List Table) (name : String) :
    (ofTables tables).get? name = tables.reverse.find? fun t => t.name == name := by
  induction tables using List.reverseRecOn with
  | nil => rfl
  | append_singleton tables t ih =>
    rw [ofTables_concat, get?_put, ih, List.reverse_append, List.reverse_singleton]
    by_cases h : t.name = name <;> simp [h]

end Schema

/-! ## Runs from an empty schema -/

namespace Workbench

/-- **A schema lists what was stored, in order, and by name.** An operation that fails changes
nothing. After any run from an empty schema, its tables have distinct columns; they are those that
were stored, in the order of the run, no name twice; and each is found under its own name. In the
schema of a list of tables a name has its first place and its last table. -/
theorem run_keeps_order (name : String) (operations : List Operation) (tables : List Table) :
    (∀ (w : Workbench) (o : Operation), (w.perform o).2 ≠ .done → (w.perform o).1 = w) ∧
    (∀ t ∈ ((start name).run operations).schema.tables, (t.columns.map (·.name)).Nodup) ∧
    ((start name).run operations).schema.tables = (start name).storedIn operations ∧
    (((start name).storedIn operations).map (·.name)).Nodup ∧
    (∀ key t, ((start name).run operations).schema.get? key = some t ↔
      t ∈ (start name).storedIn operations ∧ t.name = key) ∧
    (Schema.ofTables tables).tables.map (·.name) = (tables.map (·.name)).eraseDups ∧
    ∀ key, (Schema.ofTables tables).get? key = tables.reverse.find? fun t => t.name == key := by
  have hstored : ((start name).run operations).schema.tables = (start name).storedIn operations :=
    tables_run _ _
  have hdistinct := (distinctColumns_run (distinctColumns_start name) operations).schema
  have hnames := ((start name).run operations).schema.distinct
  refine ⟨fun _ _ => perform_of_not_done, hdistinct, hstored, hstored ▸ hnames, fun key t => ?_,
    Schema.names_ofTables tables, Schema.get?_ofTables tables⟩
  rw [Schema.get?_eq_some_iff, hstored]

/-- Users and posts are declared, and each of the two a second time; one column list is refused. -/
def signUp : List Operation :=
  [.setColumns [{ name := "id", type := .integer }, { name := "id", type := .bigInt }],
    .setColumns [{ name := "id", type := .integer, primaryKey := true }], .insert,
    .newTable "posts", .insertIfAbsent, .setColumns [{ name := "title", type := .string }], .insert,
    .newTable "users", .insertIfAbsent]

theorem run_keeps_order_signUp :
    ((start "users").run signUp).schema.tables.map (·.name) = ["users", "posts"] ∧
    (((start "users").run signUp).perform .insert).2 = .refused (.duplicateTable "users") ∧
    (((start "users").run signUp).perform .insert).1 = (start "users").run signUp ∧
    (∃ t, ((start "users").run signUp).schema.get? "users" = some t ∧
      t.columns.map (·.name) = ["id"] ∧ t ∈ (start "users").storedIn signUp) ∧
    (Schema.ofTables [{ name := "users" }, { name := "posts" },
      { name := "users", columns := [{ name := "id", type := .integer }] }]).tables.map (·.name) =
      ["users", "posts"] := by
  obtain ⟨hfailed, -, -, -, hget, hnames, -⟩ := run_keeps_order "users" signUp
    [{ name := "users" }, { name := "posts" },
      { name := "users", columns := [{ name := "id", type := .integer }] }]
  have hrefused : (((start "users").run signUp).perform .insert).2 =
      .refused (.duplicateTable "users") := by decide +kernel
  have husers : ((start "users").run signUp).schema.get? "users" =
      some { name := "users", columns := [{ name := "id", type := .integer, primaryKey := true }] } := by
    decide +kernel
  refine ⟨by decide +kernel, hrefused, hfailed _ _ (by rw [hrefused]; nofun),
    ⟨_, husers, by decide, ((hget _ _).1 husers).1⟩, ?_⟩
  rw [hnames]
  decide +kernel

end Workbench

end SchemaSync
