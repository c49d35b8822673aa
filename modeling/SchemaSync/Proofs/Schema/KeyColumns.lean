/-
Foreign keys on the columns of their own table, in the course of the work.

A foreign key is added only on a column that is there. New columns are looked
at for a repeated name alone, not for the foreign keys that the table has by
then, so a key can lose its column (`not_keysHeld_retitled`). Throughout a run
the keys of the table in the making are on its columns exactly if all columns
that are taken have the columns of the keys held at that moment
(`keysHeld_throughout_iff`). Columns first and keys afterwards is one such
order, and the one in which `Table.build` works.
-/
import SchemaSync.Proofs.Schema.Assembly

namespace SchemaSync

/-- Every foreign key of a table is on one of its columns. -/
def Table.KeysHeld (t : Table) : Prop :=
  ∀ fk ∈ t.foreignKeys, fk.column ∈ t.columns.map (·.name)

instance (t : Table) : Decidable t.KeysHeld :=
  inferInstanceAs (Decidable (∀ fk ∈ t.foreignKeys, fk.column ∈ t.columns.map (·.name)))

namespace Workbench

/-- Whether an operation leaves the foreign keys of a table their columns: columns that it may take
have those of all keys. -/
def Operation.Spares (t : Table) : Operation → Prop
  | setColumns columns =>
    (columns.map (·.name)).Nodup → ∀ fk ∈ t.foreignKeys, fk.column ∈ columns.map (·.name)
  | _ => True

/-! ## One operation -/

section

variable {w : Workbench}

theorem keysHeld_setColumns_iff (h : w.table.KeysHeld) (columns : List Column) :
    (w.perform (.setColumns columns)).1.table.KeysHeld ↔
      Operation.Spares w.table (.setColumns columns) := by
  simp only [perform, Operation.Spares]
  cases hset : w.table.setColumns columns with
  | ok table =>
    obtain ⟨hdistinct, rfl⟩ := Table.setColumns_eq_ok_iff.1 hset
    exact ⟨fun hkeys _ => hkeys, fun hspares => hspares hdistinct⟩
  | error v =>
    -- The columns are refused, so the table stays and nothing is asked of them.
    have hrepeated : ¬ (columns.map (·.name)).Nodup := by
      intro hdistinct
      rw [Table.setColumns_eq_ok_iff.2 ⟨hdistinct, rfl⟩] at hset
      cases hset
    exact ⟨fun _ hdistinct => absurd hdistinct hrepeated, fun _ => h⟩

theorem keysHeld_addForeignKey (h : w.table.KeysHeld) (fk : ForeignKey) :
    (w.perform (.addForeignKey fk)).1.table.KeysHeld := by
  simp only [perform]
  cases hadd : w.table.addForeignKey fk with
  | ok table =>
    obtain ⟨hcolumn, rfl⟩ := Table.addForeignKey_eq_ok_iff.1 hadd
    intro k hk
    rcases List.mem_append.1 hk with hk | hk
    · exact h k hk
    · rw [List.mem_singleton.1 hk]
      exact hcolumn
  | error v => exact h

/-- Only columns that do not spare the keys can take a column from a key. -/
theorem keysHeld_perform_iff (h : w.table.KeysHeld) (o : Operation) :
    (w.perform o).1.table.KeysHeld ↔ o.Spares w.table := by
  cases o with
  | newTable name => exact iff_of_true (fun _ hfk => absurd hfk List.not_mem_nil) trivial
  | setColumns columns => exact keysHeld_setColumns_iff h columns
  | addForeignKey fk => exact iff_of_true (keysHeld_addForeignKey h fk) trivial
  | insert =>
    rw [perform, table_withSchema]
    exact iff_of_true h trivial
  | insertIfAbsent => exact iff_of_true h trivial

end

/-! ## A whole run -/

theorem run_append (w : Workbench) (first second : List Operation) :
    w.run (first ++ second) = (w.run first).run second :=
  List.foldl_append

theorem keysHeld_run_iff {w : Workbench} (h : w.table.KeysHeld) (operations : List Operation) :
    (∀ before after, operations = before ++ after → (w.run before).table.KeysHeld) ↔
      ∀ before o after, operations = before ++ o :: after → o.Spares (w.run before).table := by
  constructor
  · intro hheld before o after hsplit
    have hnext := hheld (before ++ [o]) after (by rw [hsplit, List.append_assoc]; rfl)
    rw [run_append] at hnext
    exact (keysHeld_perform_iff (hheld before (o :: after) hsplit) o).1 hnext
  · intro hspares before
    -- From one reachable state to the next: the last operation in front spares the keys.
    induction before using List.reverseRecOn with
    | nil => exact fun _ _ => h
    | append_singleton before o ih =>
      intro after hsplit
      rw [List.append_assoc, List.singleton_append] at hsplit
      rw [run_append]
      exact (keysHeld_perform_iff (ih (o :: after) hsplit) o).2 (hspares before o after hsplit)

/-- **Keys stay on the columns of their table as long as no columns are taken that lack theirs.**
In every state of a run from a table just begun, each foreign key of the table in the making is on
one of its columns, exactly if every list of distinct columns that the run gives the table has the
columns of all keys that the table holds by then. -/
theorem keysHeld_throughout_iff (name : String) (operations : List Operation) :
    (∀ before after, operations = before ++ after →
      ∀ fk ∈ ((start name).run before).table.foreignKeys,
        fk.column ∈ ((start name).run before).table.columns.map (·.name)) ↔
      ∀ before columns after, operations = before ++ .setColumns columns :: after →
        (columns.map (·.name)).Nodup →
          ∀ fk ∈ ((start name).run before).table.foreignKeys, fk.column ∈ columns.map (·.name) := by
  have hstart : (start name).table.KeysHeld := fun _ hfk => absurd hfk List.not_mem_nil
  refine (keysHeld_run_iff hstart operations).trans ⟨fun h before columns after => ?_, ?_⟩
  · exact h before (.setColumns columns) after
  · intro h before o after hsplit
    cases o with
    | setColumns columns => exact h before columns after hsplit
    | _ => trivial

/-- Posts with a foreign key on their author, which then get a title in the place of all columns. -/
def retitled : List Operation :=
  [.setColumns [{ name := "author_id", type := .integer }],
    .addForeignKey ⟨"fk_posts_author_id", "author_id", "users", "id", none⟩,
    .setColumns [{ name := "title", type := .string }]]

/-- The columns of a table can be replaced under its foreign keys, and nothing is refused. -/
theorem not_keysHeld_retitled :
    (((start "posts").run (retitled.take 2)).perform
        (.setColumns [{ name := "title", type := .string }])).2 = .done ∧
      ¬ ∀ before after, retitled = before ++ after →
        ∀ fk ∈ ((start "posts").run before).table.foreignKeys,
          fk.column ∈ ((start "posts").run before).table.columns.map (·.name) := by
  refine ⟨by decide +kernel, fun h => ?_⟩
  have hkeys : ((start "posts").run retitled).table.KeysHeld :=
    h retitled [] (List.append_nil _).symm
  revert hkeys
  decide +kernel

end Workbench

end SchemaSync
