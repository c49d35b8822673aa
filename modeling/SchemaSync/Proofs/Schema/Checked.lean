/-
What the checked operations on tables and schemas yield when they succeed.

A table is built as it was described, with distinct columns and with foreign
keys on these columns only (`Table.build_eq_ok_iff`). A schema takes a table
whose name is new, at its end; and a schema is known by its list of tables.
-/
import SchemaSync.Proofs.Except
import SchemaSync.Schema.Basic

namespace SchemaSync

/-! ## Tables -/

/-- The two rules of tables: distinct column names, and foreign keys on own columns only. -/
structure Table.KeepsRules (t : Table) : Prop where
  columns : (t.columns.map (·.name)).Nodup
  keys : ∀ fk ∈ t.foreignKeys, fk.column ∈ t.columns.map (·.name)

namespace Table

variable {t u : Table} {name : String} {columns : List Column} {foreignKeys : List ForeignKey}

theorem setColumns_eq_ok_iff :
    t.setColumns columns = .ok u ↔ (columns.map (·.name)).Nodup ∧ u = { t with columns } := by
  unfold setColumns
  split
  · next column h =>
    have hrepeated : ¬ (columns.map (·.name)).Nodup := by
      intro hd
      have hnone := firstRepeated_eq_none_iff.2 ⟨hd, fun _ _ => List.not_mem_nil⟩
      rw [h] at hnone
      cases hnone
    simp [hrepeated]
  · next h =>
    have hd := (firstRepeated_eq_none_iff.1 h).1
    simp [hd, eq_comm]

theorem addForeignKey_eq_ok_iff {fk : ForeignKey} :
    t.addForeignKey fk = .ok u ↔
      fk.column ∈ t.columns.map (·.name) ∧ u = { t with foreignKeys := t.foreignKeys ++ [fk] } := by
  have hcolumn : (t.column? fk.column).isSome = true ↔ fk.column ∈ t.columns.map (·.name) := by
    simp [column?]
  unfold addForeignKey
  rw [← hcolumn]
  split
  · next h => simp [h, eq_comm]
  · next h => simp [h]

theorem foldlM_addForeignKey_eq_ok_iff :
    foreignKeys.foldlM addForeignKey t = .ok u ↔
      (∀ fk ∈ foreignKeys, fk.column ∈ t.columns.map (·.name)) ∧
        u = { t with foreignKeys := t.foreignKeys ++ foreignKeys } := by
  induction foreignKeys generalizing t with
  | nil => simp [pure, Except.pure, eq_comm]
  | cons fk foreignKeys ih =>
    rw [List.foldlM_cons, bind_eq_ok_iff]
    constructor
    · rintro ⟨v, hv, hu⟩
      obtain ⟨hcolumn, rfl⟩ := addForeignKey_eq_ok_iff.1 hv
      obtain ⟨hcolumns, rfl⟩ := ih.1 hu
      exact ⟨List.forall_mem_cons.2 ⟨hcolumn, hcolumns⟩, by simp⟩
    · rintro ⟨hcolumns, rfl⟩
      obtain ⟨hcolumn, hcolumns⟩ := List.forall_mem_cons.1 hcolumns
      exact ⟨_, addForeignKey_eq_ok_iff.2 ⟨hcolumn, rfl⟩, ih.2 ⟨hcolumns, by simp⟩⟩

/-- A table that is built holds what it is built from, and keeps both rules. -/
theorem build_eq_ok_iff :
    build name columns foreignKeys = .ok t ↔
      (columns.map (·.name)).Nodup ∧ (∀ fk ∈ foreignKeys, fk.column ∈ columns.map (·.name)) ∧
        t = { name, columns, foreignKeys } := by
  rw [build, bind_eq_ok_iff]
  constructor
  · rintro ⟨v, hv, ht⟩
    obtain ⟨hd, rfl⟩ := setColumns_eq_ok_iff.1 hv
    obtain ⟨hcolumns, rfl⟩ := foldlM_addForeignKey_eq_ok_iff.1 ht
    exact ⟨hd, hcolumns, rfl⟩
  · rintro ⟨hd, hcolumns, rfl⟩
    exact ⟨_, setColumns_eq_ok_iff.2 ⟨hd, rfl⟩, foldlM_addForeignKey_eq_ok_iff.2 ⟨hcolumns, rfl⟩⟩

theorem keepsRules_of_build (h : build name columns foreignKeys = .ok t) : t.KeepsRules := by
  obtain ⟨hdistinct, hkeys, rfl⟩ := build_eq_ok_iff.1 h
  exact ⟨hdistinct, hkeys⟩

theorem setColumns_error {v : Violation} (h : t.setColumns columns = .error v) :
    ∃ column, v = .duplicateColumn t.name column := by
  unfold setColumns at h
  split at h
  · next column _ =>
    cases h
    exact ⟨column, rfl⟩
  · cases h

/-- With foreign keys on its own columns, a table can only fail for a repeated column. -/
theorem build_error {v : Violation}
    (hkeys : ∀ fk ∈ foreignKeys, fk.column ∈ columns.map (·.name))
    (h : build name columns foreignKeys = .error v) : ∃ column, v = .duplicateColumn name column := by
  rcases bind_eq_error_iff.1 h with hset | ⟨u, hu, h⟩
  · exact setColumns_error hset
  · obtain ⟨-, rfl⟩ := setColumns_eq_ok_iff.1 hu
    rw [foldlM_addForeignKey_eq_ok_iff.2 ⟨hkeys, rfl⟩] at h
    cases h

end Table

/-! ## Schemas -/

namespace Schema

variable {s s' : Schema} {t : Table}

theorem ext_tables (h : s.tables = s'.tables) : s = s' := by
  cases s
  cases s'
  cases h
  rfl

theorem insert_eq_ok_iff :
    s.insert t = .ok s' ↔ t.name ∉ s.tables.map (·.name) ∧ s'.tables = s.tables ++ [t] := by
  unfold insert
  split
  · next h =>
    have hnew := contains_eq_false_iff.1 h
    constructor
    · intro hs
      cases hs
      exact ⟨hnew, rfl⟩
    · rintro ⟨-, hs⟩
      exact congrArg Except.ok (ext_tables hs.symm)
  · next h =>
    rw [contains_eq_false_iff, Decidable.not_not] at h
    exact ⟨nofun, fun hs => absurd h hs.1⟩

/-- That the name is new is part of there being such a schema. -/
theorem insert_eq_ok_iff_tables : s.insert t = .ok s' ↔ s'.tables = s.tables ++ [t] := by
  rw [insert_eq_ok_iff, and_iff_right_iff_imp]
  intro htables
  have hdistinct := s'.distinct
  rw [htables, List.map_append, List.nodup_append] at hdistinct
  exact fun hold => hdistinct.2.2 _ hold _ (List.mem_singleton_self _) rfl

theorem insert_eq_error_iff {v : Violation} :
    s.insert t = .error v ↔ t.name ∈ s.tables.map (·.name) ∧ v = .duplicateTable t.name := by
  unfold insert
  split
  · next h => exact ⟨nofun, fun hs => absurd hs.1 (contains_eq_false_iff.1 h)⟩
  · next h =>
    rw [contains_eq_false_iff, Decidable.not_not] at h
    simp [h, eq_comm]

theorem tables_insertIfAbsent (s : Schema) (t : Table) :
    (s.insertIfAbsent t).1.tables =
      if t.name ∈ s.tables.map (·.name) then s.tables else s.tables ++ [t] := by
  unfold insertIfAbsent
  split
  · next h => rw [if_neg (contains_eq_false_iff.1 h)]; rfl
  · next h =>
    rw [contains_eq_false_iff, Decidable.not_not] at h
    rw [if_pos h]

theorem insertIfAbsent_added_iff :
    (s.insertIfAbsent t).2 = true ↔ t.name ∉ s.tables.map (·.name) := by
  unfold insertIfAbsent
  split
  · next h => simpa using contains_eq_false_iff.1 h
  · next h => simpa using fun hnew => h (contains_eq_false_iff.2 hnew)

end Schema

end SchemaSync
