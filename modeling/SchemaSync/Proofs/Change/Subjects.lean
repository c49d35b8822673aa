/-
What the passes of a difference list, and that they list nothing twice.

`mem_diff` and `mem_diffColumns` say which changes there are. The three
passes look at names that are only desired, only current, or both, so with
distinct names no name comes up in two changes (`nodup_passes`).
-/
import Mathlib.Data.List.Nodup
import SchemaSync.Proofs.Change.Agreement
import SchemaSync.Proofs.Change.Execution

namespace SchemaSync

/-! ## Membership -/

theorem mem_diffColumns {desired current : List Column} {change : Change} :
    change ∈ diffColumns desired current ↔
      (∃ c ∈ desired, columnNamed? current c.name = none ∧ change = .addColumn c) ∨
      (∃ e ∈ current, columnNamed? desired e.name = none ∧ change = .dropColumn e.name) ∨
      ∃ c ∈ desired, ∃ e, columnNamed? current c.name = some e ∧ c.effective ≠ e.effective ∧
        change = .modifyColumn e c := by
  simp only [diffColumns, List.mem_append, List.mem_map, List.mem_filter, Option.isNone_iff_eq_none,
    List.mem_filterMap, or_assoc, and_assoc, eq_comm (b := change)]
  refine or_congr Iff.rfl (or_congr Iff.rfl (exists_congr fun c => and_congr_right fun _ => ?_))
  cases columnNamed? current c.name with
  | none => simp
  | some e => by_cases h : c.effective = e.effective <;> simp [h, eq_comm (b := change)]

theorem mem_diffForeignKeys {desired current : List ForeignKey} {change : Change} :
    change ∈ diffForeignKeys desired current ↔
      (∃ fk ∈ desired, current.any (·.sameTarget fk) = false ∧ change = .addForeignKey fk) ∨
      ∃ fk ∈ current, desired.any (·.sameTarget fk) = false ∧ change = .dropForeignKey fk := by
  simp only [diffForeignKeys, List.mem_append, List.mem_map, List.mem_filter, Bool.not_eq_true',
    and_assoc, eq_comm (b := change)]

theorem mem_diff {desired current : Schema} {d : TableDiff} :
    d ∈ diff desired current ↔
      (∃ t ∈ desired.tables, current.get? t.name = none ∧ d = ⟨t.name, [.addTable t]⟩) ∨
      (∃ u ∈ current.tables, desired.get? u.name = none ∧ d = ⟨u.name, [.dropTable u.name]⟩) ∨
      ∃ t ∈ desired.tables, ∃ u, current.get? t.name = some u ∧ diffTable t u ≠ [] ∧
        d = ⟨t.name, diffTable t u⟩ := by
  have hnone : ∀ (s : Schema) (name : String), (!s.contains name) = true ↔ s.get? name = none := by
    intro s name
    rw [Bool.not_eq_true', Schema.contains_eq_false_iff, Schema.get?_eq_none_iff]
  simp only [diff, List.mem_append, List.mem_map, List.mem_filter, hnone, List.mem_filterMap,
    or_assoc, and_assoc, eq_comm (b := d)]
  refine or_congr Iff.rfl (or_congr Iff.rfl (exists_congr fun t => and_congr_right fun _ => ?_))
  cases current.get? t.name with
  | none => simp
  | some u => cases hch : diffTable t u <;> simp [hch, eq_comm (b := d)]

theorem isEdit_of_mem_diffTable {t u : Table} {change : Change} (h : change ∈ diffTable t u) :
    change.isEdit = true := by
  rw [diffTable, List.mem_append, mem_diffColumns, mem_diffForeignKeys] at h
  rcases h with (⟨_, _, _, rfl⟩ | ⟨_, _, _, rfl⟩ | ⟨_, _, _, _, _, rfl⟩) | ⟨_, _, _, rfl⟩ | ⟨_, _, _, rfl⟩ <;>
    rfl

theorem changes_ne_nil {desired current : Schema} {d : TableDiff} (h : d ∈ diff desired current) :
    d.changes ≠ [] := by
  rcases mem_diff.1 h with ⟨_, _, _, rfl⟩ | ⟨_, _, _, rfl⟩ | ⟨_, _, _, _, hne, rfl⟩
  · exact List.cons_ne_nil _ _
  · exact List.cons_ne_nil _ _
  · exact hne

/-! ## No subject comes up twice -/

/-- Names in order from what is only desired, from what is only current, and from what is both. -/
theorem nodup_passes {κ : Type} {desired current added dropped modified : List κ}
    (hd : desired.Nodup) (hc : current.Nodup)
    (hadd : added.Sublist desired) (hadd' : ∀ k ∈ added, k ∉ current)
    (hdrop : dropped.Sublist current) (hdrop' : ∀ k ∈ dropped, k ∉ desired)
    (hmod : modified.Sublist desired) (hmod' : ∀ k ∈ modified, k ∈ current) :
    (added ++ dropped ++ modified).Nodup := by
  rw [List.nodup_append, List.nodup_append]
  refine ⟨⟨hd.sublist hadd, hc.sublist hdrop, ?_⟩, hd.sublist hmod, ?_⟩
  · rintro k hk l hl rfl
    exact hadd' k hk (hdrop.subset hl)
  · rintro k hk l hl rfl
    rw [List.mem_append] at hk
    rcases hk with hk | hk
    · exact hadd' k hk (hmod' k hl)
    · exact hdrop' k hk (hmod.subset hl)

/-- What a pass keeps of a list has its keys in the order of the list. -/
theorem filterMap_keys_sublist {α β κ : Type} {f : α → Option β} {key : β → κ} {name : α → κ} :
    ∀ {l : List α}, (∀ a ∈ l, ∀ b, f a = some b → key b = name a) →
      ((l.filterMap f).map key).Sublist (l.map name)
  | [], _ => .slnil
  | a :: l, h => by
    have ih := filterMap_keys_sublist (l := l) fun b hb => h b (List.mem_cons_of_mem _ hb)
    rw [List.filterMap_cons, List.map_cons]
    cases ha : f a with
    | none => exact .cons _ ih
    | some b =>
      rw [List.map_cons, h a (by simp) b ha]
      exact .cons_cons _ ih

/-- What the last pass over columns says about one of them. -/
theorem modified_eq_some {current : List Column} {c : Column} {change : Change}
    (h : (match columnNamed? current c.name with
      | some old => if c.effective = old.effective then none else some (Change.modifyColumn old c)
      | none => none) = some change) :
    ∃ e ∈ current, e.name = c.name ∧ change = .modifyColumn e c := by
  cases he : columnNamed? current c.name with
  | none => simp [he] at h
  | some e =>
    obtain ⟨hem, hname⟩ := columnNamed?_mem he
    simp only [he] at h
    split at h
    · cases h
    · cases h
      exact ⟨e, hem, hname, rfl⟩

/-- What the last pass over tables says about one of them. -/
theorem altered_eq_some {current : Schema} {t : Table} {d : TableDiff}
    (h : (match current.get? t.name with
      | some u => match diffTable t u with
        | [] => none
        | changes => some (TableDiff.mk t.name changes)
      | none => none) = some d) :
    d.table = t.name ∧ t.name ∈ current.tables.map (·.name) := by
  cases hu : current.get? t.name with
  | none => simp [hu] at h
  | some u =>
    obtain ⟨hmem, hname⟩ := Schema.get?_eq_some_iff.1 hu
    cases hch : diffTable t u <;> simp [hu, hch] at h
    exact ⟨by rw [← h], hname ▸ List.mem_map_of_mem hmem⟩

theorem diffColumns_columns_nodup {desired current : List Column}
    (hd : (desired.map (·.name)).Nodup) (hc : (current.map (·.name)).Nodup) :
    ((diffColumns desired current).map Change.column?).Nodup := by
  have hsome : ∀ {l : List Column}, (l.map (·.name)).Nodup → (l.map fun c => some c.name).Nodup := by
    intro l hl
    rw [← Function.comp_def some, ← List.map_map]
    exact hl.map fun _ _ h => Option.some.inj h
  rw [diffColumns, List.map_append, List.map_append, List.map_map, List.map_map]
  refine nodup_passes (hsome hd) (hsome hc) (List.filter_sublist.map _) ?added
    (List.filter_sublist.map _) ?dropped (filterMap_keys_sublist ?keys) ?modified
  case added | dropped =>
    intro k hk
    simp only [List.mem_map, List.mem_filter, Option.isNone_iff_eq_none,
      columnNamed?_eq_none_iff] at hk
    obtain ⟨c, ⟨_, hno⟩, rfl⟩ := hk
    simpa [Change.column?] using hno
  case keys =>
    intro c _ change hch
    obtain ⟨e, -, hname, rfl⟩ := modified_eq_some hch
    exact congrArg some hname
  case modified =>
    intro k hk
    obtain ⟨change, hch, rfl⟩ := List.mem_map.1 hk
    obtain ⟨c, _, hch⟩ := List.mem_filterMap.1 hch
    obtain ⟨e, hem, hname, rfl⟩ := modified_eq_some hch
    exact List.mem_map_of_mem hem

/-- No column of a table is the subject of two changes. -/
theorem diffTable_columns_nodup {t u : Table} (ht : t.DistinctColumns) (hu : u.DistinctColumns) :
    ((diffTable t u).filterMap Change.column?).Nodup := by
  have hkeys : (diffForeignKeys t.foreignKeys u.foreignKeys).filterMap Change.column? = [] := by
    rw [List.filterMap_eq_nil_iff]
    intro change h
    rcases mem_diffForeignKeys.1 h with ⟨_, _, _, rfl⟩ | ⟨_, _, _, rfl⟩ <;> rfl
  rw [diffTable, List.filterMap_append, hkeys, List.append_nil]
  have hid : ∀ (a a' : Option String) (b : String), b ∈ id a → b ∈ id a' → a = a' := by
    rintro a a' b (rfl : a = some b) (rfl : a' = some b)
    rfl
  have h := (diffColumns_columns_nodup ht hu).filterMap hid
  rwa [List.filterMap_map] at h

/-- No table comes up twice. -/
theorem diff_tables_nodup (desired current : Schema) :
    ((diff desired current).map (·.table)).Nodup := by
  rw [diff, List.map_append, List.map_append, List.map_map, List.map_map]
  refine nodup_passes desired.distinct current.distinct (List.filter_sublist.map _) ?added
    (List.filter_sublist.map _) ?dropped (filterMap_keys_sublist ?keys) ?modified
  case added | dropped =>
    intro k hk
    obtain ⟨t, ht, rfl⟩ := List.mem_map.1 hk
    rw [List.mem_filter, Bool.not_eq_true', Schema.contains_eq_false_iff] at ht
    exact ht.2
  case keys =>
    intro t _ d hd
    exact (altered_eq_some hd).1
  case modified =>
    intro k hk
    obtain ⟨d, hd, rfl⟩ := List.mem_map.1 hk
    obtain ⟨t, _, hd⟩ := List.mem_filterMap.1 hd
    obtain ⟨hname, hmem⟩ := altered_eq_some hd
    exact hname ▸ hmem

end SchemaSync
