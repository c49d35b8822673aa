/-
A table half altered.

The changes of a table take none of its columns or foreign keys away that
they bring, so after some of them it has what it had or was brought, less
what was taken (`name_mem_foldl_edit`, `mem_foreignKeys_foldl_edit`). Its
columns are altered first, so a foreign key never comes before its column
(`column_mem_foldl_edit`).
-/
import SchemaSync.Proofs.Change.Midway

namespace SchemaSync

/-! ## One change -/

theorem name_mem_editColumns {change : Change} {columns : List Column} {name : String}
    (hmodify : ∀ old new, change = .modifyColumn old new → old.name = new.name) :
    name ∈ (change.editColumns columns).map (·.name) ↔
      (name ∈ columns.map (·.name) ∨ ∃ c, change = .addColumn c ∧ c.name = name) ∧
        change ≠ .dropColumn name := by
  cases change with
  | addColumn c => simp [Change.editColumns, eq_comm (a := name)]
  | dropColumn other =>
    simp only [Change.editColumns, List.mem_map, List.mem_filter, decide_eq_true_eq, ne_eq,
      Change.dropColumn.injEq]
    grind
  | modifyColumn old new =>
    have hname := hmodify old new rfl
    have hnames : (columns.map fun c => if c.name = old.name then new else c).map (·.name) =
        columns.map (·.name) := by
      rw [List.map_map]
      refine List.map_congr_left fun c _ => ?_
      by_cases hc : c.name = old.name
      · rw [Function.comp_apply, if_pos hc, hc, hname]
      · rw [Function.comp_apply, if_neg hc]
    simp only [Change.editColumns, hnames]
    simp
  | _ => simp [Change.editColumns]

theorem mem_editForeignKeys {change : Change} {keys : List ForeignKey} {fk : ForeignKey} :
    fk ∈ change.editForeignKeys keys ↔
      (fk ∈ keys ∨ change = .addForeignKey fk) ∧ change ≠ .dropForeignKey fk := by
  cases change with
  | addForeignKey k => simp [Change.editForeignKeys, eq_comm (a := fk)]
  | dropForeignKey k => simp [Change.editForeignKeys, eq_comm (a := fk)]
  | _ => simp [Change.editForeignKeys]

section

variable {t u : Table} {changes : List Change}

theorem addColumn_mem_diffTable {c : Column} :
    .addColumn c ∈ diffTable t u ↔ c ∈ t.columns ∧ c.name ∉ u.columns.map (·.name) := by
  simp [diffTable, mem_diffColumns, mem_diffForeignKeys, columnNamed?_eq_none_iff, and_comm]

theorem dropColumn_mem_diffTable {name : String} :
    .dropColumn name ∈ diffTable t u ↔
      name ∈ u.columns.map (·.name) ∧ name ∉ t.columns.map (·.name) := by
  simp only [diffTable, List.mem_append, mem_diffColumns, mem_diffForeignKeys,
    columnNamed?_eq_none_iff]
  constructor
  · rintro ((⟨_, _, _, h⟩ | ⟨e, he, hno, h⟩ | ⟨_, _, _, _, _, h⟩) | ⟨_, _, _, h⟩ | ⟨_, _, _, h⟩) <;>
      cases h
    exact ⟨List.mem_map_of_mem he, hno⟩
  · rintro ⟨h, hno⟩
    obtain ⟨e, he, rfl⟩ := List.mem_map.1 h
    exact .inl (.inr (.inl ⟨e, he, hno, rfl⟩))

theorem addForeignKey_mem_diffTable {fk : ForeignKey} :
    .addForeignKey fk ∈ diffTable t u ↔
      fk ∈ t.foreignKeys ∧ u.foreignKeys.any (·.sameTarget fk) = false := by
  simp [diffTable, mem_diffColumns, mem_diffForeignKeys]

theorem dropForeignKey_mem_diffTable {fk : ForeignKey} :
    .dropForeignKey fk ∈ diffTable t u ↔
      fk ∈ u.foreignKeys ∧ t.foreignKeys.any (·.sameTarget fk) = false := by
  simp [diffTable, mem_diffColumns, mem_diffForeignKeys]

theorem modifyColumn_name_eq {old new : Column} (h : .modifyColumn old new ∈ diffTable t u) :
    old.name = new.name := by
  rcases List.mem_append.1 h with h | h
  · rcases mem_diffColumns.1 h with ⟨_, _, _, h⟩ | ⟨_, _, _, h⟩ | ⟨c, _, e, he, _, h⟩ <;> cases h
    exact (columnNamed?_mem he).2
  · rcases mem_diffForeignKeys.1 h with ⟨_, _, _, h⟩ | ⟨_, _, _, h⟩ <;> cases h

/-! ## Some changes -/

/-- What holds after steps of which none takes away what another brings. -/
theorem holds_foldl_iff {σ δ : Type} {f : σ → δ → σ} (holds : σ → Prop) (brings takes : δ → Prop) :
    ∀ (ds : List δ) (s : σ), (∀ d ∈ ds, ∀ r, holds (f r d) ↔ (holds r ∨ brings d) ∧ ¬ takes d) →
      (∀ d ∈ ds, ∀ e ∈ ds, brings d → ¬ takes e) →
      (holds (ds.foldl f s) ↔ (holds s ∨ ∃ d ∈ ds, brings d) ∧ ∀ d ∈ ds, ¬ takes d)
  | [], s, _, _ => by simp
  | d :: ds, s, hstep, hapart => by
    have hd := hstep d List.mem_cons_self s
    have ih := holds_foldl_iff holds brings takes ds (f s d)
      (fun e he => hstep e (List.mem_cons_of_mem _ he))
      fun e he e' he' => hapart e (List.mem_cons_of_mem _ he) e' (List.mem_cons_of_mem _ he')
    -- A step that takes away what a later one brings would make the order matter.
    have hlater : (∃ e ∈ ds, brings e) → ¬ takes d := by
      rintro ⟨e, he, hbrings⟩
      exact hapart e (List.mem_cons_of_mem _ he) d List.mem_cons_self hbrings
    simp only [List.foldl_cons, ih, hd, List.mem_cons, forall_eq_or_imp, exists_eq_or_imp]
    constructor
    · rintro ⟨⟨hs | hb, ht⟩ | hl, hrest⟩
      · exact ⟨.inl hs, ht, hrest⟩
      · exact ⟨.inr (.inl hb), ht, hrest⟩
      · exact ⟨.inr (.inr hl), hlater hl, hrest⟩
    · rintro ⟨hs | hb | hl, ht, hrest⟩
      · exact ⟨.inl ⟨.inl hs, ht⟩, hrest⟩
      · exact ⟨.inl ⟨.inr hb, ht⟩, hrest⟩
      · exact ⟨.inr hl, hrest⟩

theorem name_mem_foldl_edit (h : changes ⊆ diffTable t u) {name : String} :
    name ∈ (changes.foldl Change.edit u).columns.map (·.name) ↔
      (name ∈ u.columns.map (·.name) ∨ ∃ c, .addColumn c ∈ changes ∧ c.name = name) ∧
        .dropColumn name ∉ changes := by
  have hfold := holds_foldl_iff (fun columns : List Column => name ∈ columns.map (·.name))
    (fun change => ∃ c, change = .addColumn c ∧ c.name = name) (· = .dropColumn name)
    changes u.columns (fun change hch columns => name_mem_editColumns ?names) ?apart
  case names =>
    rintro old new rfl
    exact modifyColumn_name_eq (h hch)
  case apart =>
    rintro change hch other hother ⟨c, rfl, rfl⟩ rfl
    exact (addColumn_mem_diffTable.1 (h hch)).2 (dropColumn_mem_diffTable.1 (h hother)).1
  rw [foldl_edit_columns, hfold]
  refine and_congr (or_congr_right ⟨?_, ?_⟩) List.forall_mem_ne'
  · rintro ⟨_, hch, c, rfl, hname⟩
    exact ⟨c, hch, hname⟩
  · rintro ⟨c, hch, hname⟩
    exact ⟨_, hch, c, rfl, hname⟩

theorem mem_foreignKeys_foldl_edit (h : changes ⊆ diffTable t u) {fk : ForeignKey} :
    fk ∈ (changes.foldl Change.edit u).foreignKeys ↔
      (fk ∈ u.foreignKeys ∨ .addForeignKey fk ∈ changes) ∧ .dropForeignKey fk ∉ changes := by
  have hfold := holds_foldl_iff (fun keys : List ForeignKey => fk ∈ keys) (· = .addForeignKey fk)
    (· = .dropForeignKey fk) changes u.foreignKeys
    (fun _ _ _ => mem_editForeignKeys) ?apart
  case apart =>
    rintro change hch other hother rfl rfl
    have hnone := (addForeignKey_mem_diffTable.1 (h hch)).2
    rw [List.any_eq_false] at hnone
    exact hnone fk (dropForeignKey_mem_diffTable.1 (h hother)).1 (sameTarget_refl fk)
  rw [foldl_edit_foreignKeys, hfold]
  exact and_congr (or_congr_right (by simp)) List.forall_mem_ne'

theorem name_mem_of_both (h : changes ⊆ diffTable t u) {name : String}
    (ht : name ∈ t.columns.map (·.name)) (hu : name ∈ u.columns.map (·.name)) :
    name ∈ (changes.foldl Change.edit u).columns.map (·.name) :=
  (name_mem_foldl_edit h).2 ⟨.inl hu, fun hdrop => (dropColumn_mem_diffTable.1 (h hdrop)).2 ht⟩

/-- A desired column is there once the columns are altered. -/
theorem name_mem_of_columns_altered (h : changes ⊆ diffTable t u)
    (hcolumns : diffColumns t.columns u.columns ⊆ changes) {name : String}
    (ht : name ∈ t.columns.map (·.name)) :
    name ∈ (changes.foldl Change.edit u).columns.map (·.name) := by
  by_cases hu : name ∈ u.columns.map (·.name)
  · exact name_mem_of_both h ht hu
  · obtain ⟨c, hc, rfl⟩ := List.mem_map.1 ht
    have hadd : .addColumn c ∈ changes :=
      hcolumns (mem_diffColumns.2 (.inl ⟨c, hc, columnNamed?_eq_none_iff.2 hu, rfl⟩))
    exact (name_mem_foldl_edit h).2
      ⟨.inr ⟨c, hadd, rfl⟩, fun hdrop => (dropColumn_mem_diffTable.1 (h hdrop)).2 ht⟩

theorem diffColumns_subset_of_addForeignKey (h : changes <+: diffTable t u) {fk : ForeignKey}
    (hfk : .addForeignKey fk ∈ changes) : diffColumns t.columns u.columns ⊆ changes := by
  obtain ⟨before, after, rfl⟩ := List.append_of_mem hfk
  obtain ⟨rest, hrest⟩ := h
  have hsplit : diffTable t u = before ++ .addForeignKey fk :: (after ++ rest) := by
    simp [← hrest]
  obtain ⟨earlier, later, -, rfl⟩ := split_diffTable hsplit
  intro change hch
  simp [hch]

/-- A foreign key of a table half altered stands on a column that is there, if its column stays. -/
theorem column_mem_foldl_edit (h : changes <+: diffTable t u) {fk : ForeignKey}
    (hfk : fk ∈ (changes.foldl Change.edit u).foreignKeys)
    (hu : fk ∈ u.foreignKeys → fk.column ∈ u.columns.map (·.name) ∧
      fk.column ∈ t.columns.map (·.name))
    (ht : fk ∈ t.foreignKeys → fk.column ∈ t.columns.map (·.name)) :
    fk.column ∈ (changes.foldl Change.edit u).columns.map (·.name) := by
  rcases ((mem_foreignKeys_foldl_edit h.subset).1 hfk).1 with hold | hnew
  · exact name_mem_of_both h.subset (hu hold).2 (hu hold).1
  · exact name_mem_of_columns_altered h.subset (diffColumns_subset_of_addForeignKey h hnew)
      (ht (addForeignKey_mem_diffTable.1 (h.subset hnew)).1)

theorem exists_desired_of_mem_foldl_edit {fk : ForeignKey}
    (h : fk ∈ ((diffTable t u).foldl Change.edit u).foreignKeys) :
    ∃ k ∈ t.foreignKeys, k.sameTarget fk := by
  obtain ⟨hold | hnew, hkept⟩ := (mem_foreignKeys_foldl_edit (List.Subset.refl _)).1 h
  · rw [dropForeignKey_mem_diffTable, not_and, Bool.not_eq_false, List.any_eq_true] at hkept
    exact hkept hold
  · exact ⟨fk, (addForeignKey_mem_diffTable.1 hnew).1, sameTarget_refl fk⟩

end

end SchemaSync
