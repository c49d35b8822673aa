/-
A difference does its work: the current schema, once all changes are made in
the listed order, differs from the desired one no more.

The result is known table by table (`converged`) and column by column
(`convergedColumn`), because each change settles the name it is about and no
other change is about that name. Foreign keys have no such key: there the
run is computed outright (`foldl_diffForeignKeys`).
-/
import SchemaSync.Proofs.Change.Subjects

namespace SchemaSync

/-! ## Columns -/

theorem columnNamed?_append {columns : List Column} {c : Column} {name : String}
    (hne : name ≠ c.name) : columnNamed? (columns ++ [c]) name = columnNamed? columns name := by
  have hb : (c.name == name) = false := by simpa using hne.symm
  simp [columnNamed?, hb]

theorem columnNamed?_append_self {columns : List Column} {c : Column}
    (h : columnNamed? columns c.name = none) : columnNamed? (columns ++ [c]) c.name = some c := by
  simp only [columnNamed?] at h
  simp [columnNamed?, List.find?_append, h]

theorem columnNamed?_remove {columns : List Column} {name other : String} :
    columnNamed? (columns.filter (·.name ≠ name)) other =
      if other = name then none else columnNamed? columns other := by
  by_cases hn : other = name
  · subst hn
    rw [if_pos rfl, columnNamed?_eq_none_iff]
    simp
  · rw [if_neg hn]
    simp only [columnNamed?, List.find?_filter]
    congr 1
    funext c
    by_cases hc : c.name = other
    · simp [hc, hn]
    · simp [hc]

theorem columnNamed?_replace {columns : List Column} {new : Column} {other : String} :
    columnNamed? (columns.map fun c => if c.name = new.name then new else c) other =
      if other = new.name then (columnNamed? columns other).map fun _ => new
      else columnNamed? columns other := by
  have hnames : ∀ c : Column,
      ((if c.name = new.name then new else c).name == other) = (c.name == other) := by
    intro c
    by_cases hc : c.name = new.name <;> simp [hc]
  simp only [columnNamed?, List.find?_map, Function.comp_def, hnames]
  cases h : columns.find? fun c => c.name == other with
  | none => simp
  | some c =>
    have hc : c.name = other := by simpa using List.find?_some h
    by_cases hn : other = new.name <;> simp [hc, hn]

/-- The column of a name once all changes are made. -/
def convergedColumn (desired current : List Column) (name : String) : Option Column :=
  match columnNamed? desired name, columnNamed? current name with
  | none, _ => none
  | some c, none => some c
  | some c, some e => if c.effective = e.effective then some e else some c

/-- A change of the difference settles its column and leaves the others. -/
theorem editColumns_settles {desired current columns : List Column}
    (hd : (desired.map (·.name)).Nodup) {change : Change}
    (hch : change ∈ diffColumns desired current)
    (hview : change.column?.bind (columnNamed? columns) =
      change.column?.bind (columnNamed? current)) :
    change.column?.bind (columnNamed? (change.editColumns columns)) =
        change.column?.bind (convergedColumn desired current) ∧
      ∀ k : Option String, k ≠ change.column? →
        k.bind (columnNamed? (change.editColumns columns)) = k.bind (columnNamed? columns) := by
  have hdesired : ∀ c ∈ desired, columnNamed? desired c.name = some c := fun c hcm =>
    (columnNamed?_eq_some_iff hd).2 ⟨hcm, rfl⟩
  rcases mem_diffColumns.1 hch with ⟨c, hcm, hno, rfl⟩ | ⟨e, hem, hno, rfl⟩ | ⟨c, hcm, e, he, hne, rfl⟩
  · simp only [Change.column?, Option.bind_some, hno] at hview
    refine ⟨?_, fun k hk => ?_⟩
    · simp only [Change.column?, Option.bind_some, Change.editColumns]
      rw [columnNamed?_append_self hview, convergedColumn, hdesired c hcm, hno]
    · cases k with
      | none => rfl
      | some name => exact columnNamed?_append fun h => hk (by rw [h]; rfl)
  · refine ⟨?_, fun k hk => ?_⟩
    · simp only [Change.column?, Option.bind_some, Change.editColumns]
      rw [columnNamed?_remove, if_pos rfl, convergedColumn, hno]
    · cases k with
      | none => rfl
      | some name =>
        simp only [Option.bind_some, Change.editColumns]
        rw [columnNamed?_remove, if_neg fun h => hk (by rw [h]; rfl)]
  · have hname : e.name = c.name := (columnNamed?_mem he).2
    simp only [Change.column?, Option.bind_some, hname, he] at hview
    refine ⟨?_, fun k hk => ?_⟩
    · simp only [Change.column?, Option.bind_some, Change.editColumns, hname]
      rw [columnNamed?_replace, if_pos rfl, hview, convergedColumn, hdesired c hcm, he]
      simp [hne]
    · cases k with
      | none => rfl
      | some name =>
        simp only [Option.bind_some, Change.editColumns, hname]
        rw [columnNamed?_replace, if_neg fun h => hk (by rw [h, ← hname]; rfl)]

/-- A name that no change is about already has its final column. -/
theorem columnNamed?_of_not_changed {desired current : List Column} {name : String}
    (h : some name ∉ (diffColumns desired current).map Change.column?) :
    columnNamed? current name = convergedColumn desired current name := by
  rw [convergedColumn]
  cases hdn : columnNamed? desired name with
  | none =>
    cases hcn : columnNamed? current name with
    | none => rfl
    | some e =>
      obtain ⟨hem, rfl⟩ := columnNamed?_mem hcn
      exact absurd (List.mem_map_of_mem (mem_diffColumns.2 (.inr (.inl ⟨e, hem, hdn, rfl⟩)))) h
  | some c =>
    obtain ⟨hcm, rfl⟩ := columnNamed?_mem hdn
    cases hcn : columnNamed? current c.name with
    | none => exact absurd (List.mem_map_of_mem (mem_diffColumns.2 (.inl ⟨c, hcm, hcn, rfl⟩))) h
    | some e =>
      by_cases heq : c.effective = e.effective
      · simp [heq]
      · refine absurd ?_ h
        rw [← (columnNamed?_mem hcn).2]
        exact List.mem_map_of_mem (mem_diffColumns.2 (.inr (.inr ⟨c, hcm, e, hcn, heq, rfl⟩)))

theorem columnNamed?_foldl_diffColumns {desired current : List Column}
    (hd : (desired.map (·.name)).Nodup) (hc : (current.map (·.name)).Nodup) (name : String) :
    columnNamed? ((diffColumns desired current).foldl Change.editColumns current) name =
      convergedColumn desired current name := by
  obtain ⟨final, hrun, hview⟩ := foldlM_keyed
    (fun columns change => (pure (change.editColumns columns) : Except Empty (List Column)))
    Change.column? (fun columns k => k.bind (columnNamed? columns))
    (fun k => k.bind (convergedColumn desired current)) (diffColumns_columns_nodup hd hc)
    fun change hch columns hv => ⟨_, rfl, editColumns_settles hd hch hv⟩
  rw [List.foldlM_pure] at hrun
  have hfinal : (diffColumns desired current).foldl Change.editColumns current = final :=
    Except.ok.inj hrun
  have hn := hview (some name)
  rw [hfinal]
  simp only [Option.bind_some] at hn
  split at hn
  · exact hn
  · next h => rw [hn, columnNamed?_of_not_changed h]

theorem diffColumns_foldl {desired current : List Column}
    (hd : (desired.map (·.name)).Nodup) (hc : (current.map (·.name)).Nodup) :
    diffColumns desired ((diffColumns desired current).foldl Change.editColumns current) = [] := by
  rw [diffColumns_eq_nil_iff_lookup]
  refine ⟨fun c hcm => ?_, fun e hem => ?_⟩
  · have hself : columnNamed? desired c.name = some c := (columnNamed?_eq_some_iff hd).2 ⟨hcm, rfl⟩
    rw [columnNamed?_foldl_diffColumns hd hc, convergedColumn, hself]
    cases columnNamed? current c.name with
    | none => exact ⟨c, rfl, rfl⟩
    | some e =>
      by_cases heq : c.effective = e.effective
      · exact ⟨e, by simp [heq], heq⟩
      · exact ⟨c, by simp [heq], rfl⟩
  · -- The look-up of `e.name` finds something, so the name is desired.
    by_contra hno
    have hnone := columnNamed?_foldl_diffColumns hd hc e.name
    rw [convergedColumn, columnNamed?_eq_none_iff.2 hno, columnNamed?_eq_none_iff] at hnone
    exact hnone (List.mem_map_of_mem hem)

/-! ## Foreign keys -/

theorem foldl_addForeignKey {keys added : List ForeignKey} :
    (added.map Change.addForeignKey).foldl Change.editForeignKeys keys = keys ++ added := by
  induction added generalizing keys with
  | nil => simp
  | cons fk added ih =>
    rw [List.map_cons, List.foldl_cons, ih]
    simp [Change.editForeignKeys]

theorem foldl_dropForeignKey {keys dropped : List ForeignKey} :
    (dropped.map Change.dropForeignKey).foldl Change.editForeignKeys keys =
      keys.filter (· ∉ dropped) := by
  induction dropped generalizing keys with
  | nil => simp
  | cons fk dropped ih =>
    rw [List.map_cons, List.foldl_cons, ih, Change.editForeignKeys, List.filter_filter]
    congr 1
    funext k
    simp [Bool.and_comm]

/-- The foreign keys once all changes are made: those that are wanted, and none that is not. -/
theorem foldl_diffForeignKeys {desired current : List ForeignKey} :
    (diffForeignKeys desired current).foldl Change.editForeignKeys current =
      (current ++ desired.filter fun fk => !current.any (·.sameTarget fk)).filter
        (· ∉ current.filter fun fk => !desired.any (·.sameTarget fk)) := by
  rw [diffForeignKeys, List.foldl_append, foldl_addForeignKey, foldl_dropForeignKey]

theorem diffForeignKeys_foldl {desired current : List ForeignKey} :
    diffForeignKeys desired
      ((diffForeignKeys desired current).foldl Change.editForeignKeys current) = [] := by
  rw [foldl_diffForeignKeys, diffForeignKeys_eq_nil_iff]
  simp only [List.mem_filter, List.mem_append, decide_eq_true_eq, not_and, Bool.not_eq_true',
    Bool.not_eq_false, List.any_eq_true]
  refine ⟨fun fk hfk => ?_, fun fk hfk => ?_⟩
  · by_cases hany : ∃ k ∈ current, k.sameTarget fk = true
    · obtain ⟨k, hk, hkt⟩ := hany
      exact ⟨k, ⟨.inl hk, fun _ => ⟨fk, hfk, sameTarget_comm.trans hkt⟩⟩, sameTarget_comm.trans hkt⟩
    · refine ⟨fk, ⟨.inr ⟨hfk, ?_⟩, fun _ => ⟨fk, hfk, sameTarget_refl fk⟩⟩, sameTarget_refl fk⟩
      rw [← Bool.not_eq_true, List.any_eq_true]
      exact hany
  · obtain ⟨hfk | ⟨hfk, -⟩, hkept⟩ := hfk
    · obtain ⟨k, hk, hkt⟩ := hkept hfk
      exact ⟨k, hk, sameTarget_comm.trans hkt⟩
    · exact ⟨fk, hfk, sameTarget_refl fk⟩

/-! ## Tables -/

theorem foldl_edit_columns {changes : List Change} {t : Table} :
    (changes.foldl Change.edit t).columns = changes.foldl Change.editColumns t.columns :=
  (List.foldl_hom Table.columns fun _ _ => rfl).symm

theorem foldl_edit_foreignKeys {changes : List Change} {t : Table} :
    (changes.foldl Change.edit t).foreignKeys =
      changes.foldl Change.editForeignKeys t.foreignKeys :=
  (List.foldl_hom Table.foreignKeys fun _ _ => rfl).symm

/-- Changes that leave a part of the table alone, one by one, leave it alone together. -/
theorem foldl_eq_self {σ δ : Type} {f : σ → δ → σ} {s : σ} :
    ∀ {ds : List δ}, (∀ d ∈ ds, ∀ r, f r d = r) → ds.foldl f s = s
  | [], _ => rfl
  | d :: ds, h => by
    rw [List.foldl_cons, h d (by simp)]
    exact foldl_eq_self fun e he => h e (List.mem_cons_of_mem _ he)

theorem diffTable_foldl {t u : Table} (ht : t.DistinctColumns) (hu : u.DistinctColumns) :
    diffTable t ((diffTable t u).foldl Change.edit u) = [] := by
  have hcolumns : ((diffTable t u).foldl Change.edit u).columns =
      (diffColumns t.columns u.columns).foldl Change.editColumns u.columns := by
    rw [foldl_edit_columns, diffTable, List.foldl_append]
    refine foldl_eq_self fun change hch r => ?_
    rcases mem_diffForeignKeys.1 hch with ⟨_, _, _, rfl⟩ | ⟨_, _, _, rfl⟩ <;> rfl
  have hkeys : ((diffTable t u).foldl Change.edit u).foreignKeys =
      (diffForeignKeys t.foreignKeys u.foreignKeys).foldl Change.editForeignKeys u.foreignKeys := by
    rw [foldl_edit_foreignKeys, diffTable, List.foldl_append]
    congr 1
    refine foldl_eq_self fun change hch r => ?_
    rcases mem_diffColumns.1 hch with ⟨_, _, _, rfl⟩ | ⟨_, _, _, rfl⟩ | ⟨_, _, _, _, _, rfl⟩ <;> rfl
  rw [diffTable, hcolumns, hkeys, diffColumns_foldl ht hu, diffForeignKeys_foldl]
  rfl

theorem diffTable_self {t : Table} (ht : t.DistinctColumns) : diffTable t t = [] :=
  (diffTable_eq_nil_iff ht).2 (.refl ht)

/-! ## Schemas -/

/-- The table of a name once all changes are made. -/
def converged (desired current : Schema) (name : String) : Option Table :=
  match desired.get? name, current.get? name with
  | none, _ => none
  | some t, none => some t
  | some t, some u => some ((diffTable t u).foldl Change.edit u)

/-- The changes of one table settle it and leave the others. -/
theorem execute_steps_settles {desired current s : Schema} {d : TableDiff}
    (hd : d ∈ diff desired current) (hs : s.get? d.table = current.get? d.table) :
    ∃ s', execute s d.steps = .ok s' ∧ s'.get? d.table = converged desired current d.table ∧
      ∀ name, name ≠ d.table → s'.get? name = s.get? name := by
  rcases mem_diff.1 hd with ⟨t, ht, hno, rfl⟩ | ⟨u, hu, hno, rfl⟩ | ⟨t, ht, u, hget, -, rfl⟩
  · obtain ⟨s', hins, hview⟩ := Schema.get?_insert (hs.trans hno)
    refine ⟨s', by simp [execute, TableDiff.steps, Change.apply, hins], ?_, fun name hn => ?_⟩
    · rw [hview, if_pos rfl, converged, Schema.get?_name ht, hno]
    · rw [hview, if_neg hn]
  · refine ⟨s.remove u.name, rfl, ?_, fun name hn => ?_⟩
    · rw [Schema.get?_remove, if_pos rfl, converged, hno]
    · rw [Schema.get?_remove, if_neg hn]
  · obtain ⟨s', hrun, hown, hother⟩ := execute_edits t.name (s := s)
      fun c (hc : c ∈ diffTable t u) => isEdit_of_mem_diffTable hc
    refine ⟨s', hrun, ?_, hother⟩
    rw [hown, hs, converged, Schema.get?_name ht, hget]
    rfl

/-- A name without changes already has its final table. -/
theorem get?_of_not_changed {desired current : Schema} {name : String}
    (h : name ∉ (diff desired current).map (·.table)) :
    current.get? name = converged desired current name := by
  rw [converged]
  cases hdn : desired.get? name with
  | none =>
    cases hcn : current.get? name with
    | none => rfl
    | some u =>
      obtain ⟨hu, rfl⟩ := Schema.get?_eq_some_iff.1 hcn
      exact absurd (List.mem_map_of_mem (mem_diff.2 (.inr (.inl ⟨u, hu, hdn, rfl⟩)))) h
  | some t =>
    obtain ⟨ht, rfl⟩ := Schema.get?_eq_some_iff.1 hdn
    cases hcn : current.get? t.name with
    | none => exact absurd (List.mem_map_of_mem (mem_diff.2 (.inl ⟨t, ht, hcn, rfl⟩))) h
    | some u =>
      by_cases hnil : diffTable t u = []
      · simp [hnil]
      · exact absurd
          (List.mem_map_of_mem (mem_diff.2 (.inr (.inr ⟨t, ht, u, hcn, hnil, rfl⟩)))) h

/-- The run of a whole difference succeeds, and its result is known table by table. -/
theorem execute_diff (desired current : Schema) :
    ∃ s, execute current (diffSteps (diff desired current)) = .ok s ∧
      ∀ name, s.get? name = converged desired current name := by
  rw [execute_diffSteps]
  obtain ⟨s, hrun, hview⟩ := foldlM_keyed (fun r (d : TableDiff) => execute r d.steps) (·.table)
    Schema.get? (converged desired current) (s := current) (diff_tables_nodup desired current)
    fun d hd r hr => execute_steps_settles hd hr
  refine ⟨s, hrun, fun name => ?_⟩
  rw [hview]
  split
  · rfl
  · next h => exact get?_of_not_changed h

/-- **The changes lead to the desired schema.** Made in the listed order on the current schema,
they all succeed and leave nothing to change. Each table that comes up has changes, no table comes
up twice, and no column of a table is the subject of two changes. -/
theorem execute_diff_converges (desired current : Schema) (hd : desired.DistinctColumns)
    (hc : current.DistinctColumns) :
    (∃ s, execute current (diffSteps (diff desired current)) = .ok s ∧ diff desired s = []) ∧
    (∀ d ∈ diff desired current, d.changes ≠ []) ∧
    ((diff desired current).map (·.table)).Nodup ∧
    ∀ d ∈ diff desired current, (d.changes.filterMap Change.column?).Nodup := by
  refine ⟨?final, fun d => changes_ne_nil, diff_tables_nodup desired current, ?columns⟩
  case final =>
    obtain ⟨s, hrun, hview⟩ := execute_diff desired current
    refine ⟨s, hrun, diff_eq_nil_iff_lookup.2 ⟨fun t ht => ?_, fun u hu => ?_⟩⟩
    · rw [hview, converged, Schema.get?_name ht]
      cases hu : current.get? t.name with
      | none => exact ⟨t, rfl, diffTable_self (hd t ht)⟩
      | some u =>
        exact ⟨_, rfl, diffTable_foldl (hd t ht) (hc u (Schema.get?_eq_some_iff.1 hu).1)⟩
    · by_contra hno
      have hnone := hview u.name
      rw [converged, Schema.get?_eq_none_iff.2 hno, Schema.get?_name hu] at hnone
      cases hnone
  case columns =>
    intro d hdm
    rcases mem_diff.1 hdm with ⟨t, -, -, rfl⟩ | ⟨u, -, -, rfl⟩ | ⟨t, ht, u, hu, -, rfl⟩
    · exact .nil
    · exact .nil
    · exact diffTable_columns_nodup (hd t ht) (hc u (Schema.get?_eq_some_iff.1 hu).1)

/-- An older state of `blogSchema`: a table less, a table more, and other posts. -/
def olderBlogSchema : Schema :=
  ⟨[{ name := "drafts", columns := [{ name := "id", type := .bigInt, primaryKey := true }] },
    { name := "posts"
      columns := [{ name := "title", type := .text }, { name := "author", type := .string }]
      foreignKeys := [⟨"fk_posts_author", "author", "drafts", "id", some .cascade⟩] }], by decide⟩

theorem execute_diff_converges_blog :
    blogSchema.DistinctColumns ∧ olderBlogSchema.DistinctColumns ∧
      (diff blogSchema olderBlogSchema).length = 3 ∧
      ∃ s, execute olderBlogSchema (diffSteps (diff blogSchema olderBlogSchema)) = .ok s ∧
        diff blogSchema s = [] := by
  have hd : blogSchema.DistinctColumns := by decide
  have hc : olderBlogSchema.DistinctColumns := by decide
  exact ⟨hd, hc, by decide, (execute_diff_converges _ _ hd hc).1⟩

end SchemaSync
