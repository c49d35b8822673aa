/-
The schema in the middle of a run.

A difference lists its changes table by table, so a run that stops before one
of them has made all changes of some tables, and the first few of one more
(`split_diffSteps`). A table that is added or dropped comes with one change
only. So what is ever seen half altered is a table on both sides, and by then
all additions and drops are done (`passes_done`). The look-up of each name at
such a point is known outright (`execute_prefix`, `execute_midway`).
-/
import SchemaSync.Proofs.Change.Convergence

namespace SchemaSync

/-! ## The passes over tables -/

/-- The tables to add, in the order in which they are added. -/
def addedTables (desired current : Schema) : List Table :=
  desired.tables.filter fun t => !current.contains t.name

/-- The tables to drop, in the order in which they are dropped. -/
def droppedTables (desired current : Schema) : List Table :=
  current.tables.filter fun t => !desired.contains t.name

/-- The change that adds a table. -/
def addition (t : Table) : TableDiff :=
  ⟨t.name, [.addTable t]⟩

/-- The change that drops a table. -/
def removal (t : Table) : TableDiff :=
  ⟨t.name, [.dropTable t.name]⟩

theorem mem_addedTables {desired current : Schema} {t : Table} :
    t ∈ addedTables desired current ↔ t ∈ desired.tables ∧ current.get? t.name = none := by
  rw [addedTables, List.mem_filter, Bool.not_eq_true', Schema.contains_eq_false_iff,
    Schema.get?_eq_none_iff]

theorem mem_droppedTables {desired current : Schema} {u : Table} :
    u ∈ droppedTables desired current ↔ u ∈ current.tables ∧ desired.get? u.name = none :=
  mem_addedTables

/-- Additions come first, then drops, then the tables that are on both sides. -/
theorem diff_passes (desired current : Schema) :
    ∃ alterations, diff desired current = (addedTables desired current).map addition ++
        ((droppedTables desired current).map removal ++ alterations) ∧
      ∀ d ∈ alterations, ∃ t ∈ desired.tables, ∃ u, current.get? t.name = some u ∧
        d = ⟨t.name, diffTable t u⟩ := by
  refine ⟨_, List.append_assoc _ _ _, fun d hd => ?_⟩
  obtain ⟨t, ht, hd⟩ := List.mem_filterMap.1 hd
  refine ⟨t, ht, ?_⟩
  cases hu : current.get? t.name with
  | none => simp [hu] at hd
  | some u =>
    cases hch : diffTable t u with
    | nil => simp [hu, hch] at hd
    | cons c cs =>
      simp only [hu, hch, Option.some.injEq] at hd
      exact ⟨u, rfl, by rw [hch, hd]⟩

/-- A list cut in two cuts each pass over it in two. -/
theorem exists_split_of_append_eq {α δ : Type} {f : α → δ} {pass : List α}
    {ds rest before after : List δ} (h : ds ++ rest = before ++ (pass.map f ++ after)) :
    ∃ done todo, pass = done ++ todo ∧ (∀ a ∈ done, f a ∈ ds) ∧ ∀ a ∈ todo, f a ∈ rest := by
  rcases List.append_eq_append_iff.1 h with ⟨cs, -, rfl⟩ | ⟨cs, rfl, hcs⟩
  · exact ⟨[], pass, rfl, by simp, fun a ha => by simp [List.mem_map_of_mem ha]⟩
  · rcases List.append_eq_append_iff.1 hcs with ⟨es, rfl, -⟩ | ⟨es, hes, rfl⟩
    · exact ⟨pass, [], by simp, fun a ha => by simp [List.mem_map_of_mem ha], by simp⟩
    · obtain ⟨done, todo, rfl, rfl, rfl⟩ := List.map_eq_append_iff.1 hes
      exact ⟨done, todo, rfl, fun a ha => by simp [List.mem_map_of_mem ha],
        fun a ha => by simp [List.mem_map_of_mem ha]⟩

/-- Where a list of parts is cut in front of an element, some part is cut there. -/
theorem split_flatMap {α β : Type} {f : α → List β} {x : β} {after : List β} :
    ∀ {l : List α} {before : List β}, l.flatMap f = before ++ x :: after →
      ∃ ls a rs p q, l = ls ++ a :: rs ∧ f a = p ++ x :: q ∧ before = ls.flatMap f ++ p
  | [], before, h => by simp at h
  | b :: l, before, h => by
    rw [List.flatMap_cons] at h
    rcases List.append_eq_append_iff.1 h with ⟨cs, rfl, hcs⟩ | ⟨cs, hcs, hrest⟩
    · obtain ⟨ls, a, rs, p, q, rfl, ha, rfl⟩ := split_flatMap hcs
      exact ⟨b :: ls, a, rs, p, q, rfl, ha, by simp⟩
    · cases cs with
      | nil =>
        have hrest' : l.flatMap f = [] ++ x :: after := hrest.symm
        obtain ⟨ls, a, rs, p, q, rfl, ha, hp⟩ := split_flatMap hrest'
        exact ⟨b :: ls, a, rs, p, q, rfl, ha, by simp [hcs, ← hp]⟩
      | cons c cs =>
        obtain ⟨rfl, -⟩ := List.cons.inj hrest
        exact ⟨[], b, l, before, cs, rfl, hcs, rfl⟩

/-- In front of each step, the changes of some tables are made and the first few of its own. -/
theorem split_diffSteps {diffs : List TableDiff} {before after : List (String × Change)}
    {table : String} {change : Change} (h : diffSteps diffs = before ++ (table, change) :: after) :
    ∃ ds changes rest more, diffs = ds ++ ⟨table, changes ++ change :: more⟩ :: rest ∧
      before = diffSteps ds ++ changes.map (table, ·) := by
  obtain ⟨ds, d, rest, p, q, rfl, hd, rfl⟩ := split_flatMap h
  obtain ⟨changes, tail, hchanges, rfl, htail⟩ := List.map_eq_append_iff.1 hd
  obtain ⟨c, more, rfl, hc, -⟩ := List.map_eq_cons_iff.1 htail
  obtain ⟨rfl, rfl⟩ := Prod.mk.inj hc
  exact ⟨ds, changes, rest, more, by rw [← hchanges], rfl⟩

/-! ## States of a run -/

variable {desired current : Schema}

/-- After the changes of some tables, these tables are final and all others untouched. -/
theorem execute_prefix {ds : List TableDiff} (h : ds <+: diff desired current) :
    ∃ s, execute current (diffSteps ds) = .ok s ∧ ∀ name,
      s.get? name =
        if name ∈ ds.map (·.table) then converged desired current name else current.get? name := by
  rw [execute_diffSteps]
  exact foldlM_keyed (fun r (d : TableDiff) => execute r d.steps) (·.table) Schema.get?
    (converged desired current) ((h.sublist.map _).nodup (diff_tables_nodup desired current))
    fun d hd r hr => execute_steps_settles (h.subset hd) hr

/-- After some changes of a table that is on both sides, this table is altered so far. -/
theorem execute_midway {ds : List TableDiff} {t u : Table} {changes : List Change}
    (hu : current.get? t.name = some u)
    (h : ds ++ [⟨t.name, diffTable t u⟩] <+: diff desired current)
    (hchanges : changes <+: diffTable t u) :
    ∃ s, execute current (diffSteps ds ++ changes.map (t.name, ·)) = .ok s ∧
      s.get? t.name = some (changes.foldl Change.edit u) ∧
      ∀ name, name ≠ t.name → s.get? name =
        if name ∈ ds.map (·.table) then converged desired current name else current.get? name := by
  have hnew : t.name ∉ ds.map (·.table) := by
    have hnodup := (h.sublist.map (·.table)).nodup (diff_tables_nodup desired current)
    rw [List.map_append, List.nodup_append] at hnodup
    exact fun hmem => hnodup.2.2 _ hmem _ (by simp) rfl
  obtain ⟨r, hr, hview⟩ := execute_prefix ((List.prefix_append _ _).trans h)
  obtain ⟨s, hs, hown, hother⟩ := execute_edits t.name (s := r)
    fun c (hc : c ∈ changes) => isEdit_of_mem_diffTable (hchanges.subset hc)
  refine ⟨s, ?_, ?_, fun name hn => ?_⟩
  · rw [execute_append, hr]
    exact hs
  · rw [hown, hview, if_neg hnew, hu]
    rfl
  · rw [hother name hn, hview]

/-- Once a table on both sides is altered, all additions and drops are done. -/
theorem passes_done {ds : List TableDiff} (h : ds <+: diff desired current) {t : Table}
    (ht : t ∈ desired.tables) (hu : current.get? t.name ≠ none) (hd : t.name ∈ ds.map (·.table)) :
    (∀ a ∈ addedTables desired current, addition a ∈ ds) ∧
      ∀ a ∈ droppedTables desired current, removal a ∈ ds := by
  obtain ⟨d, hd, hname⟩ := List.mem_map.1 hd
  obtain ⟨alterations, hpasses, -⟩ := diff_passes desired current
  rw [← List.append_assoc] at hpasses
  have hnot : d ∉ (addedTables desired current).map addition ++
      (droppedTables desired current).map removal := by
    rw [List.mem_append, List.mem_map, List.mem_map]
    rintro (⟨a, ha, rfl⟩ | ⟨a, ha, rfl⟩)
    · exact hu (hname ▸ (mem_addedTables.1 ha).2)
    · have hnone : desired.get? t.name = none := hname ▸ (mem_droppedTables.1 ha).2
      rw [Schema.get?_name ht] at hnone
      cases hnone
  have hdone : (addedTables desired current).map addition ++
      (droppedTables desired current).map removal <+: ds := by
    rcases List.prefix_or_prefix_of_prefix h (hpasses ▸ List.prefix_append _ alterations) with
      hshort | hlong
    · exact absurd (hshort.subset hd) hnot
    · exact hlong
  exact ⟨fun a ha => hdone.subset (by simp [List.mem_map_of_mem ha]),
    fun a ha => hdone.subset (by simp [List.mem_map_of_mem ha])⟩

theorem converged_added {t : Table} (h : t ∈ addedTables desired current) :
    converged desired current t.name = some t := by
  rw [converged, Schema.get?_name (mem_addedTables.1 h).1, (mem_addedTables.1 h).2]

theorem converged_dropped {u : Table} (h : u ∈ droppedTables desired current) :
    converged desired current u.name = none := by
  rw [converged, (mem_droppedTables.1 h).2]

theorem converged_altered {t u : Table} (ht : t ∈ desired.tables)
    (hu : current.get? t.name = some u) :
    converged desired current t.name = some ((diffTable t u).foldl Change.edit u) := by
  rw [converged, Schema.get?_name ht, hu]

/-- A schema in the middle of a run, in which the changes of some tables are begun. -/
structure Midway (desired current : Schema) (begun : List TableDiff) (s : Schema) : Prop where
  isPrefix : begun <+: diff desired current
  untouched : ∀ name, name ∉ begun.map (·.table) → s.get? name = current.get? name
  added : ∀ t ∈ addedTables desired current, t.name ∈ begun.map (·.table) →
    s.get? t.name = some t
  dropped : ∀ u ∈ droppedTables desired current, u.name ∈ begun.map (·.table) →
    s.get? u.name = none
  altered : ∀ t ∈ desired.tables, ∀ u, current.get? t.name = some u →
    t.name ∈ begun.map (·.table) → ∃ changes, changes <+: diffTable t u ∧
      s.get? t.name = some (changes.foldl Change.edit u)

theorem midway_of_prefix {ds : List TableDiff} (h : ds <+: diff desired current) :
    ∃ s, execute current (diffSteps ds) = .ok s ∧ Midway desired current ds s := by
  obtain ⟨s, hs, hview⟩ := execute_prefix h
  refine ⟨s, hs, h, fun name hn => ?_, fun t ht hn => ?_, fun u hu hn => ?_, fun t ht u hu hn => ?_⟩
  · rw [hview, if_neg hn]
  · rw [hview, if_pos hn, converged_added ht]
  · rw [hview, if_pos hn, converged_dropped hu]
  · exact ⟨_, List.prefix_refl _, by rw [hview, if_pos hn, converged_altered ht hu]⟩

theorem midway_of_changes {ds : List TableDiff} {t u : Table} {changes : List Change}
    (ht : t ∈ desired.tables) (hu : current.get? t.name = some u)
    (h : ds ++ [⟨t.name, diffTable t u⟩] <+: diff desired current)
    (hchanges : changes <+: diffTable t u) :
    ∃ s, execute current (diffSteps ds ++ changes.map (t.name, ·)) = .ok s ∧
      Midway desired current (ds ++ [⟨t.name, diffTable t u⟩]) s ∧
      s.get? t.name = some (changes.foldl Change.edit u) := by
  obtain ⟨s, hs, hown, hother⟩ := execute_midway hu h hchanges
  have hmem : ∀ name, name ∈ (ds ++ [(⟨t.name, diffTable t u⟩ : TableDiff)]).map (·.table) ↔
      name ∈ ds.map (·.table) ∨ name = t.name := by
    simp
  refine ⟨s, hs, ⟨h, fun name hn => ?_, fun a ha hn => ?_, fun a ha hn => ?_,
    fun v hv w hw hn => ?_⟩, hown⟩
  · rw [hmem, not_or] at hn
    rw [hother name hn.2, if_neg hn.1]
  · have hne : a.name ≠ t.name := by
      intro he
      rw [← he, (mem_addedTables.1 ha).2] at hu
      cases hu
    rw [hother _ hne, if_pos (((hmem _).1 hn).resolve_right hne), converged_added ha]
  · have hne : a.name ≠ t.name := by
      intro he
      have hnone := (mem_droppedTables.1 ha).2
      rw [he, Schema.get?_name ht] at hnone
      cases hnone
    rw [hother _ hne, if_pos (((hmem _).1 hn).resolve_right hne), converged_dropped ha]
  · by_cases he : v.name = t.name
    · obtain rfl := table_eq_of_name_eq hv ht he
      rw [hu, Option.some.injEq] at hw
      exact ⟨changes, hw ▸ hchanges, by rw [hown, hw]⟩
    · refine ⟨_, List.prefix_refl _, ?_⟩
      rw [hother _ he, if_pos (((hmem _).1 hn).resolve_right he), converged_altered hv hw]

/-- **Every part of a run succeeds**, and leads to a schema in the middle of the run. -/
theorem execute_part {before : List (String × Change)}
    (h : before <+: diffSteps (diff desired current)) :
    ∃ s begun, execute current before = .ok s ∧ Midway desired current begun s := by
  obtain ⟨after, hafter⟩ := h
  cases after with
  | nil =>
    rw [List.append_nil] at hafter
    subst hafter
    obtain ⟨s, hs, hmid⟩ := midway_of_prefix (List.prefix_refl (diff desired current))
    exact ⟨s, _, hs, hmid⟩
  | cons step after =>
    obtain ⟨table, change⟩ := step
    obtain ⟨ds, changes, rest, more, hdiff, rfl⟩ := split_diffSteps hafter.symm
    have hds : ds ++ [⟨table, changes ++ change :: more⟩] <+: diff desired current :=
      ⟨rest, by simp [hdiff]⟩
    -- A table that is added or dropped has one change, so none of its changes is made yet.
    have hsingle : ∀ c : Change, changes ++ change :: more = [c] →
        ∃ s begun, execute current (diffSteps ds ++ changes.map (table, ·)) = .ok s ∧
          Midway desired current begun s := by
      intro c hc
      obtain ⟨s, hs, hmid⟩ := midway_of_prefix ((List.prefix_append _ _).trans hds)
      cases changes with
      | nil => exact ⟨s, ds, by simpa using hs, hmid⟩
      | cons b bs => simp at hc
    rcases mem_diff.1 (hds.subset (List.mem_append_right _ (List.mem_singleton_self _))) with
      ⟨t, -, -, he⟩ | ⟨u, -, -, he⟩ | ⟨t, ht, u, hu, -, he⟩
    · exact hsingle _ (congrArg TableDiff.changes he)
    · exact hsingle _ (congrArg TableDiff.changes he)
    · obtain ⟨rfl, hchanges⟩ := TableDiff.mk.inj he
      rw [hchanges] at hds
      obtain ⟨s, hs, hmid, -⟩ := midway_of_changes ht hu hds ⟨_, hchanges⟩
      exact ⟨s, _, hs, hmid⟩

/-! ## Where a foreign key is added -/

theorem split_right_of_notMem {α : Type} {l m before after : List α} {x : α}
    (h : l ++ m = before ++ x :: after) (hx : x ∉ l) :
    ∃ middle, before = l ++ middle ∧ m = middle ++ x :: after := by
  rcases List.append_eq_append_iff.1 h with ⟨cs, rfl, hm⟩ | ⟨cs, rfl, hm⟩
  · exact ⟨cs, rfl, hm⟩
  · cases cs with
    | nil => exact ⟨[], by simp, hm.symm⟩
    | cons c cs =>
      obtain ⟨rfl, -⟩ := List.cons.inj hm
      simp at hx

theorem split_left_of_notMem {α : Type} {l m before after : List α} {x : α}
    (h : l ++ m = before ++ x :: after) (hx : x ∉ m) :
    ∃ middle, l = before ++ x :: middle := by
  rcases List.append_eq_append_iff.1 h with ⟨cs, -, hm⟩ | ⟨cs, rfl, hm⟩
  · simp [hm] at hx
  · cases cs with
    | nil =>
      rw [List.nil_append] at hm
      exact absurd (hm ▸ List.mem_cons_self) hx
    | cons c cs =>
      obtain ⟨rfl, -⟩ := List.cons.inj hm
      exact ⟨cs, rfl⟩

/-- The foreign keys to add to a table, in the order in which they are added. -/
def addedKeys (desired current : List ForeignKey) : List ForeignKey :=
  desired.filter fun fk => !current.any (·.sameTarget fk)

/-- All changes of columns, and the keys listed earlier, come before a key is added. -/
theorem split_diffTable {t u : Table} {changes more : List Change} {fk : ForeignKey}
    (h : diffTable t u = changes ++ .addForeignKey fk :: more) :
    ∃ earlier later, addedKeys t.foreignKeys u.foreignKeys = earlier ++ fk :: later ∧
      changes = diffColumns t.columns u.columns ++ earlier.map .addForeignKey := by
  have hcolumns : Change.addForeignKey fk ∉ diffColumns t.columns u.columns := by
    simp [mem_diffColumns]
  obtain ⟨middle, rfl, hkeys⟩ := split_right_of_notMem h hcolumns
  obtain ⟨tail, hadded⟩ := split_left_of_notMem hkeys (by simp)
  obtain ⟨earlier, rest, hsplit, rfl, hrest⟩ := List.map_eq_append_iff.1 hadded
  obtain ⟨k, later, rfl, hk, -⟩ := List.map_eq_cons_iff.1 hrest
  cases hk
  exact ⟨earlier, later, hsplit, rfl⟩

theorem foldl_columns_then_keys {t u : Table} (keys : List ForeignKey) :
    let v := (diffColumns t.columns u.columns ++ keys.map Change.addForeignKey).foldl Change.edit u
    v.columns = (diffColumns t.columns u.columns).foldl Change.editColumns u.columns ∧
      v.foreignKeys = u.foreignKeys ++ keys := by
  intro v
  rw [foldl_edit_columns, foldl_edit_foreignKeys, List.foldl_append, List.foldl_append,
    foldl_addForeignKey]
  refine ⟨foldl_eq_self fun change hch r => ?_,
    congrArg (· ++ keys) (foldl_eq_self fun change hch r => ?_)⟩
  · obtain ⟨fk, -, rfl⟩ := List.mem_map.1 hch
    rfl
  · rcases mem_diffColumns.1 hch with ⟨_, _, _, rfl⟩ | ⟨_, _, _, rfl⟩ | ⟨_, _, _, _, _, rfl⟩ <;> rfl

/-- **The table that a foreign key is added to**: its columns are altered, and it holds its old
keys and those that were added earlier. -/
theorem execute_before_addForeignKey {before after : List (String × Change)} {table : String}
    {fk : ForeignKey}
    (h : diffSteps (diff desired current) = before ++ (table, .addForeignKey fk) :: after) :
    ∃ t ∈ desired.tables, t.name = table ∧ ∃ u, current.get? table = some u ∧
      ∃ earlier later, addedKeys t.foreignKeys u.foreignKeys = earlier ++ fk :: later ∧
      ∃ begun s v, execute current before = .ok s ∧ Midway desired current begun s ∧
        table ∈ begun.map (·.table) ∧ s.get? table = some v ∧
        v.columns = (diffColumns t.columns u.columns).foldl Change.editColumns u.columns ∧
        v.foreignKeys = u.foreignKeys ++ earlier := by
  obtain ⟨ds, changes, rest, more, hdiff, rfl⟩ := split_diffSteps h
  have hd : ⟨table, changes ++ .addForeignKey fk :: more⟩ ∈ diff desired current := by
    rw [hdiff]
    simp
  have hmem : ∀ l, changes ++ .addForeignKey fk :: more = l → .addForeignKey fk ∈ l := by
    rintro l rfl
    simp
  rcases mem_diff.1 hd with ⟨t, -, -, he⟩ | ⟨u, -, -, he⟩ | ⟨t, ht, u, hu, -, he⟩
  · simpa using hmem _ (congrArg TableDiff.changes he)
  · simpa using hmem _ (congrArg TableDiff.changes he)
  · obtain ⟨rfl, hchanges⟩ := TableDiff.mk.inj he
    obtain ⟨earlier, later, hkeys, rfl⟩ := split_diffTable hchanges.symm
    rw [hchanges] at hdiff
    have hds : ds ++ [⟨t.name, diffTable t u⟩] <+: diff desired current := ⟨rest, by simp [hdiff]⟩
    obtain ⟨s, hs, hmid, hown⟩ := midway_of_changes ht hu hds ⟨_, hchanges⟩
    obtain ⟨hcolumns, hforeign⟩ := foldl_columns_then_keys (t := t) (u := u) earlier
    exact ⟨t, ht, rfl, u, hu, earlier, later, hkeys, _, s, _, hs, hmid, by simp, hown, hcolumns,
      hforeign⟩

end SchemaSync
