/-
Foreign keys in the course of a run.

A schema is closed when every foreign key stands on a column of its table and
refers to a table of the schema. Between two closed schemas a run starts
closed and ends closed. In between it stays closed exactly when the order of
the passes suits the references (`run_closed_iff`): additions come in desired
order, then drops in current order, then the other tables, whose columns are
altered before their foreign keys.
-/
import SchemaSync.Proofs.Change.Alteration

namespace SchemaSync

/-- Every foreign key stands on a column of its table and refers to a table of the schema. -/
def Schema.Closed (s : Schema) : Prop :=
  ∀ t ∈ s.tables, ∀ fk ∈ t.foreignKeys,
    fk.column ∈ t.columns.map (·.name) ∧ s.contains fk.referencesTable = true

instance (s : Schema) : Decidable s.Closed :=
  inferInstanceAs (Decidable (∀ t ∈ s.tables, ∀ fk ∈ t.foreignKeys,
    fk.column ∈ t.columns.map (·.name) ∧ s.contains fk.referencesTable = true))

/-- The order of the passes suits the references of two schemas. -/
structure SuitsReferences (desired current : Schema) : Prop where
  /-- No added table refers to one that is added after it. -/
  additions : (addedTables desired current).Pairwise fun t later =>
    ∀ fk ∈ t.foreignKeys, fk.referencesTable ≠ later.name
  /-- No dropped table is referred to by one that is dropped after it. -/
  drops : (droppedTables desired current).Pairwise fun u later =>
    ∀ fk ∈ later.foreignKeys, fk.referencesTable ≠ u.name
  /-- A table that stays does not refer to one that is dropped. -/
  tables : ∀ u ∈ current.tables, desired.contains u.name = true →
    ∀ fk ∈ u.foreignKeys, desired.contains fk.referencesTable = true
  /-- A foreign key of a table that stays does not stand on a column that is dropped. -/
  columns : ∀ t ∈ desired.tables, ∀ u, current.get? t.name = some u →
    ∀ fk ∈ u.foreignKeys, fk.column ∈ t.columns.map (·.name)

/-! ## Look-ups -/

namespace Schema

theorem contains_iff {s : Schema} {name : String} :
    s.contains name = true ↔ ∃ t, s.get? name = some t := by
  rw [← Bool.not_eq_false, contains_eq_false_iff, ← get?_eq_none_iff, ← ne_eq,
    Option.ne_none_iff_exists']

theorem contains_iff_mem {s : Schema} {name : String} :
    s.contains name = true ↔ ∃ t ∈ s.tables, t.name = name := by
  simp [contains]

theorem contains_of_get? {s : Schema} {name : String} {t : Table} (h : s.get? name = some t) :
    s.contains name = true :=
  contains_iff.2 ⟨t, h⟩

theorem closed_iff {s : Schema} :
    s.Closed ↔ ∀ name t, s.get? name = some t → ∀ fk ∈ t.foreignKeys,
      fk.column ∈ t.columns.map (·.name) ∧ s.contains fk.referencesTable = true :=
  ⟨fun h _ t ht => h t (get?_eq_some_iff.1 ht).1, fun h t ht => h t.name t (get?_name ht)⟩

end Schema

/-! ## Sufficiency -/

section

variable {desired current s : Schema} {begun : List TableDiff}

/-- A table whose changes are still to come is not among those begun. -/
theorem table_notMem_of_rest {ds rest : List TableDiff} (h : diff desired current = ds ++ rest)
    {d : TableDiff} (hd : d ∈ rest) : d.table ∉ ds.map (·.table) := by
  have hnodup := diff_tables_nodup desired current
  rw [h, List.map_append, List.nodup_append] at hnodup
  exact fun hmem => hnodup.2.2 _ hmem _ (List.mem_map_of_mem hd) rfl

namespace Midway

/-- A desired table is there when it was there before or its changes are begun. -/
theorem contains_of_desired (hmid : Midway desired current begun s) {name : String}
    (hd : desired.contains name = true)
    (h : current.contains name = true ∨ name ∈ begun.map (·.table)) : s.contains name = true := by
  obtain ⟨t, ht, rfl⟩ := Schema.contains_iff_mem.1 hd
  by_cases hb : t.name ∈ begun.map (·.table)
  · cases hu : current.get? t.name with
    | none => exact Schema.contains_of_get? (hmid.added t (mem_addedTables.2 ⟨ht, hu⟩) hb)
    | some u =>
      obtain ⟨changes, -, hget⟩ := hmid.altered t ht u hu hb
      exact Schema.contains_of_get? hget
  · rw [Schema.contains_iff, hmid.untouched _ hb, ← Schema.contains_iff]
    exact h.resolve_right hb

theorem contains_of_passes_done (hmid : Midway desired current begun s) {t : Table}
    (ht : t ∈ desired.tables) (hu : current.get? t.name ≠ none)
    (hb : t.name ∈ begun.map (·.table)) {name : String} (hd : desired.contains name = true) :
    s.contains name = true := by
  refine hmid.contains_of_desired hd ?_
  obtain ⟨a, ha, rfl⟩ := Schema.contains_iff_mem.1 hd
  cases hc : current.get? a.name with
  | none =>
    have hdone := (passes_done hmid.isPrefix ht hu hb).1 a (mem_addedTables.2 ⟨ha, hc⟩)
    exact .inr (List.mem_map_of_mem hdone)
  | some v => exact .inl (Schema.contains_of_get? hc)

/-- Of two tables of one pass, that whose changes are begun comes first. -/
theorem pairwise_begun (hmid : Midway desired current begun s) {pass : List Table}
    {f : Table → TableDiff} (hf : ∀ t, (f t).table = t.name) {before after : List TableDiff}
    (hpass : diff desired current = before ++ (pass.map f ++ after)) {R : Table → Table → Prop}
    (hR : pass.Pairwise R) {t later : Table} (ht : t ∈ pass) (hlater : later ∈ pass)
    (htb : t.name ∈ begun.map (·.table)) (hlb : later.name ∉ begun.map (·.table)) :
    R t later := by
  obtain ⟨rest, hrest⟩ := hmid.isPrefix
  obtain ⟨done, todo, rfl, hdone, htodo⟩ := exists_split_of_append_eq (hrest.trans hpass)
  have htdone : t ∈ done := by
    refine (List.mem_append.1 ht).resolve_right fun h => ?_
    exact table_notMem_of_rest hrest.symm (htodo t h) ((hf t).symm ▸ htb)
  have hltodo : later ∈ todo := by
    refine (List.mem_append.1 hlater).resolve_left fun h => hlb ?_
    exact hf later ▸ List.mem_map_of_mem (hdone later h)
  exact (List.pairwise_append.1 hR).2.2 t htdone later hltodo

/-- The three ways in which a table is there in the middle of a run. -/
theorem get?_cases (hmid : Midway desired current begun s) {name : String} {v : Table}
    (hv : s.get? name = some v) :
    (name ∉ begun.map (·.table) ∧ current.get? name = some v) ∨
      (name ∈ begun.map (·.table) ∧ v ∈ addedTables desired current ∧ v.name = name) ∨
      ∃ t ∈ desired.tables, t.name = name ∧ name ∈ begun.map (·.table) ∧
        ∃ u, current.get? t.name = some u ∧ ∃ changes, changes <+: diffTable t u ∧
          v = changes.foldl Change.edit u := by
  by_cases hb : name ∈ begun.map (·.table)
  · obtain ⟨d, hd, rfl⟩ := List.mem_map.1 hb
    rcases mem_diff.1 (hmid.isPrefix.subset hd) with
      ⟨t, ht, hno, rfl⟩ | ⟨u, hu, hno, rfl⟩ | ⟨t, ht, u, hu, -, rfl⟩
    · have hadded := mem_addedTables.2 ⟨ht, hno⟩
      obtain rfl := Option.some.inj ((hmid.added t hadded hb).symm.trans hv)
      exact .inr (.inl ⟨hb, hadded, rfl⟩)
    · rw [hmid.dropped u (mem_droppedTables.2 ⟨hu, hno⟩) hb] at hv
      cases hv
    · obtain ⟨changes, hchanges, hget⟩ := hmid.altered t ht u hu hb
      obtain rfl := Option.some.inj (hget.symm.trans hv)
      exact .inr (.inr ⟨t, ht, rfl, hb, u, hu, changes, hchanges, rfl⟩)
  · exact .inl ⟨hb, hmid.untouched name hb ▸ hv⟩

/-- What an untouched table refers to is still there. -/
theorem contains_of_untouched (hmid : Midway desired current begun s) (hc : current.Closed)
    (h : SuitsReferences desired current) {u : Table} (hu : u ∈ current.tables)
    (hb : u.name ∉ begun.map (·.table)) {fk : ForeignKey} (hfk : fk ∈ u.foreignKeys) :
    s.contains fk.referencesTable = true := by
  have href := (hc u hu fk hfk).2
  cases hd : desired.contains fk.referencesTable with
  | true => exact hmid.contains_of_desired hd (.inl href)
  | false =>
    obtain ⟨w, hw, hname⟩ := Schema.contains_iff_mem.1 href
    have hdropped : ∀ {a : Table}, a ∈ current.tables → desired.contains a.name = false →
        a ∈ droppedTables desired current := fun ha hno =>
      mem_droppedTables.2 ⟨ha, Schema.get?_eq_none_iff.2 (Schema.contains_eq_false_iff.1 hno)⟩
    have hstays : desired.contains u.name = false := by
      rw [← Bool.not_eq_true]
      intro hyes
      rw [h.tables u hu hyes fk hfk] at hd
      cases hd
    obtain ⟨alterations, hpasses, -⟩ := diff_passes desired current
    -- The table referred to is dropped too, and not before this one.
    have hwb : w.name ∉ begun.map (·.table) := fun hwb =>
      hmid.pairwise_begun (fun _ => rfl) hpasses h.drops
        (hdropped hw (hname ▸ hd)) (hdropped hu hstays) hwb hb fk hfk hname.symm
    rw [Schema.contains_iff, ← hname, hmid.untouched _ hwb]
    exact ⟨w, Schema.get?_name hw⟩

/-- What an added table refers to is already there. -/
theorem contains_of_added (hmid : Midway desired current begun s) (hd : desired.Closed)
    (h : SuitsReferences desired current) {t : Table} (ht : t ∈ addedTables desired current)
    (hb : t.name ∈ begun.map (·.table)) {fk : ForeignKey} (hfk : fk ∈ t.foreignKeys) :
    s.contains fk.referencesTable = true := by
  have href := (hd t (mem_addedTables.1 ht).1 fk hfk).2
  refine hmid.contains_of_desired href ?_
  by_contra hno
  rw [not_or, Bool.not_eq_true, Schema.contains_eq_false_iff, ← Schema.get?_eq_none_iff] at hno
  obtain ⟨w, hw, hname⟩ := Schema.contains_iff_mem.1 href
  rw [← hname] at hno
  obtain ⟨alterations, hpasses, -⟩ := diff_passes desired current
  have hfirst : diff desired current = [] ++ ((addedTables desired current).map addition ++
      ((droppedTables desired current).map removal ++ alterations)) := hpasses
  exact hmid.pairwise_begun (fun _ => rfl) hfirst h.additions ht
    (mem_addedTables.2 ⟨hw, hno.1⟩) hb hno.2 fk hfk hname.symm

theorem closed (hmid : Midway desired current begun s) (hd : desired.Closed)
    (hc : current.Closed) (h : SuitsReferences desired current) : s.Closed := by
  rw [Schema.closed_iff]
  intro name v hv fk hfk
  -- An untouched table, an added one, or one on both sides that is altered so far.
  rcases hmid.get?_cases hv with
    ⟨hb, hu⟩ | ⟨hb, ht, rfl⟩ | ⟨t, ht, rfl, hb, u, hu, changes, hch, rfl⟩
  · obtain ⟨humem, rfl⟩ := Schema.get?_eq_some_iff.1 hu
    exact ⟨(hc v humem fk hfk).1, hmid.contains_of_untouched hc h humem hb hfk⟩
  · exact ⟨(hd v (mem_addedTables.1 ht).1 fk hfk).1, hmid.contains_of_added hd h ht hb hfk⟩
  · obtain ⟨humem, huname⟩ := Schema.get?_eq_some_iff.1 hu
    refine ⟨column_mem_foldl_edit hch hfk
      (fun hold => ⟨(hc u humem fk hold).1, h.columns t ht u hu fk hold⟩)
      (fun hnew => (hd t ht fk hnew).1), ?_⟩
    have href : desired.contains fk.referencesTable = true := by
      rcases ((mem_foreignKeys_foldl_edit hch.subset).1 hfk).1 with hold | hnew
      · exact h.tables u humem (huname ▸ Schema.contains_of_get? (Schema.get?_name ht)) fk hold
      · exact (hd t ht fk (addForeignKey_mem_diffTable.1 (hch.subset hnew)).1).2
    exact hmid.contains_of_passes_done ht (by simp [hu]) hb href

end Midway

end

/-! ## Necessity -/

/-- Every state of a run is closed, the first and the last included. -/
def StaysClosed (s : Schema) (steps : List (String × Change)) : Prop :=
  ∀ before, before <+: steps → ∃ r, execute s before = .ok r ∧ r.Closed

/-- A relation holds pairwise when at each cut it holds between the element and those behind. -/
theorem pairwise_of_cuts {α : Type} {R : α → α → Prop} : ∀ {l : List α},
    (∀ first a rest, l = first ++ a :: rest → ∀ b ∈ rest, R a b) → l.Pairwise R
  | [], _ => .nil
  | a :: l, h => .cons (h [] a l rfl) <| pairwise_of_cuts fun first b rest hl =>
      h (a :: first) b rest (by rw [hl, List.cons_append])

section

variable {desired current : Schema}

theorem StaysClosed.at_prefix (h : StaysClosed current (diffSteps (diff desired current)))
    {ds : List TableDiff} (hds : ds <+: diff desired current) :
    ∃ s, Midway desired current ds s ∧ s.Closed := by
  obtain ⟨s, hs, hmid⟩ := midway_of_prefix hds
  obtain ⟨rest, hrest⟩ := hds
  have hpart : diffSteps ds <+: diffSteps (diff desired current) :=
    ⟨diffSteps rest, by rw [← hrest, diffSteps, diffSteps, diffSteps, List.flatMap_append]⟩
  obtain ⟨r, hr, hclosed⟩ := h (diffSteps ds) hpart
  obtain rfl := Except.ok.inj (hr.symm.trans hs)
  exact ⟨r, hmid, hclosed⟩

/-- Right after a table is added, those that are added later are not there. -/
theorem StaysClosed.additions (h : StaysClosed current (diffSteps (diff desired current))) :
    (addedTables desired current).Pairwise fun t later =>
      ∀ fk ∈ t.foreignKeys, fk.referencesTable ≠ later.name := by
  refine pairwise_of_cuts fun first t rest hcut later hlater fk hfk href => ?_
  obtain ⟨alterations, hpasses, -⟩ := diff_passes desired current
  have hsplit : diff desired current = (first ++ [t]).map addition ++
      (rest.map addition ++ ((droppedTables desired current).map removal ++ alterations)) := by
    simp [hpasses, hcut]
  obtain ⟨s, hmid, hclosed⟩ := h.at_prefix (hsplit ▸ List.prefix_append _ _)
  have hmem : ∀ a ∈ first ++ t :: rest, a ∈ addedTables desired current := by simp [hcut]
  have hget := hmid.added t (hmem t (by simp)) (by simp [addition])
  have hthere := (Schema.closed_iff.1 hclosed _ _ hget fk hfk).2
  have hlb : later.name ∉ ((first ++ [t]).map addition).map (·.table) :=
    table_notMem_of_rest hsplit (List.mem_append_left _ (List.mem_map_of_mem hlater))
  rw [href, Schema.contains_iff, hmid.untouched _ hlb,
    (mem_addedTables.1 (hmem later (by simp [hlater]))).2] at hthere
  simp at hthere

/-- Right after a table is dropped, those that are dropped later are still there. -/
theorem StaysClosed.drops (h : StaysClosed current (diffSteps (diff desired current))) :
    (droppedTables desired current).Pairwise fun u later =>
      ∀ fk ∈ later.foreignKeys, fk.referencesTable ≠ u.name := by
  refine pairwise_of_cuts fun first u rest hcut later hlater fk hfk href => ?_
  obtain ⟨alterations, hpasses, -⟩ := diff_passes desired current
  have hsplit : diff desired current =
      ((addedTables desired current).map addition ++ (first ++ [u]).map removal) ++
        (rest.map removal ++ alterations) := by
    simp [hpasses, hcut]
  obtain ⟨s, hmid, hclosed⟩ := h.at_prefix (hsplit ▸ List.prefix_append _ _)
  have hmem : ∀ a ∈ first ++ u :: rest, a ∈ droppedTables desired current := by simp [hcut]
  have hlb : later.name ∉ ((addedTables desired current).map addition ++
      (first ++ [u]).map removal).map (·.table) :=
    table_notMem_of_rest hsplit (List.mem_append_left _ (List.mem_map_of_mem hlater))
  have hget : s.get? later.name = some later := by
    rw [hmid.untouched _ hlb]
    exact Schema.get?_name (mem_droppedTables.1 (hmem later (by simp [hlater]))).1
  have hthere := (Schema.closed_iff.1 hclosed _ _ hget fk hfk).2
  rw [href, Schema.contains_iff, hmid.dropped u (hmem u (by simp)) (by simp [removal])] at hthere
  simp at hthere

/-- Right before the tables on both sides are altered, all drops are done. -/
theorem StaysClosed.tables (h : StaysClosed current (diffSteps (diff desired current)))
    (hc : current.Closed) {u : Table} (hu : u ∈ current.tables)
    (hstays : desired.contains u.name = true) {fk : ForeignKey} (hfk : fk ∈ u.foreignKeys) :
    desired.contains fk.referencesTable = true := by
  by_contra hno
  rw [Bool.not_eq_true, Schema.contains_eq_false_iff, ← Schema.get?_eq_none_iff] at hno
  obtain ⟨w, hw, hname⟩ := Schema.contains_iff_mem.1 (hc u hu fk hfk).2
  rw [← hname] at hno
  have hdropped := mem_droppedTables.2 ⟨hw, hno⟩
  obtain ⟨alterations, hpasses, -⟩ := diff_passes desired current
  rw [← List.append_assoc] at hpasses
  obtain ⟨s, hmid, hclosed⟩ := h.at_prefix (hpasses ▸ List.prefix_append _ _)
  have hub : u.name ∉ ((addedTables desired current).map addition ++
      (droppedTables desired current).map removal).map (·.table) := by
    simp only [List.map_append, List.map_map, List.mem_append, List.mem_map, not_or, not_exists,
      not_and, Function.comp_apply]
    refine ⟨fun a ha he => ?_, fun a ha he => ?_⟩
    · have hnone : current.get? u.name = none := he ▸ (mem_addedTables.1 ha).2
      rw [Schema.get?_name hu] at hnone
      cases hnone
    · have hnone : desired.get? u.name = none := he ▸ (mem_droppedTables.1 ha).2
      rw [Schema.contains_iff, hnone] at hstays
      simp at hstays
  have hget : s.get? u.name = some u := by
    rw [hmid.untouched _ hub, Schema.get?_name hu]
  have hthere := (Schema.closed_iff.1 hclosed _ _ hget fk hfk).2
  have hwb : w.name ∈ ((addedTables desired current).map addition ++
      (droppedTables desired current).map removal).map (·.table) := by
    rw [List.map_append, List.mem_append]
    exact .inr (List.mem_map_of_mem (List.mem_map_of_mem hdropped))
  rw [← hname, Schema.contains_iff, hmid.dropped w hdropped hwb] at hthere
  simp at hthere

/-- Right after the columns of a table are altered, its old foreign keys are still there. -/
theorem StaysClosed.columns (h : StaysClosed current (diffSteps (diff desired current)))
    (hc : current.Closed) {t u : Table} (ht : t ∈ desired.tables)
    (hu : current.get? t.name = some u) {fk : ForeignKey} (hfk : fk ∈ u.foreignKeys) :
    fk.column ∈ t.columns.map (·.name) := by
  by_contra hno
  have hold := (hc u (Schema.get?_eq_some_iff.1 hu).1 fk hfk).1
  have hdrop : .dropColumn fk.column ∈ diffColumns t.columns u.columns := by
    obtain ⟨e, he, hename⟩ := List.mem_map.1 hold
    rw [← hename] at hno ⊢
    exact mem_diffColumns.2 (.inr (.inl ⟨e, he, columnNamed?_eq_none_iff.2 hno, rfl⟩))
  have hcolumns : diffColumns t.columns u.columns <+: diffTable t u := List.prefix_append _ _
  have hd : ⟨t.name, diffTable t u⟩ ∈ diff desired current :=
    mem_diff.2 (.inr (.inr ⟨t, ht, u, hu, List.ne_nil_of_mem (hcolumns.subset hdrop), rfl⟩))
  obtain ⟨ds, rest, hsplit⟩ := List.append_of_mem hd
  have hds : ds ++ [⟨t.name, diffTable t u⟩] <+: diff desired current := ⟨rest, by simp [hsplit]⟩
  obtain ⟨s, hs, -, hget⟩ := midway_of_changes ht hu hds hcolumns
  have hpart : diffSteps ds ++ (diffColumns t.columns u.columns).map (t.name, ·) <+:
      diffSteps (diff desired current) := by
    rw [hsplit, diffSteps, diffSteps, List.flatMap_append, List.flatMap_cons]
    refine (List.prefix_append_right_inj _).2 ?_
    exact (hcolumns.map _).trans (List.prefix_append _ _)
  obtain ⟨r, hr, hclosed⟩ := h _ hpart
  obtain rfl := Except.ok.inj (hr.symm.trans hs)
  have hkept := (mem_foreignKeys_foldl_edit hcolumns.subset).2
    ⟨.inl hfk, fun hmem => by simp [mem_diffColumns] at hmem⟩
  have hthere := (Schema.closed_iff.1 hclosed _ _ hget fk hkept).1
  exact ((name_mem_foldl_edit hcolumns.subset).1 hthere).2 hdrop

end

/-! ## The main statement -/

section

variable {desired current s : Schema}

theorem closed_of_converged (hd : desired.Closed)
    (hs : ∀ name, s.get? name = converged desired current name) : s.Closed := by
  have hcontains : ∀ {name}, desired.contains name = true → s.contains name = true := by
    intro name h
    obtain ⟨t, ht⟩ := Schema.contains_iff.1 h
    rw [Schema.contains_iff, hs, converged, ht]
    cases current.get? name <;> simp
  rw [Schema.closed_iff]
  intro name v hv fk hfk
  rw [hs, converged] at hv
  cases ht : desired.get? name with
  | none => simp [ht] at hv
  | some t =>
    have hfits := Schema.closed_iff.1 hd name t ht
    cases hu : current.get? name with
    | none =>
      simp only [ht, hu, Option.some.injEq] at hv
      subst hv
      exact ⟨(hfits fk hfk).1, hcontains (hfits fk hfk).2⟩
    | some u =>
      simp only [ht, hu, Option.some.injEq] at hv
      subst hv
      obtain ⟨k, hk, htarget⟩ := exists_desired_of_mem_foldl_edit hfk
      obtain ⟨hcolumn, href, -, -⟩ := sameTarget_iff.1 htarget
      have hwanted := hfits k hk
      rw [hcolumn, href] at hwanted
      exact ⟨name_mem_of_columns_altered (List.Subset.refl _) (List.subset_append_left _ _)
        hwanted.1, hcontains hwanted.2⟩

end

/-- **What a run between two closed schemas keeps closed.** It ends in a closed schema, and each
foreign key that it adds finds its column and the table that it refers to. Every state on the way
is closed exactly when the order of the passes suits the references. -/
theorem run_closed_iff (desired current : Schema) (hd : desired.Closed) (hc : current.Closed) :
    (∃ s, execute current (diffSteps (diff desired current)) = .ok s ∧ s.Closed) ∧
    (∀ before table fk after,
      diffSteps (diff desired current) = before ++ (table, .addForeignKey fk) :: after →
        ∃ s t, execute current before = .ok s ∧ s.get? table = some t ∧
          fk.column ∈ t.columns.map (·.name) ∧ s.contains fk.referencesTable = true) ∧
    (StaysClosed current (diffSteps (diff desired current)) ↔ SuitsReferences desired current) := by
  refine ⟨?last, ?keys, ?necessary, ?sufficient⟩
  case last =>
    obtain ⟨s, hs, hview⟩ := execute_diff desired current
    exact ⟨s, hs, closed_of_converged hd hview⟩
  case keys =>
    intro before table fk after hsplit
    obtain ⟨t, ht, rfl, u, hu, earlier, later, hadded, begun, s, v, hs, hmid, hb, hv, hcolumns,
      -⟩ := execute_before_addForeignKey hsplit
    have hfk : fk ∈ t.foreignKeys :=
      (List.mem_filter.1 (hadded ▸ List.mem_append_right earlier List.mem_cons_self)).1
    refine ⟨s, v, hs, hv, ?_, hmid.contains_of_passes_done ht (by simp [hu]) hb (hd t ht fk hfk).2⟩
    rw [hcolumns, ← foldl_edit_columns]
    exact name_mem_of_columns_altered (List.subset_append_left _ _) (List.Subset.refl _)
      (hd t ht fk hfk).1
  case necessary =>
    exact fun h => ⟨h.additions, h.drops, fun u hu hstays fk hfk => h.tables hc hu hstays hfk,
      fun t ht u hu fk hfk => h.columns hc ht hu hfk⟩
  case sufficient =>
    intro h before hbefore
    obtain ⟨s, begun, hs, hmid⟩ := execute_part hbefore
    exact ⟨s, hs, hmid.closed hd hc h⟩

theorem run_closed_iff_blog :
    blogSchema.Closed ∧ olderBlogSchema.Closed ∧ Schema.empty.Closed ∧
      (∃ s, execute olderBlogSchema (diffSteps (diff blogSchema olderBlogSchema)) = .ok s ∧
        s.Closed) ∧
      StaysClosed .empty (diffSteps (diff blogSchema .empty)) := by
  have hblog : blogSchema.Closed := by decide
  have holder : olderBlogSchema.Closed := by decide
  have hempty : Schema.empty.Closed := by decide
  have hsuits : SuitsReferences blogSchema .empty :=
    ⟨by decide, by decide, by simp [Schema.empty], by simp [Schema.empty, Schema.get?]⟩
  exact ⟨hblog, holder, hempty, (run_closed_iff _ _ hblog holder).1,
    (run_closed_iff _ _ hblog hempty).2.2.2 hsuits⟩

/-- `blogSchema` with its posts first, which `diff` takes for the order to add the tables in. -/
def postsFirstSchema : Schema :=
  ⟨blogSchema.tables.reverse, by decide⟩

/-- Posts are added with a foreign key to the authors, which are still to come. -/
theorem not_staysClosed_postsFirst :
    postsFirstSchema.Closed ∧ Schema.empty.Closed ∧
      ¬ StaysClosed .empty (diffSteps (diff postsFirstSchema .empty)) := by
  refine ⟨by decide, by decide, fun h => ?_⟩
  obtain ⟨r, hr, hclosed⟩ := h ((diffSteps (diff postsFirstSchema .empty)).take 1)
    ⟨_, List.take_append_drop 1 _⟩
  cases hr
  revert hclosed
  decide

end SchemaSync
