/-
Constraint names in the course of a run.

An engine refuses a second constraint of one name on a table. A difference
adds the new foreign keys of a table before it drops the old ones, so a new
key finds its name free unless an old one has it
(`added_constraints_fresh_iff`): a foreign key that changes what it refers to
must not keep its name.
-/
import SchemaSync.Proofs.Change.Midway

namespace SchemaSync

/-- No table has two foreign keys of one constraint name. -/
def Schema.DistinctConstraints (s : Schema) : Prop :=
  ∀ t ∈ s.tables, (t.foreignKeys.map (·.name)).Nodup

instance (s : Schema) : Decidable s.DistinctConstraints :=
  inferInstanceAs (Decidable (∀ t ∈ s.tables, (t.foreignKeys.map (·.name)).Nodup))

/-- Each foreign key that the steps add finds its table, and there its constraint name free. -/
def AddsFreshConstraints (s : Schema) (steps : List (String × Change)) : Prop :=
  ∀ before table fk after, steps = before ++ (table, .addForeignKey fk) :: after →
    ∃ r t, execute s before = .ok r ∧ r.get? table = some t ∧
      fk.name ∉ t.foreignKeys.map (·.name)

variable {desired current : Schema}

theorem exists_step_addForeignKey {t u : Table} (ht : t ∈ desired.tables)
    (hu : current.get? t.name = some u) {fk : ForeignKey}
    (hfk : fk ∈ addedKeys t.foreignKeys u.foreignKeys) :
    ∃ before after, diffSteps (diff desired current) =
      before ++ (t.name, .addForeignKey fk) :: after := by
  obtain ⟨hmem, hnew⟩ := List.mem_filter.1 hfk
  rw [Bool.not_eq_true'] at hnew
  have hchange : .addForeignKey fk ∈ diffTable t u :=
    List.mem_append_right _ (mem_diffForeignKeys.2 (.inl ⟨fk, hmem, hnew, rfl⟩))
  have hdiff : ⟨t.name, diffTable t u⟩ ∈ diff desired current :=
    mem_diff.2 (.inr (.inr ⟨t, ht, u, hu, List.ne_nil_of_mem hchange, rfl⟩))
  exact List.append_of_mem (List.mem_flatMap.2 ⟨_, hdiff, List.mem_map_of_mem hchange⟩)

/-- The names that a new foreign key meets are those of the old ones. -/
theorem name_mem_before_addForeignKey {t u : Table} (ht : (t.foreignKeys.map (·.name)).Nodup)
    {earlier later : List ForeignKey} {fk : ForeignKey}
    (h : addedKeys t.foreignKeys u.foreignKeys = earlier ++ fk :: later) :
    fk.name ∈ (u.foreignKeys ++ earlier).map (·.name) ↔ fk.name ∈ u.foreignKeys.map (·.name) := by
  have hnodup : ((earlier ++ fk :: later).map (·.name)).Nodup :=
    h ▸ (List.filter_sublist.map (fun k : ForeignKey => k.name)).nodup ht
  rw [List.map_append, List.nodup_append] at hnodup
  have hearlier : fk.name ∉ earlier.map (·.name) := fun hmem => hnodup.2.2 _ hmem _ (by simp) rfl
  rw [List.map_append, List.mem_append, or_iff_left hearlier]

/-- **A new foreign key finds its name free unless it changes what the name stands for**: exactly
when every desired key that shares its name with a current key of the table has a counterpart
among the current ones, and so is not added at all. -/
theorem added_constraints_fresh_iff (desired current : Schema)
    (hd : desired.DistinctConstraints) :
    AddsFreshConstraints current (diffSteps (diff desired current)) ↔
      ∀ t ∈ desired.tables, ∀ u ∈ current.tables, t.name = u.name →
        ∀ fk ∈ t.foreignKeys, ∀ k ∈ u.foreignKeys, fk.name = k.name →
          ∃ same ∈ u.foreignKeys, fk.sameTarget same := by
  constructor
  · intro hfresh t ht u hu hname fk hfk k hk hkname
    by_contra hnone
    have hget : current.get? t.name = some u := hname ▸ Schema.get?_name hu
    have hadded : fk ∈ addedKeys t.foreignKeys u.foreignKeys := by
      refine List.mem_filter.2 ⟨hfk, ?_⟩
      rw [Bool.not_eq_true', ← Bool.not_eq_true, List.any_eq_true]
      rintro ⟨same, hsame, htarget⟩
      exact hnone ⟨same, hsame, sameTarget_comm.trans htarget⟩
    obtain ⟨before, after, hsplit⟩ := exists_step_addForeignKey ht hget hadded
    obtain ⟨r, v, hr, hv, hnot⟩ := hfresh _ _ _ _ hsplit
    obtain ⟨t', ht', htname, u', hu', earlier, later, -, -, s, w, hs, -, -, hw, -, hkeys⟩ :=
      execute_before_addForeignKey hsplit
    obtain rfl := Except.ok.inj (hr.symm.trans hs)
    obtain rfl := Option.some.inj (hv.symm.trans hw)
    obtain rfl := Option.some.inj (hget.symm.trans hu')
    rw [hkeys, hkname] at hnot
    exact hnot (List.mem_map_of_mem (List.mem_append_left _ hk))
  · intro hsame before table fk after hsplit
    obtain ⟨t, ht, rfl, u, hu, earlier, later, hadded, -, s, v, hs, -, -, hv, -, hkeys⟩ :=
      execute_before_addForeignKey hsplit
    refine ⟨s, v, hs, hv, ?_⟩
    rw [hkeys, name_mem_before_addForeignKey (hd t ht) hadded, List.mem_map]
    rintro ⟨k, hk, hkname⟩
    obtain ⟨humem, huname⟩ := Schema.get?_eq_some_iff.1 hu
    obtain ⟨hfk, hnew⟩ :=
      List.mem_filter.1 (hadded ▸ List.mem_append_right earlier List.mem_cons_self)
    obtain ⟨same, hmem, htarget⟩ := hsame t ht u humem huname.symm fk hfk k hk hkname.symm
    rw [Bool.not_eq_true', ← Bool.not_eq_true, List.any_eq_true] at hnew
    exact hnew ⟨same, hmem, sameTarget_comm.trans htarget⟩

/-- `blogSchema` before its posts were no longer deleted with their authors. -/
def cascadingBlogSchema : Schema :=
  ⟨[{ name := "authors", columns := [{ name := "id", type := .bigInt, primaryKey := true }] },
    { name := "posts"
      columns := [{ name := "title", type := .string }, { name := "author_id", type := .bigInt }]
      foreignKeys := [⟨"fk_posts_author_id", "author_id", "authors", "id", some .cascade⟩] }],
    by decide⟩

theorem added_constraints_fresh_blog :
    blogSchema.DistinctConstraints ∧
      (AddsFreshConstraints olderBlogSchema (diffSteps (diff blogSchema olderBlogSchema)) ↔
        ∀ t ∈ blogSchema.tables, ∀ u ∈ olderBlogSchema.tables, t.name = u.name →
          ∀ fk ∈ t.foreignKeys, ∀ k ∈ u.foreignKeys, fk.name = k.name →
            ∃ same ∈ u.foreignKeys, fk.sameTarget same) :=
  ⟨by decide, added_constraints_fresh_iff _ _ (by decide)⟩

/-- A key that keeps its name and changes its delete action is added beside the old one. -/
theorem not_addsFreshConstraints_cascading :
    blogSchema.DistinctColumns ∧ cascadingBlogSchema.DistinctColumns ∧
      blogSchema.DistinctConstraints ∧ cascadingBlogSchema.DistinctConstraints ∧
      ¬ AddsFreshConstraints cascadingBlogSchema
        (diffSteps (diff blogSchema cascadingBlogSchema)) := by
  refine ⟨by decide, by decide, by decide, by decide, fun hfresh => ?_⟩
  obtain ⟨r, t, hr, ht, hnot⟩ := hfresh [] "posts"
    ⟨"fk_posts_author_id", "author_id", "authors", "id", none⟩ _ rfl
  cases hr
  cases ht
  revert hnot
  decide

end SchemaSync
