/-
Where the foreign keys of a declared schema lead.

A target is resolved among all declarations, so a foreign key refers to the
table that some entity declares (`refersToDeclared_of_readEntity`), whether or
not that entity can be read itself. A lenient read therefore leaves a reference
open only where it skips the entity behind it (`lenient_read_references`).
-/
import SchemaSync.Proofs.Change.Closure
import SchemaSync.Proofs.Entity.Outcome

namespace SchemaSync.Entity

open Directory

/-- Whether a table name is one that some entity declares. -/
def IsDeclared (declarations : List Declaration) (name : String) : Prop :=
  ∃ d ∈ declarations, d.isEntity = true ∧ d.tableName = .ok name

/-- Every foreign key of a table stands on one of its columns and refers to a declared table. -/
def RefersToDeclared (declarations : List Declaration) (t : Table) : Prop :=
  ∀ fk ∈ t.foreignKeys,
    fk.column ∈ t.columns.map (·.name) ∧ IsDeclared declarations fk.referencesTable

/-! ## Targets -/

section

variable {declarations : List Declaration}

theorem mem_of_only? {α : Type} {l : List α} {a : α} (h : only? l = some a) : a ∈ l := by
  unfold only? at h
  split at h
  · cases h
    exact List.mem_singleton_self _
  · cases h

theorem candidates_subset (declarations : List Declaration) (name : String) :
    candidates declarations name ⊆ declarations := by
  intro d hd
  simp only [candidates] at hd
  split at hd
  · exact (List.mem_filter.1 hd).1
  · exact (List.mem_filter.1 (List.mem_filter.1 hd).1).1

/-- A target means nothing but a declaration. -/
theorem mem_of_resolve {target : String} {d : Declaration}
    (h : resolve declarations target = some d) : d ∈ declarations := by
  rw [resolve, lookUp] at h
  split at h
  · next hid =>
    cases h
    exact List.mem_reverse.1 (List.mem_of_find?_eq_some hid)
  · dsimp only at h
    split at h
    · next honly =>
      cases h
      exact candidates_subset _ _ (mem_of_only? honly)
    · exact candidates_subset _ _ (List.mem_filter.1 (mem_of_only? h)).1

theorem isDeclared_of_targetTable {entity target name : String}
    (h : targetTable declarations entity target = .ok name) : IsDeclared declarations name := by
  unfold targetTable at h
  split at h
  · cases h
  · next d hd =>
    split at h
    · next hentity => exact ⟨d, mem_of_resolve hd, hentity, h⟩
    · cases h

/-! ## One entity -/

variable {entity table field : String} {s : FieldSpec} {f : Source.Field} {parts : Parts}
  {d : Declaration} {pivots : List Table}

/-- What a relationship adds: nothing, a pivot table, or a column with a foreign key on it. -/
theorem relationParts_cases (h : relationParts declarations entity table field s = .ok parts) :
    parts = {} ∨
    (∃ target name pivot, targetTable declarations entity target = .ok name ∧
      pivotTable table name (s.joinTable.getD {}) = .ok pivot ∧ parts = { pivots := [pivot] }) ∨
    ∃ target name, targetTable declarations entity target = .ok name ∧
      parts =
        { columns := [(joinColumn table field name (s.joinColumn.getD {})).1]
          foreignKeys := [(joinColumn table field name (s.joinColumn.getD {})).2] } := by
  unfold relationParts at h
  split at h
  · cases h
    exact .inl rfl
  · cases h
    exact .inl rfl
  · obtain ⟨name, hname, h⟩ := bind_eq_ok_iff.1 h
    obtain ⟨pivot, hpivot, h⟩ := bind_eq_ok_iff.1 h
    cases h
    exact .inr (.inl ⟨_, name, pivot, hname, Error.ofSchema_eq_ok_iff.1 hpivot, rfl⟩)
  · obtain ⟨name, hname, h⟩ := bind_eq_ok_iff.1 h
    cases h
    exact .inr (.inr ⟨_, name, hname, rfl⟩)
  · obtain ⟨name, hname, h⟩ := bind_eq_ok_iff.1 h
    cases h
    exact .inr (.inr ⟨_, name, hname, rfl⟩)

/-- What a field adds: its own column, if it has one, in front of what its relationship adds. -/
theorem exists_of_fieldParts (h : fieldParts declarations entity table f = .ok parts) :
    ∃ s own relation, FieldSpec.ofAttributes f.attributes = .ok s ∧
      relationParts declarations entity table f.name s = .ok relation ∧
      parts = { relation with columns := own ++ relation.columns } := by
  obtain ⟨s, hs, h⟩ := bind_eq_ok_iff.1 h
  dsimp only at h
  split at h
  all_goals
    obtain ⟨own, -, h⟩ := bind_eq_ok_iff.1 h
    obtain ⟨relation, hrelation, h⟩ := bind_eq_ok_iff.1 h
    cases h
    exact ⟨s, own, relation, mapError_eq_ok_iff.1 hs, hrelation, rfl⟩

/-- An entity is read as its table of what its fields add, with their pivot tables. -/
theorem exists_of_readEntity {t : Table} (h : readEntity declarations d = .ok (t, pivots)) :
    ∃ name parts, d.tableName = .ok name ∧
      d.item.fields.mapM (fieldParts declarations d.id name) = .ok parts ∧
      Table.build name (parts.flatMap (·.columns)) (parts.flatMap (·.foreignKeys)) = .ok t ∧
      pivots = parts.flatMap (·.pivots) := by
  obtain ⟨name, hname, h⟩ := bind_eq_ok_iff.1 h
  obtain ⟨parts, hparts, h⟩ := bind_eq_ok_iff.1 h
  obtain ⟨t, ht, h⟩ := bind_eq_ok_iff.1 h
  cases h
  exact ⟨name, parts, hname, hparts, Error.ofSchema_eq_ok_iff.1 ht, rfl⟩

/-- A pivot table refers to the two tables that it joins. -/
theorem refersToDeclared_of_pivotTable {owner target : String} {s : JoinTableSpec} {t : Table}
    (h : pivotTable owner target s = .ok t) (howner : IsDeclared declarations owner)
    (htarget : IsDeclared declarations target) : RefersToDeclared declarations t := by
  obtain ⟨-, hcolumns, rfl⟩ := Table.build_eq_ok_iff.1 h
  intro fk hfk
  refine ⟨hcolumns fk hfk, ?_⟩
  simp only [List.mem_cons, List.not_mem_nil, or_false] at hfk
  rcases hfk with rfl | rfl
  · exact howner
  · exact htarget

/-- The foreign keys of a part of an entity refer to declared tables, and so do its pivot tables. -/
structure Parts.Refer (declarations : List Declaration) (parts : Parts) : Prop where
  keys : ∀ fk ∈ parts.foreignKeys, IsDeclared declarations fk.referencesTable
  pivots : ∀ t ∈ parts.pivots, RefersToDeclared declarations t

theorem refer_of_relationParts (h : relationParts declarations entity table field s = .ok parts)
    (htable : IsDeclared declarations table) : parts.Refer declarations := by
  rcases relationParts_cases h with rfl | ⟨target, name, pivot, hname, hpivot, rfl⟩ |
    ⟨target, name, hname, rfl⟩
  · exact ⟨fun _ h => absurd h List.not_mem_nil, fun _ h => absurd h List.not_mem_nil⟩
  · refine ⟨fun _ h => absurd h List.not_mem_nil, fun t ht => ?_⟩
    rw [List.mem_singleton.1 ht]
    exact refersToDeclared_of_pivotTable hpivot htable (isDeclared_of_targetTable hname)
  · refine ⟨fun fk hfk => ?_, fun _ h => absurd h List.not_mem_nil⟩
    rw [List.mem_singleton.1 hfk]
    exact isDeclared_of_targetTable hname

theorem refer_of_fieldParts (h : fieldParts declarations entity table f = .ok parts)
    (htable : IsDeclared declarations table) : parts.Refer declarations := by
  obtain ⟨s, own, relation, -, hrelation, rfl⟩ := exists_of_fieldParts h
  obtain ⟨hkeys, hpivots⟩ := refer_of_relationParts hrelation htable
  exact ⟨hkeys, hpivots⟩

/-- The table of an entity has the name that the entity declares. -/
theorem tableName_of_readEntity {t : Table} (h : readEntity declarations d = .ok (t, pivots)) :
    d.tableName = .ok t.name := by
  obtain ⟨name, parts, hname, -, ht, -⟩ := exists_of_readEntity h
  obtain ⟨-, -, rfl⟩ := Table.build_eq_ok_iff.1 ht
  exact hname

/-- What an entity adds to a schema refers to declared tables only. -/
theorem refersToDeclared_of_readEntity {t : Table} (hd : d ∈ declarations)
    (hentity : d.isEntity = true) (h : readEntity declarations d = .ok (t, pivots)) :
    ∀ u ∈ t :: pivots, RefersToDeclared declarations u := by
  have hown : IsDeclared declarations t.name := ⟨d, hd, hentity, tableName_of_readEntity h⟩
  obtain ⟨name, parts, -, hparts, ht, rfl⟩ := exists_of_readEntity h
  obtain ⟨-, hcolumns, rfl⟩ := Table.build_eq_ok_iff.1 ht
  have hrefer : ∀ part ∈ parts, part.Refer declarations := by
    intro part hpart
    obtain ⟨f, -, hf⟩ := exists_of_mem_mapM hparts hpart
    exact refer_of_fieldParts hf hown
  refine List.forall_mem_cons.2 ⟨fun fk hfk => ⟨hcolumns fk hfk, ?_⟩, fun u hu => ?_⟩
  · obtain ⟨part, hpart, hfk⟩ := List.mem_flatMap.1 hfk
    exact (hrefer part hpart).keys fk hfk
  · obtain ⟨part, hpart, hu⟩ := List.mem_flatMap.1 hu
    exact (hrefer part hpart).pivots u hu

/-! ## A whole read -/

theorem newcomers_subset : ∀ {taken : List String} {tables : List Table},
    newcomers taken tables ⊆ tables
  | _, [] => List.Subset.refl _
  | taken, t :: tables => by
    intro u hu
    rw [newcomers] at hu
    split at hu
    · exact List.mem_cons_of_mem _ (newcomers_subset hu)
    · rcases List.mem_cons.1 hu with rfl | hu
      · exact List.mem_cons_self
      · exact List.mem_cons_of_mem _ (newcomers_subset hu)

variable {outcomes : List Outcome}

/-- What an entity of an account becomes depends only on tables that are listed. -/
theorem becomes_of_mem_account (haccount : Account declarations [] outcomes) {o : Outcome}
    (ho : o ∈ outcomes) : ∃ taken ⊆ listedNames outcomes, Becomes declarations taken o := by
  obtain ⟨before, after, rfl⟩ := List.append_of_mem ho
  obtain ⟨-, hbecomes, -⟩ := account_append.1 haccount
  refine ⟨_, ?_, hbecomes⟩
  rw [List.nil_append]
  intro name hname
  obtain ⟨t, ht, rfl⟩ := List.mem_map.1 hname
  exact List.mem_map_of_mem (by simp [List.flatMap_append, ht])

/-- The tables that are left of a read refer to declared tables only. -/
theorem refersToDeclared_of_account
    (hmap : outcomes.map (·.entity) = declarations.filter (·.isEntity))
    (haccount : Account declarations [] outcomes) {t : Table} (ht : t ∈ tablesOf outcomes) :
    RefersToDeclared declarations t := by
  have hmem : ∃ o ∈ outcomes, t ∈ o.tables ++ o.pivots := by
    rw [tablesOf, List.mem_append] at ht
    rcases ht with ht | ht
    · obtain ⟨o, ho, ht⟩ := List.mem_flatMap.1 ht
      exact ⟨o, ho, List.mem_append_left _ ht⟩
    · obtain ⟨o, ho, ht⟩ := List.mem_flatMap.1 (newcomers_subset ht)
      exact ⟨o, ho, List.mem_append_right _ ht⟩
  obtain ⟨o, ho, ht⟩ := hmem
  obtain ⟨taken, -, hbecomes⟩ := becomes_of_mem_account haccount ho
  have hentity : o.entity ∈ declarations.filter (·.isEntity) := hmap ▸ List.mem_map_of_mem ho
  obtain ⟨hd, hentity⟩ := List.mem_filter.1 hentity
  cases hbecomes with
  | listed read fresh => exact refersToDeclared_of_readEntity hd hentity read t ht
  | faulty read mild => cases ht
  | repeated read old => cases ht

/-- The tables of listed entities are in the schema. -/
theorem contains_of_listed {s : Schema} (htables : s.tables = tablesOf outcomes) {name : String}
    (h : name ∈ listedNames outcomes) : s.contains name = true := by
  obtain ⟨t, ht, hname⟩ := List.mem_map.1 h
  exact Schema.contains_iff_mem.2 ⟨t, htables ▸ List.mem_append_left _ ht, hname⟩

/-- Every entity becomes something in a read. -/
theorem exists_outcome (hmap : outcomes.map (·.entity) = declarations.filter (·.isEntity))
    (haccount : Account declarations [] outcomes) {d : Declaration} (hd : d ∈ declarations)
    (hentity : d.isEntity = true) :
    ∃ o ∈ outcomes, o.entity = d ∧ ∃ taken ⊆ listedNames outcomes, Becomes declarations taken o := by
  have hmem : d ∈ outcomes.map (·.entity) := hmap ▸ List.mem_filter.2 ⟨hd, hentity⟩
  obtain ⟨o, ho, hentity⟩ := List.mem_map.1 hmem
  exact ⟨o, ho, hentity, becomes_of_mem_account haccount ho⟩

/-- A table that is declared is listed, unless its entity cannot be read. -/
theorem listed_or_unread (hmap : outcomes.map (·.entity) = declarations.filter (·.isEntity))
    (haccount : Account declarations [] outcomes) {d : Declaration} (hd : d ∈ declarations)
    (hentity : d.isEntity = true) {name : String} (hname : d.tableName = .ok name) :
    name ∈ listedNames outcomes ∨
      ∃ e, readEntity declarations d = .error e ∧ ⟨d.id, e⟩ ∈ outcomes.flatMap (·.notes) := by
  obtain ⟨o, ho, rfl, taken, htaken, hbecomes⟩ := exists_outcome hmap haccount hd hentity
  have hown : ∀ {table pivots}, readEntity declarations o.entity = .ok (table, pivots) →
      table.name = name := fun read =>
    Except.ok.inj ((tableName_of_readEntity read).symm.trans hname)
  cases hbecomes with
  | listed read fresh =>
    refine .inl (hown read ▸ List.mem_map_of_mem (List.mem_flatMap.2 ⟨_, ho, ?_⟩))
    exact List.mem_singleton_self _
  | faulty read mild =>
    exact .inr ⟨_, read, List.mem_flatMap.2 ⟨_, ho, List.mem_singleton_self _⟩⟩
  | repeated read old => exact .inl (htaken (hown read ▸ old))

end

/-- **A lenient read leaves a reference open only where it skips the entity behind it.** Every
foreign key refers to a table of the schema, or to the table that a declared entity names which
cannot be read and is noted as skipped. -/
theorem lenient_read_references (extension : String) (tree : SourceTree) (r : Report)
    (h : readTree .lenient extension tree = .ok r) :
    ∀ t ∈ r.schema.tables, ∀ fk ∈ t.foreignKeys,
      r.schema.contains fk.referencesTable = true ∨
        ∃ found d e, declarations .lenient extension tree = .ok found ∧ d ∈ found ∧
          d.isEntity = true ∧ d.tableName = .ok fk.referencesTable ∧
          readEntity found d = .error e ∧ ⟨d.id, e⟩ ∈ r.skipped := by
  obtain ⟨found, hfound, hread⟩ := bind_eq_ok_iff.1 h
  obtain ⟨outcomes, hmap, haccount, htables, hskipped, -⟩ := readEntities_eq_ok_iff.1 hread
  intro t ht fk hfk
  rw [htables] at ht
  obtain ⟨-, d, hd, hentity, hname⟩ := refersToDeclared_of_account hmap haccount ht fk hfk
  rcases listed_or_unread hmap haccount hd hentity hname with hlisted | ⟨e, he, hnote⟩
  · exact .inl (contains_of_listed htables hlisted)
  · exact .inr ⟨found, d, e, hfound, hd, hentity, hname, he, hskipped ▸ hnote⟩

/-! ## A team that nobody declares -/

/-- Posts with an author, and users who belong to a team that is not declared. -/
def teamless : SourceTree where
  root := "root"
  entries :=
    [("posts.rs", .file (.ok "#[orm(table = \x22posts\x22)]
struct Post \x7b
    #[orm(many_to_one(target = \x22User\x22))]
    author: User,
\x7d
")),
      ("users.rs", .file (.ok "#[orm(table = \x22users\x22)]
struct User \x7b
    #[orm(many_to_one(target = \x22Team\x22))]
    team: Team,
\x7d
"))]

theorem readTree_teamless :
    ∃ r, readTree .lenient "rs" teamless = .ok r ∧ r.schema.tables.map (·.name) = ["posts"] ∧
      r.skipped.map (·.entity) = ["users::User"] ∧
      ∃ t ∈ r.schema.tables, ∃ fk ∈ t.foreignKeys, fk.referencesTable = "users" := by
  have hread : (readTree .lenient "rs" teamless).toOption.map (fun r =>
      (r.schema.tables.map (·.name), r.skipped.map (·.entity),
        r.schema.tables.any fun t => t.foreignKeys.any fun fk => fk.referencesTable = "users")) =
      some (["posts"], ["users::User"], true) := by decide +kernel
  obtain ⟨r, h, hseen⟩ := toOption_map_eq_some_iff.1 hread
  simp only [Prod.mk.injEq, List.any_eq_true, decide_eq_true_eq] at hseen
  exact ⟨r, h, hseen⟩

theorem lenient_read_references_teamless :
    ∃ r, readTree .lenient "rs" teamless = .ok r ∧
      r.schema.tables.map (·.name) = ["posts"] ∧
      r.skipped.map (·.entity) = ["users::User"] ∧
      ∀ t ∈ r.schema.tables, ∀ fk ∈ t.foreignKeys,
        r.schema.contains fk.referencesTable = true ∨
          ∃ found d e, declarations .lenient "rs" teamless = .ok found ∧ d ∈ found ∧
            d.isEntity = true ∧ d.tableName = .ok fk.referencesTable ∧
            readEntity found d = .error e ∧ ⟨d.id, e⟩ ∈ r.skipped := by
  obtain ⟨r, h, hnames, hskipped, -⟩ := readTree_teamless
  exact ⟨r, h, hnames, hskipped, lenient_read_references "rs" teamless r h⟩

/-- The users are skipped, and the author of a post still refers to their table. -/
theorem not_closed_teamless :
    ∃ r, readTree .lenient "rs" teamless = .ok r ∧
      ∃ t ∈ r.schema.tables, ∃ fk ∈ t.foreignKeys,
        fk.referencesTable = "users" ∧ r.schema.contains fk.referencesTable = false := by
  obtain ⟨r, h, hnames, -, t, ht, fk, hfk, husers⟩ := readTree_teamless
  have hopen : r.schema.contains "users" = false := by
    rw [Schema.contains_eq_false_iff, hnames]
    decide
  exact ⟨r, h, t, ht, fk, hfk, husers, husers ▸ hopen⟩

end SchemaSync.Entity
