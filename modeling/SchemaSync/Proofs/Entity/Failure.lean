/-
Why an entity cannot be read, and why a read fails.

`Unreadable` lists the causes for which an entity cannot be read; that a
foreign key stands on a missing column is none of them, since every foreign
key comes with its column. An entity is skipped for one of them or for the name
of its table (`skipped_cause`). A lenient read gets over all of them but one,
so it fails for a target that is no entity and for nothing else
(`lenient_read_error`).
-/
import SchemaSync.Proofs.Entity.Mode

namespace SchemaSync.Entity

open Directory

/-- What can be wrong when an entity of this identifier cannot be read. -/
inductive Unreadable (declarations : List Declaration) (entity : String) : Error → Prop where
  /-- The attributes of the entity or of one that it refers to have a fault. -/
  | attribute (owner : String) (fault : Fault) :
    Unreadable declarations entity (.invalidAttribute owner fault)
  /-- The text for the type of a column names none. -/
  | columnType (given : String) (valid : List String) :
    Unreadable declarations entity (.violation (.unknownType given valid))
  /-- The type of a field suggests none for its column. -/
  | fieldType (field : String) : Unreadable declarations entity (.unsupportedType entity field)
  | unknownTarget (target : String) :
    Unreadable declarations entity (.unknownTarget entity target)
  /-- A target is a struct that is no entity. -/
  | unmarkedTarget {u : Declaration} (mem : u ∈ declarations) (unmarked : u.isEntity = false) :
    Unreadable declarations entity (.missingTableMarker u.id)
  /-- The table or one of its pivot tables would have two columns of one name. -/
  | repeatedColumn (table column : String) :
    Unreadable declarations entity (.violation (.duplicateColumn table column))

section

variable {declarations : List Declaration} {d : Declaration} {entity table field : String} {e : Error}

theorem Unreadable.unmarked_of_isFatal (h : Unreadable declarations entity e)
    (hfatal : e.isFatal = true) :
    ∃ u ∈ declarations, u.isEntity = false ∧ e = .missingTableMarker u.id := by
  cases h with
  | unmarkedTarget mem unmarked => exact ⟨_, mem, unmarked, rfl⟩
  | _ => cases hfatal

/-! ## One entity -/

theorem columnType_read_error {given : String} {v : Violation}
    (h : ColumnType.read given = .error v) : ∃ valid, v = .unknownType given valid := by
  unfold ColumnType.read at h
  split at h
  · cases h
  · cases h
    exact ⟨_, rfl⟩

theorem unreadable_of_column {s : ColumnSpec} {type : Source.TypeExpr}
    (h : s.column entity field type = .error e) : Unreadable declarations entity e := by
  unfold ColumnSpec.column at h
  rw [bind_eq_error_iff] at h
  rcases h with h | ⟨t, -, h⟩
  · unfold ColumnSpec.columnType at h
    split at h
    · obtain ⟨v, hv, rfl⟩ := Error.ofSchema_eq_error_iff.1 h
      obtain ⟨valid, rfl⟩ := columnType_read_error hv
      exact .columnType _ valid
    · cases h
    · cases h
      exact .fieldType field
  · cases h

theorem tableName_error (h : d.tableName = .error e) : ∃ fault, e = .invalidAttribute d.id fault := by
  unfold Declaration.tableName at h
  split at h
  · cases h
  · cases h
    exact ⟨_, rfl⟩
  · cases h
    exact ⟨_, rfl⟩

theorem unreadable_of_targetTable {target : String}
    (h : targetTable declarations entity target = .error e) : Unreadable declarations entity e := by
  unfold targetTable at h
  split at h
  · cases h
    exact .unknownTarget target
  · next u hu =>
    split at h
    · obtain ⟨fault, rfl⟩ := tableName_error h
      exact .attribute _ fault
    · next hunmarked =>
      cases h
      exact .unmarkedTarget (mem_of_resolve hu) (by simpa using hunmarked)

/-- The foreign keys of a pivot table stand on its columns, which may have one name. -/
theorem pivotTable_error {owner target : String} {s : JoinTableSpec} {v : Violation}
    (h : pivotTable owner target s = .error v) : ∃ table column, v = .duplicateColumn table column := by
  obtain ⟨column, rfl⟩ := Table.build_error (by simp [pivotSide]) h
  exact ⟨_, column, rfl⟩

theorem unreadable_of_relationParts {s : FieldSpec}
    (h : relationParts declarations entity table field s = .error e) :
    Unreadable declarations entity e := by
  unfold relationParts at h
  split at h
  · cases h
  · cases h
  · rcases bind_eq_error_iff.1 h with h | ⟨target, -, h⟩
    · exact unreadable_of_targetTable h
    · rcases bind_eq_error_iff.1 h with h | ⟨pivot, -, h⟩
      · obtain ⟨v, hv, rfl⟩ := Error.ofSchema_eq_error_iff.1 h
        obtain ⟨table, column, rfl⟩ := pivotTable_error hv
        exact .repeatedColumn table column
      · cases h
  · rcases bind_eq_error_iff.1 h with h | ⟨target, -, h⟩
    · exact unreadable_of_targetTable h
    · cases h
  · rcases bind_eq_error_iff.1 h with h | ⟨target, -, h⟩
    · exact unreadable_of_targetTable h
    · cases h

/-- What a field fails for: its attributes, its own column, or its relationship. -/
theorem fieldParts_error_cases {f : Source.Field}
    (h : fieldParts declarations entity table f = .error e) :
    (∃ fault, FieldSpec.ofAttributes f.attributes = .error fault ∧
      e = .invalidAttribute entity fault) ∨
    ∃ s, FieldSpec.ofAttributes f.attributes = .ok s ∧
      ((∃ column, s.column = some column ∧ column.column entity f.name f.type = .error e) ∨
        relationParts declarations entity table f.name s = .error e) := by
  rcases bind_eq_error_iff.1 h with h | ⟨s, hs, h⟩
  · obtain ⟨fault, hfault, rfl⟩ := mapError_eq_error_iff.1 h
    exact .inl ⟨fault, hfault, rfl⟩
  refine .inr ⟨s, mapError_eq_ok_iff.1 hs, ?_⟩
  -- Behind the own column, only the relationship can fail.
  have hlast : ∀ {own : List Column}, (do
      let parts ← relationParts declarations entity table f.name s
      return { parts with columns := own ++ parts.columns } : Except Error Parts) = .error e →
      relationParts declarations entity table f.name s = .error e := by
    intro own h
    rcases bind_eq_error_iff.1 h with h | ⟨parts, -, h⟩
    · exact h
    · cases h
  dsimp only at h
  split at h
  · next column hcolumn =>
    rcases bind_eq_error_iff.1 h with h | ⟨own, -, h⟩
    · exact .inl ⟨column, hcolumn, map_eq_error_iff.1 h⟩
    · exact .inr (hlast h)
  · exact .inr (hlast h)

theorem unreadable_of_fieldParts {f : Source.Field}
    (h : fieldParts declarations entity table f = .error e) : Unreadable declarations entity e := by
  rcases fieldParts_error_cases h with ⟨fault, -, rfl⟩ | ⟨s, -, ⟨column, -, hown⟩ | hrelation⟩
  · exact .attribute entity fault
  · exact unreadable_of_column hown
  · exact unreadable_of_relationParts hrelation

/-! ## Foreign keys on own columns -/

/-- The foreign keys of a part of an entity stand on columns of the same part. -/
def Parts.OwnKeys (parts : Parts) : Prop :=
  ∀ fk ∈ parts.foreignKeys, fk.column ∈ parts.columns.map (·.name)

theorem ownKeys_of_relationParts {s : FieldSpec} {parts : Parts}
    (h : relationParts declarations entity table field s = .ok parts) : parts.OwnKeys := by
  rcases relationParts_cases h with rfl | ⟨target, name, pivot, -, -, rfl⟩ | ⟨target, name, -, rfl⟩
  · exact fun _ h => absurd h List.not_mem_nil
  · exact fun _ h => absurd h List.not_mem_nil
  · intro fk hfk
    rw [List.mem_singleton.1 hfk]
    exact List.mem_singleton_self _

theorem ownKeys_of_fieldParts {f : Source.Field} {parts : Parts}
    (h : fieldParts declarations entity table f = .ok parts) : parts.OwnKeys := by
  obtain ⟨s, own, relation, -, hrelation, rfl⟩ := exists_of_fieldParts h
  intro fk hfk
  rw [List.map_append]
  exact List.mem_append_right _ (ownKeys_of_relationParts hrelation fk hfk)

/-- **An entity that cannot be read is so for one of the listed causes.** -/
theorem unreadable_of_readEntity (h : readEntity declarations d = .error e) :
    Unreadable declarations d.id e := by
  rcases bind_eq_error_iff.1 h with h | ⟨name, -, h⟩
  · obtain ⟨fault, rfl⟩ := tableName_error h
    exact .attribute _ fault
  rcases bind_eq_error_iff.1 h with h | ⟨parts, hparts, h⟩
  · obtain ⟨f, -, hf⟩ := exists_of_mapM_error h
    exact unreadable_of_fieldParts hf
  rcases bind_eq_error_iff.1 h with h | ⟨t, -, h⟩
  · obtain ⟨v, hv, rfl⟩ := Error.ofSchema_eq_error_iff.1 h
    have hkeys : ∀ fk ∈ parts.flatMap (·.foreignKeys),
        fk.column ∈ (parts.flatMap (·.columns)).map (·.name) := by
      intro fk hfk
      obtain ⟨part, hpart, hfk⟩ := List.mem_flatMap.1 hfk
      obtain ⟨f, -, hf⟩ := exists_of_mem_mapM hparts hpart
      obtain ⟨c, hc, hname⟩ := List.mem_map.1 (ownKeys_of_fieldParts hf fk hfk)
      exact List.mem_map.2 ⟨c, List.mem_flatMap.2 ⟨part, hpart, hc⟩, hname⟩
    obtain ⟨column, rfl⟩ := Table.build_error hkeys hv
    exact .repeatedColumn name column
  · cases h

/-! ## A whole read -/

theorem addEntity_error {p : Progress} (h : addEntity declarations p d = .error e) :
    readEntity declarations d = .error e ∨ ∃ table, e = .violation (.duplicateTable table) := by
  rcases bind_eq_error_iff.1 h with h | ⟨⟨t, pivots⟩, -, h⟩
  · exact .inl h
  · rcases bind_eq_error_iff.1 h with h | ⟨s, -, h⟩
    · obtain ⟨v, hv, rfl⟩ := Error.ofSchema_eq_error_iff.1 h
      obtain ⟨-, rfl⟩ := Schema.insert_eq_error_iff.1 hv
      exact .inr ⟨_, rfl⟩
    · cases h

/-- An entity is skipped because it cannot be read or because of the name of its table. -/
theorem skipped_cause {outcomes : List Outcome} (haccount : Account declarations [] outcomes)
    {s : Skipped} (hs : s ∈ outcomes.flatMap (·.notes)) :
    Unreadable declarations s.entity s.error ∨
      ∃ table, s.error = .violation (.duplicateTable table) := by
  obtain ⟨o, ho, hs⟩ := List.mem_flatMap.1 hs
  obtain ⟨taken, -, hbecomes⟩ := becomes_of_mem_account haccount ho
  cases hbecomes with
  | listed read fresh => cases hs
  | faulty read mild =>
    rw [List.mem_singleton.1 hs]
    exact .inl (unreadable_of_readEntity read)
  | repeated read old =>
    rw [List.mem_singleton.1 hs]
    exact .inr ⟨_, rfl⟩

/-- A step fails for what an entity fails for, in lenient mode only if that is fatal. -/
theorem step_error {mode : ScanMode} {p : Progress}
    (h : step mode declarations p d = .error e) :
    addEntity declarations p d = .error e ∧ (mode = .lenient → e.isFatal = true) := by
  unfold step at h
  split at h
  · cases h
  · next e' he =>
    split at h
    · next hstop =>
      cases h
      refine ⟨he, ?_⟩
      rintro rfl
      simpa using hstop
    · cases h

theorem exists_of_readEntities_error {mode : ScanMode} {entities : List Declaration}
    (h : readEntities mode declarations entities = .error e) :
    ∃ d ∈ entities, ∃ p, addEntity declarations p d = .error e ∧
      (mode = .lenient → e.isFatal = true) := by
  rcases bind_eq_error_iff.1 h with h | ⟨p, -, h⟩
  · obtain ⟨d, hd, p, hstep⟩ := exists_of_foldlM_error h
    exact ⟨d, hd, p, step_error hstep⟩
  · cases h

/-- A lenient scan leaves out the files that do not load, and succeeds. -/
theorem exists_declarations_lenient (extension : String) (tree : SourceTree) :
    ∃ found, Entity.declarations .lenient extension tree = .ok found := by
  rw [declarations_lenient]
  generalize tree.files extension = files
  induction files with
  | nil => exact ⟨[], rfl⟩
  | cons file files ih =>
    obtain ⟨found, hfound⟩ := ih
    cases hfile : fileDeclarations tree file with
    | error e => exact ⟨found, by simp only [declarationsIn, hfile, hfound]⟩
    | ok own => exact ⟨own ++ found, by simp only [declarationsIn, hfile, hfound]; rfl⟩

end

/-- **A lenient read fails for a target that is no entity, and for nothing else.** -/
theorem lenient_read_error {extension : String} {tree : SourceTree} {e : Error}
    (h : readTree .lenient extension tree = .error e) :
    ∃ found, declarations .lenient extension tree = .ok found ∧
      ∃ u ∈ found, u.isEntity = false ∧ e = .missingTableMarker u.id := by
  obtain ⟨found, hfound⟩ := exists_declarations_lenient extension tree
  refine ⟨found, hfound, ?_⟩
  rcases bind_eq_error_iff.1 h with h | ⟨found', hfound', h⟩
  · rw [hfound] at h
    cases h
  · rw [hfound] at hfound'
    cases hfound'
    obtain ⟨d, -, p, hadd, hfatal⟩ := exists_of_readEntities_error h
    rcases addEntity_error hadd with hread | ⟨table, rfl⟩
    · exact (unreadable_of_readEntity hread).unmarked_of_isFatal (hfatal rfl)
    · cases hfatal rfl

end SchemaSync.Entity
