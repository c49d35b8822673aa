/-
The rules that every table of a declared schema keeps.

The columns and foreign keys of an entity come from its fields one by one, with
names from attributes, fields and tables. Names that collide are found out when
the table is built, and a foreign key is made together with its column, so that
no read meets one without (`read_keeps_table_rules`). A pivot table is made of
two such pairs.
-/
import SchemaSync.Proofs.Entity.Failure

namespace SchemaSync

/-- Whether an error is that a foreign key stands on a column that its table does not have. -/
def Error.isUnknownColumn : Error → Bool
  | violation (.unknownColumn ..) => true
  | _ => false

namespace Entity

open Directory

/-- A column of a pivot table, as far as all of them agree. -/
structure IsPivotColumn (c : Column) : Prop where
  type : c.type = .integer
  nullable : c.nullable = false
  primaryKey : c.primaryKey = true
  autoIncrement : c.autoIncrement = false

/-- A table with two columns, both of the primary key, and one foreign key on each of them. -/
structure IsPivot (t : Table) : Prop where
  two : t.columns.length = 2
  distinct : (t.columns.map (·.name)).Nodup
  columns : ∀ c ∈ t.columns, IsPivotColumn c
  keys : t.foreignKeys.map (·.column) = t.columns.map (·.name)

/-- A report on declarations whose tables keep the rules: those of the entities that are listed, and
the pivot tables behind them. -/
structure Report.KeepsTableRules (declarations : List Declaration) (r : Report) : Prop where
  tables : ∀ t ∈ r.schema.tables, t.KeepsRules
  pivots : ∃ outcomes : List Outcome,
    outcomes.map (·.entity) = declarations.filter (·.isEntity) ∧ Account declarations [] outcomes ∧
    r.schema.tables = outcomes.flatMap (·.tables) ++
      newcomers (listedNames outcomes) (outcomes.flatMap (·.pivots)) ∧
    ∀ t ∈ newcomers (listedNames outcomes) (outcomes.flatMap (·.pivots)), IsPivot t
  skipped : ∀ s ∈ r.skipped, s.error.isUnknownColumn = false

section

variable {declarations : List Declaration} {d : Declaration} {entity table : String} {e : Error}

/-! ## Tables -/

theorem IsPivot.keepsRules {t : Table} (h : IsPivot t) : t.KeepsRules :=
  ⟨h.distinct, fun _ hfk => h.keys ▸ List.mem_map_of_mem hfk⟩

theorem isPivotColumn_pivotSide (pivot table : String) (s : JoinColumnSpec) :
    IsPivotColumn (pivotSide pivot table s).1 :=
  ⟨rfl, rfl, rfl, rfl⟩

theorem isPivot_of_pivotTable {owner target : String} {s : JoinTableSpec} {t : Table}
    (h : pivotTable owner target s = .ok t) : IsPivot t := by
  obtain ⟨hdistinct, -, rfl⟩ := Table.build_eq_ok_iff.1 h
  refine ⟨rfl, hdistinct, fun c hc => ?_, rfl⟩
  rcases List.mem_pair.1 hc with rfl | rfl
  · exact isPivotColumn_pivotSide _ _ _
  · exact isPivotColumn_pivotSide _ _ _

theorem isPivot_of_fieldParts {f : Source.Field} {parts : Parts}
    (h : fieldParts declarations entity table f = .ok parts) : ∀ t ∈ parts.pivots, IsPivot t := by
  obtain ⟨s, own, relation, -, hrelation, rfl⟩ := exists_of_fieldParts h
  intro t ht
  rcases relationParts_cases hrelation with rfl | ⟨target, name, pivot, -, hpivot, rfl⟩ |
    ⟨target, name, -, rfl⟩
  · cases ht
  · rw [List.mem_singleton.1 ht]
    exact isPivot_of_pivotTable hpivot
  · cases ht

/-- The pivot tables of an entity join two tables each, and all its tables keep the rules. -/
theorem keepsRules_of_readEntity {t : Table} {pivots : List Table}
    (h : readEntity declarations d = .ok (t, pivots)) :
    t.KeepsRules ∧ ∀ p ∈ pivots, IsPivot p := by
  obtain ⟨name, parts, -, hparts, ht, rfl⟩ := exists_of_readEntity h
  refine ⟨Table.keepsRules_of_build ht, fun p hp => ?_⟩
  obtain ⟨part, hpart, hp⟩ := List.mem_flatMap.1 hp
  obtain ⟨f, -, hf⟩ := exists_of_mem_mapM hparts hpart
  exact isPivot_of_fieldParts hf p hp

/-! ## Errors -/

theorem Unreadable.isUnknownColumn_eq_false (h : Unreadable declarations entity e) :
    e.isUnknownColumn = false := by
  cases h <;> rfl

theorem isUnknownColumn_of_fileDeclarations {tree : SourceTree} {file : SourceFile}
    (h : fileDeclarations tree file = .error e) : e.isUnknownColumn = false := by
  unfold fileDeclarations at h
  dsimp only at h
  split at h
  · cases h
    rfl
  · split at h
    · cases h
      rfl
    · cases h

/-- A scan ends for a file that does not load. -/
theorem exists_of_declarationsIn_error {mode : ScanMode} {tree : SourceTree}
    {files : List SourceFile} (h : declarationsIn mode tree files = .error e) :
    ∃ file ∈ files, fileDeclarations tree file = .error e := by
  induction files with
  | nil => cases h
  | cons file files ih =>
    have hrest : declarationsIn mode tree files = .error e →
        ∃ file' ∈ file :: files, fileDeclarations tree file' = .error e := fun h =>
      (ih h).imp fun _ hfile => ⟨List.mem_cons_of_mem _ hfile.1, hfile.2⟩
    unfold declarationsIn at h
    split at h
    · next e' hfile =>
      cases h
      exact ⟨file, List.mem_cons_self, hfile⟩
    · exact hrest h
    · exact hrest (map_eq_error_iff.1 h)

/-- A scan ends for a directory that fails or for a file that does not load. -/
theorem isUnknownColumn_of_declarations {mode : ScanMode} {extension : String} {tree : SourceTree}
    (h : Entity.declarations mode extension tree = .error e) : e.isUnknownColumn = false := by
  have hfiles : declarationsIn mode tree (tree.files extension) = .error e →
      e.isUnknownColumn = false := by
    intro h
    obtain ⟨file, -, hfile⟩ := exists_of_declarationsIn_error h
    exact isUnknownColumn_of_fileDeclarations hfile
  unfold Entity.declarations at h
  split at h
  · cases h
    rfl
  · exact hfiles h

/-! ## A whole read -/

theorem keepsTableRules_of_readDeclarations {mode : ScanMode} {r : Report}
    (h : readDeclarations mode declarations = .ok r) : r.KeepsTableRules declarations := by
  obtain ⟨outcomes, hmap, haccount, htables, hskipped, -⟩ := readEntities_eq_ok_iff.1 h
  have hlisted : ∀ o ∈ outcomes, (∀ t ∈ o.tables, t.KeepsRules) ∧ ∀ p ∈ o.pivots, IsPivot p := by
    intro o ho
    obtain ⟨taken, -, hbecomes⟩ := becomes_of_mem_account haccount ho
    cases hbecomes with
    | listed read fresh =>
      obtain ⟨htable, hpivots⟩ := keepsRules_of_readEntity read
      exact ⟨fun t ht => List.mem_singleton.1 ht ▸ htable, hpivots⟩
    | faulty read mild => exact ⟨nofun, nofun⟩
    | repeated read old => exact ⟨nofun, nofun⟩
  have hpivots : ∀ t ∈ newcomers (listedNames outcomes) (outcomes.flatMap (·.pivots)), IsPivot t := by
    intro t ht
    obtain ⟨o, ho, ht⟩ := List.mem_flatMap.1 (newcomers_subset ht)
    exact (hlisted o ho).2 t ht
  refine ⟨fun t ht => ?_, ⟨outcomes, hmap, haccount, htables, hpivots⟩, fun s hs => ?_⟩
  · rw [htables, tablesOf, List.mem_append] at ht
    rcases ht with ht | ht
    · obtain ⟨o, ho, ht⟩ := List.mem_flatMap.1 ht
      exact (hlisted o ho).1 t ht
    · exact (hpivots t ht).keepsRules
  · rcases skipped_cause haccount (hskipped ▸ hs) with hcause | ⟨table, hcause⟩
    · exact hcause.isUnknownColumn_eq_false
    · rw [hcause]
      rfl

end

/-- **The tables of a read keep the rules.** Each has distinct column names and foreign keys on its
own columns only, and each pivot table joins two tables with two columns. No read fails, and none
skips an entity, because a foreign key stands on a column that its table does not have. -/
theorem read_keeps_table_rules (mode : ScanMode) (extension : String) (tree : SourceTree) :
    (∀ r, readTree mode extension tree = .ok r →
      ∃ found, declarations mode extension tree = .ok found ∧ r.KeepsTableRules found) ∧
    ∀ e, readTree mode extension tree = .error e → e.isUnknownColumn = false := by
  constructor
  · intro r h
    obtain ⟨found, hfound, hread⟩ := bind_eq_ok_iff.1 h
    exact ⟨found, hfound, keepsTableRules_of_readDeclarations hread⟩
  · intro e h
    rcases bind_eq_error_iff.1 h with h | ⟨found, -, h⟩
    · exact isUnknownColumn_of_declarations h
    · obtain ⟨d, -, p, hadd, -⟩ := exists_of_readEntities_error h
      rcases addEntity_error hadd with hread | ⟨table, rfl⟩
      · exact (unreadable_of_readEntity hread).isUnknownColumn_eq_false
      · rfl

/-! ## Names that differ in case only -/

/-- Posts whose tags stand in a pivot table with two spellings of one name, and tags that cannot be
read, since two of their columns have one name. -/
def spelledTwice : SourceTree where
  root := "root"
  entries :=
    [("blog.rs", .file (.ok "#[orm(table = \x22posts\x22)]
struct Post \x7b
    #[orm(many_to_many(target = \x22Tag\x22), join_table(join_column(name = \x22TAGS_ID\x22)))]
    tags: Vec<Tag>,
\x7d

#[orm(table = \x22tags\x22)]
struct Tag \x7b
    #[orm(column)]
    id: i64,
    #[orm(column(name = \x22id\x22))]
    key: i64,
\x7d
"))]

theorem read_keeps_table_rules_spelledTwice :
    ∃ r, readTree .lenient "rs" spelledTwice = .ok r ∧
      r.schema.tables.map (fun t => (t.name, t.columns.map (·.name))) =
        [("posts", []), ("posts_tags", ["TAGS_ID", "tags_id"])] ∧
      r.skipped = [⟨"blog::Tag", .violation (.duplicateColumn "tags" "id")⟩] ∧
      ∃ found, declarations .lenient "rs" spelledTwice = .ok found ∧ r.KeepsTableRules found := by
  have hread : (readTree .lenient "rs" spelledTwice).toOption.map (fun r =>
      (r.schema.tables.map (fun t => (t.name, t.columns.map (·.name))), r.skipped)) =
      some ([("posts", []), ("posts_tags", ["TAGS_ID", "tags_id"])],
        [⟨"blog::Tag", .violation (.duplicateColumn "tags" "id")⟩]) := by decide +kernel
  obtain ⟨r, h, hseen⟩ := toOption_map_eq_some_iff.1 hread
  obtain ⟨htables, hskipped⟩ := Prod.mk.inj hseen
  exact ⟨r, h, htables, hskipped, (read_keeps_table_rules .lenient "rs" spelledTwice).1 r h⟩

end Entity

end SchemaSync
