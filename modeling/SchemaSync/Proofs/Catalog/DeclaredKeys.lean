/-
Foreign keys, declared and read back from a catalog.

A catalog reports a delete rule for every foreign key, also for one that was
declared without. The engine's own rule is therefore read as none, so that a
key declared without an action is found again. A key that was declared with
the engine's own rule is not: it is read without it, and the difference adds it
once more and drops it (`introspected_keys_unchanged_iff`).
-/
import SchemaSync.Proofs.Catalog.Introspection
import SchemaSync.Proofs.Change.Subjects

namespace SchemaSync

/-- Whether an action is what an engine does when none is declared. -/
def DeleteAction.isEngineOwn : DeleteAction → Bool
  | restrict | noAction => true
  | _ => false

/-- Whether a change adds or drops a foreign key. -/
def Change.isForeignKeyChange : Change → Bool
  | addForeignKey _ | dropForeignKey _ => true
  | _ => false

namespace Catalog

/-- What the columns of a row that describes a foreign key are called. -/
structure KeyLabels where
  name : String
  column : String
  referencesTable : String
  referencesColumn : String
  deleteRule : String

/-- What they are called in the foreign keys query of a dialect. -/
def keyLabels : Dialect → KeyLabels
  | .mySql =>
    ⟨"CONSTRAINT_NAME", "COLUMN_NAME", "REFERENCED_TABLE_NAME", "REFERENCED_COLUMN_NAME",
      "DELETE_RULE"⟩
  | .postgres =>
    ⟨"constraint_name", "column_name", "referenced_table", "referenced_column", "delete_rule"⟩

/-- The query for the foreign keys of a table. -/
def foreignKeysQuery (name : String) : Dialect → Query
  | .mySql => ⟨MySql.foreignKeysQuery, [name]⟩
  | .postgres => ⟨Postgres.foreignKeysQuery, [name]⟩

/-- The foreign key that a row of the foreign keys query describes. -/
def readForeignKey : Dialect → Row → Except Error ForeignKey
  | .mySql => MySql.readForeignKey
  | .postgres => Postgres.readForeignKey

/-- A row that reports a declared foreign key, under any constraint name. The rule is the declared
one, or the engine's own, under either name, when none is declared. -/
structure ReportsKey (d : Dialect) (fk : ForeignKey) (row : Row) : Prop where
  name : ∃ name, row.get? (keyLabels d).name = some name
  column : row.get? (keyLabels d).column = some fk.column
  referencesTable : row.get? (keyLabels d).referencesTable = some fk.referencesTable
  referencesColumn : row.get? (keyLabels d).referencesColumn = some fk.referencesColumn
  deleteRule : ∃ rule : DeleteAction, row.get? (keyLabels d).deleteRule = some rule.sql ∧
    (fk.onDelete = some rule ∨ fk.onDelete = none ∧ rule.isEngineOwn = true)

/-- The columns that are read for a table. -/
inductive ReadsColumns (c : Connection) (name : String) (columns : List Column) :
    Dialect → Prop where
  | mySql {rows} (answer : c (columnsQuery name .mySql) = .ok rows) (listed : rows ≠ [])
      (read : rows.mapM (MySql.readColumn (MySql.columnsQuery name)) = .ok columns) :
      ReadsColumns c name columns .mySql
  | postgres {rows keyRows keys} (answer : c (columnsQuery name .postgres) = .ok rows)
      (listed : rows ≠ []) (keyAnswer : c ⟨Postgres.keysQuery, [name]⟩ = .ok keyRows)
      (readKeys : keyRows.mapM Postgres.readKey = .ok keys)
      (read : rows.mapM (Postgres.readColumn keys) = .ok columns) :
      ReadsColumns c name columns .postgres

/-- A catalog that reports the foreign keys of a declared table and no others, and for each the
column that it is on. -/
structure ReportsKeys (d : Dialect) (c : Connection) (t : Table) : Prop where
  columns : ∃ columns, ReadsColumns c t.name columns d ∧ (columns.map (·.name)).Nodup ∧
    ∀ fk ∈ t.foreignKeys, fk.column ∈ columns.map (·.name)
  keys : ∃ rows, c (foreignKeysQuery t.name d) = .ok rows ∧
    (∀ fk ∈ t.foreignKeys, ∃ row ∈ rows, ReportsKey d fk row) ∧
    ∀ row ∈ rows, ∃ fk ∈ t.foreignKeys, ReportsKey d fk row

section

variable {d : Dialect} {c : Connection} {name : String}

/-! ## Delete rules -/

theorem deleteRule?_sql (a : DeleteAction) :
    deleteRule? (some a.sql) = if a.isEngineOwn then none else some a := by
  cases a <;> decide +kernel

/-- A declared action as it is read back. -/
def readBack (declared : Option DeleteAction) : Option DeleteAction :=
  declared.filter fun a => !a.isEngineOwn

theorem readBack_readBack (declared : Option DeleteAction) :
    readBack (readBack declared) = readBack declared := by
  simp [readBack]

theorem readBack_eq_self_iff {declared : Option DeleteAction} :
    readBack declared = declared ↔ ∀ a, declared = some a → a.isEngineOwn = false := by
  cases declared with
  | none => simp [readBack]
  | some a => cases h : a.isEngineOwn <;> simp [readBack, h]

/-- A declared foreign key as it is read back. -/
def keyReadBack (fk : ForeignKey) : ForeignKey :=
  { fk with onDelete := readBack fk.onDelete }

theorem readForeignKey_of_reports {fk : ForeignKey} {row : Row} (h : ReportsKey d fk row) :
    ∃ name, readForeignKey d row = .ok { keyReadBack fk with name } := by
  obtain ⟨⟨name, hname⟩, hcolumn, htable, hreferenced, rule, hrule, haction⟩ := h
  have hread : deleteRule? (some rule.sql) = readBack fk.onDelete := by
    rw [deleteRule?_sql]
    rcases haction with hdeclared | ⟨hdeclared, hown⟩
    · rw [hdeclared, readBack, Option.filter_some]
      cases rule.isEngineOwn <;> rfl
    · rw [hdeclared, hown, if_pos rfl]
      rfl
  refine ⟨name, ?_⟩
  cases d with
  | mySql | postgres =>
    simp only [keyLabels] at hname hcolumn htable hreferenced hrule
    simp only [readForeignKey, MySql.readForeignKey, Postgres.readForeignKey, Row.require, hname,
      hcolumn, htable, hreferenced, hrule, hread]
    rfl

theorem sameTarget_of_reports {fk k : ForeignKey} {row : Row} (h : ReportsKey d fk row)
    (hk : readForeignKey d row = .ok k) : k.sameTarget (keyReadBack fk) = true := by
  obtain ⟨name, hname⟩ := readForeignKey_of_reports h
  rw [hname] at hk
  cases hk
  simp [ForeignKey.sameTarget]

/-! ## Tables -/

theorem introspectTable_of_reads {columns : List Column} {keyRows : List Row}
    {foreignKeys : List ForeignKey} (hcolumns : ReadsColumns c name columns d)
    (hdistinct : (columns.map (·.name)).Nodup)
    (hanswer : c (foreignKeysQuery name d) = .ok keyRows)
    (hread : keyRows.mapM (readForeignKey d) = .ok foreignKeys)
    (hkeys : ∀ fk ∈ foreignKeys, fk.column ∈ columns.map (·.name)) :
    (introspectTable d c name).result = .ok (some { name, columns, foreignKeys }) := by
  have hset : Table.setColumns { name } columns = .ok { name, columns } :=
    Table.setColumns_eq_ok_iff.2 ⟨hdistinct, rfl⟩
  have hadd : foreignKeys.foldlM Table.addForeignKey { name, columns } =
      .ok { name, columns, foreignKeys } :=
    Table.foldlM_addForeignKey_eq_ok_iff.2 ⟨hkeys, rfl⟩
  cases hcolumns with
  | mySql answer listed read =>
    simp only [introspectTable, MySql.readTable, Traced.result_bind, bind_eq_ok_iff,
      result_fetch_eq_ok_iff]
    refine ⟨_, answer, ?_⟩
    rw [if_neg (by simpa using listed)]
    simp only [Traced.result_bind, Traced.result_ofResult, Traced.result_pure, bind_eq_ok_iff,
      result_fetch_eq_ok_iff, Error.ofSchema_eq_ok_iff]
    exact ⟨_, read, _, hset, _, hanswer, _, hread, _, hadd, rfl⟩
  | postgres answer listed keyAnswer readKeys read =>
    simp only [introspectTable, Postgres.readTable, Traced.result_bind, bind_eq_ok_iff,
      result_fetch_eq_ok_iff]
    refine ⟨_, answer, ?_⟩
    rw [if_neg (by simpa using listed)]
    simp only [Traced.result_bind, Traced.result_ofResult, Traced.result_pure, bind_eq_ok_iff,
      result_fetch_eq_ok_iff, Error.ofSchema_eq_ok_iff]
    exact ⟨_, keyAnswer, _, readKeys, _, read, _, hset, _, hanswer, _, hread, _, hadd, rfl⟩

/-- The table that is read has, up to constraint names, the declared foreign keys as they are read
back, and no others. -/
theorem exists_introspectTable {t : Table} (h : ReportsKeys d c t) :
    ∃ u, (introspectTable d c t.name).result = .ok (some u) ∧
      (∀ fk ∈ t.foreignKeys, ∃ k ∈ u.foreignKeys, k.sameTarget (keyReadBack fk) = true) ∧
      ∀ k ∈ u.foreignKeys, ∃ fk ∈ t.foreignKeys, k.sameTarget (keyReadBack fk) = true := by
  obtain ⟨⟨columns, hcolumns, hdistinct, hown⟩, rows, hanswer, hdeclared, hreported⟩ := h
  have hread : ∀ row ∈ rows, ∃ k, readForeignKey d row = .ok k := by
    intro row hrow
    obtain ⟨fk, -, hfk⟩ := hreported row hrow
    obtain ⟨name, hname⟩ := readForeignKey_of_reports hfk
    exact ⟨_, hname⟩
  obtain ⟨keys, hkeys, hall⟩ := exists_mapM_eq_ok hread
  have hback : ∀ k ∈ keys, ∃ fk ∈ t.foreignKeys, k.sameTarget (keyReadBack fk) = true := by
    intro k hk
    obtain ⟨row, hrow, hrk⟩ := exists_of_mem_mapM hkeys hk
    obtain ⟨fk, hfk, hreports⟩ := hreported row hrow
    exact ⟨fk, hfk, sameTarget_of_reports hreports hrk⟩
  refine ⟨_, introspectTable_of_reads hcolumns hdistinct hanswer hkeys ?_, ?_, hback⟩
  · intro k hk
    obtain ⟨fk, hfk, hsame⟩ := hback k hk
    rw [(sameTarget_iff.1 hsame).1]
    exact hown fk hfk
  · intro fk hfk
    obtain ⟨row, hrow, hreports⟩ := hdeclared fk hfk
    obtain ⟨k, hk, hrk⟩ := hall row hrow
    exact ⟨k, hk, sameTarget_of_reports hreports hrk⟩

/-! ## Differences -/

/-- Against keys that are read back there is no difference exactly where every key is read back as
itself. -/
theorem diffForeignKeys_readBack_eq_nil_iff {desired current : List ForeignKey}
    (hall : ∀ fk ∈ desired, ∃ k ∈ current, k.sameTarget (keyReadBack fk) = true)
    (hback : ∀ k ∈ current, ∃ fk ∈ desired, k.sameTarget (keyReadBack fk) = true) :
    diffForeignKeys desired current = [] ↔ ∀ fk ∈ desired, readBack fk.onDelete = fk.onDelete := by
  rw [diffForeignKeys_eq_nil_iff]
  constructor
  · rintro ⟨hfound, -⟩ fk hfk
    obtain ⟨k, hk, hsame⟩ := hfound fk hfk
    obtain ⟨fk', -, hsame'⟩ := hback k hk
    -- A key that is found has an action that was read, and reading it again changes nothing.
    have haction : fk.onDelete = readBack fk'.onDelete :=
      (sameTarget_iff.1 hsame).2.2.2.trans (sameTarget_iff.1 hsame').2.2.2
    rw [haction, readBack_readBack]
  · intro hself
    have hsame : ∀ fk ∈ desired, ∀ k : ForeignKey,
        k.sameTarget (keyReadBack fk) = true → k.sameTarget fk = true := by
      intro fk hfk k hk
      rwa [keyReadBack, hself fk hfk] at hk
    refine ⟨fun fk hfk => ?_, fun k hk => ?_⟩
    · obtain ⟨k, hk, hkfk⟩ := hall fk hfk
      exact ⟨k, hk, sameTarget_comm.trans (hsame fk hfk k hkfk)⟩
    · obtain ⟨fk, hfk, hkfk⟩ := hback k hk
      exact ⟨fk, hfk, hsame fk hfk k hkfk⟩

theorem foreignKeysUnchanged_iff {t u : Table} :
    (∀ change ∈ diffTable t u, change.isForeignKeyChange = false) ↔
      diffForeignKeys t.foreignKeys u.foreignKeys = [] := by
  have hcolumns : ∀ change ∈ diffColumns t.columns u.columns,
      change.isForeignKeyChange = false := by
    intro change h
    rcases mem_diffColumns.1 h with ⟨_, _, _, rfl⟩ | ⟨_, _, _, rfl⟩ | ⟨_, _, _, _, _, rfl⟩ <;> rfl
  have hkeys : ∀ change ∈ diffForeignKeys t.foreignKeys u.foreignKeys,
      change.isForeignKeyChange = true := by
    intro change h
    rcases mem_diffForeignKeys.1 h with ⟨_, _, _, rfl⟩ | ⟨_, _, _, rfl⟩ <;> rfl
  rw [diffTable, List.forall_mem_append, List.eq_nil_iff_forall_not_mem]
  constructor
  · rintro ⟨-, hnone⟩ change h
    exact Bool.false_ne_true ((hnone change h).symm.trans (hkeys change h))
  · intro hnone
    exact ⟨hcolumns, fun change h => absurd h (hnone change)⟩

/--
**Foreign keys read back, but for those that declare the engine's own rule.** Where a catalog
reports the foreign keys of a declared table, each with its columns, its referenced table and the
rule that it was declared with, under any constraint names and with the engine's own rule where
none was declared, the table is read, and it differs from the declared one in no foreign key
exactly when none was declared with the engine's own rule.
-/
theorem introspected_keys_unchanged_iff (d : Dialect) (c : Connection) (t : Table)
    (h : ReportsKeys d c t) :
    ∃ u, (introspectTable d c t.name).result = .ok (some u) ∧
      ((∀ change ∈ diffTable t u, change.isForeignKeyChange = false) ↔
        ∀ fk ∈ t.foreignKeys, ∀ a, fk.onDelete = some a → a.isEngineOwn = false) := by
  obtain ⟨u, hu, hall, hback⟩ := exists_introspectTable h
  refine ⟨u, hu, ?_⟩
  rw [foreignKeysUnchanged_iff, diffForeignKeys_readBack_eq_nil_iff hall hback]
  simp only [readBack_eq_self_iff]

end

/-! ## Posts with an author and an editor -/

/-- The key of posts on their author. -/
def authorKey (action : DeleteAction) : ForeignKey :=
  { name := "fk_posts_author_id", column := "author_id", referencesTable := "users"
    referencesColumn := "id", onDelete := some action }

/-- The key of posts on their editor, with no action declared. -/
def editorKey : ForeignKey :=
  { name := "fk_posts_editor_id", column := "editor_id", referencesTable := "users"
    referencesColumn := "id" }

/-- Posts with both keys. -/
def editedPosts (action : DeleteAction) : Table :=
  { name := "posts"
    columns :=
      [{ name := "author_id", type := .integer }, { name := "editor_id", type := .integer }]
    foreignKeys := [authorKey action, editorKey] }

/-- The rows that describe the columns of posts. -/
def postsColumnRows : List Row :=
  ["author_id", "editor_id"].map fun n =>
    ⟨[("Field", some n), ("Type", some "int"), ("Null", some "NO"), ("Key", some "MUL")]⟩

/-- A row that describes a key of posts on users. -/
def postsKeyRow (name column rule : String) : Row :=
  ⟨[("CONSTRAINT_NAME", some name), ("COLUMN_NAME", some column),
    ("REFERENCED_TABLE_NAME", some "users"), ("REFERENCED_COLUMN_NAME", some "id"),
    ("DELETE_RULE", some rule)]⟩

/-- A catalog with posts and names of its own for their keys. -/
def editedPostsCatalog (action : DeleteAction) : Connection := fun q =>
  if q = columnsQuery "posts" .mySql then .ok postsColumnRows
  else if q = foreignKeysQuery "posts" .mySql then
    .ok [postsKeyRow "posts_ibfk_1" "author_id" action.sql,
      postsKeyRow "posts_ibfk_2" "editor_id" "NO ACTION"]
  else .error "access denied"

theorem reportsKeys_editedPosts (action : DeleteAction) :
    ReportsKeys .mySql (editedPostsCatalog action) (editedPosts action) := by
  have hauthor : ReportsKey .mySql (authorKey action)
      (postsKeyRow "posts_ibfk_1" "author_id" action.sql) :=
    ⟨⟨_, rfl⟩, rfl, rfl, rfl, action, rfl, .inl rfl⟩
  have heditor : ReportsKey .mySql editorKey (postsKeyRow "posts_ibfk_2" "editor_id" "NO ACTION") :=
    ⟨⟨_, rfl⟩, rfl, rfl, rfl, .noAction, rfl, .inr ⟨rfl, rfl⟩⟩
  have hread :
      (postsColumnRows.mapM (MySql.readColumn (MySql.columnsQuery "posts"))).toOption.map id =
        some (editedPosts action).columns := by
    show _ = some [_, _]
    decide +kernel
  obtain ⟨columns, hcolumns, rfl⟩ := toOption_map_eq_some_iff.1 hread
  have hkeys : editedPostsCatalog action (foreignKeysQuery "posts" .mySql) = .ok _ :=
    (if_neg (by decide +kernel)).trans (if_pos rfl)
  have hrows : postsColumnRows ≠ [] := by simp [postsColumnRows]
  refine ⟨⟨_, .mySql (if_pos rfl) hrows hcolumns, ?_, ?_⟩, _, hkeys, ?_, ?_⟩
  · simp [editedPosts]
  · simp [editedPosts, authorKey, editorKey]
  · simp [editedPosts, hauthor, heditor]
  · simp [editedPosts, hauthor, heditor]

theorem introspected_keys_unchanged_editedPosts :
    ReportsKeys .mySql (editedPostsCatalog .cascade) (editedPosts .cascade) ∧
      ∃ u, (introspectTable .mySql (editedPostsCatalog .cascade) "posts").result = .ok (some u) ∧
        ∀ change ∈ diffTable (editedPosts .cascade) u, change.isForeignKeyChange = false := by
  have h := reportsKeys_editedPosts .cascade
  obtain ⟨u, hu, hiff⟩ :=
    introspected_keys_unchanged_iff .mySql (editedPostsCatalog .cascade) (editedPosts .cascade) h
  exact ⟨h, u, hu, hiff.2 (by decide)⟩

/-- A key that is declared with RESTRICT and reported with RESTRICT is added once more, and the one
that is there is dropped. -/
theorem not_unchanged_restrictedPosts :
    ReportsKeys .mySql (editedPostsCatalog .restrict) (editedPosts .restrict) ∧
      ∃ u, (introspectTable .mySql (editedPostsCatalog .restrict) "posts").result = .ok (some u) ∧
        diffTable (editedPosts .restrict) u =
          [.addForeignKey (authorKey .restrict),
            .dropForeignKey { keyReadBack (authorKey .restrict) with name := "posts_ibfk_1" }] := by
  refine ⟨reportsKeys_editedPosts .restrict, ?_⟩
  have hread :
      (introspectTable .mySql (editedPostsCatalog .restrict) "posts").result.toOption.map
        (·.map (diffTable (editedPosts .restrict))) =
      some (some [.addForeignKey (authorKey .restrict),
        .dropForeignKey { keyReadBack (authorKey .restrict) with name := "posts_ibfk_1" }]) := by
    decide +kernel
  obtain ⟨o, ho, hdiff⟩ := toOption_map_eq_some_iff.1 hread
  obtain ⟨u, rfl, hchanges⟩ := Option.map_eq_some_iff.1 hdiff
  exact ⟨u, ho, hchanges⟩

end Catalog

end SchemaSync
