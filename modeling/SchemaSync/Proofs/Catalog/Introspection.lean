/-
What the schema of a database holds, whatever its catalog answers.

A connection is any function from queries to rows, so the rows may lack values,
repeat columns or name keys on columns that are not there. Each of these is an
error of the one table that they are about (`introspectTable_some`), and an
error of a table ends the introspection. Otherwise the schema has the tables that
the rows of the tables query list (`listedNames`), in this order and each as it is
read on its own (`introspect_holds_listed`).
-/
import SchemaSync.Catalog.Introspection
import SchemaSync.Proofs.Schema.Checked
import Mathlib.Data.List.Nodup

namespace SchemaSync.Catalog

/-- The query for the table names. -/
def tablesQuery : Dialect → Query
  | .mySql => ⟨MySql.tablesQuery, []⟩
  | .postgres => ⟨Postgres.tablesQuery, []⟩

/-- The query for the columns of a table. -/
def columnsQuery (name : String) : Dialect → Query
  | .mySql => ⟨MySql.columnsQuery name, []⟩
  | .postgres => ⟨Postgres.columnsQuery, [name]⟩

/-- The name of the table that a row of the tables query lists, if it has one: the first value, and
in Postgres that of a column. -/
def listedName? (row : Row) : Dialect → Option String
  | .mySql => row.first?
  | .postgres => row.get? "table_name"

/-- The names that the rows of the tables query list, in this order. -/
def listedNames (d : Dialect) (rows : List Row) : List String :=
  rows.filterMap fun row => listedName? row d

/-- Whether the catalog has rows for the columns of a table. -/
def HasColumns (d : Dialect) (c : Connection) (name : String) : Prop :=
  ∃ rows, c (columnsQuery name d) = .ok rows ∧ rows ≠ []

/-- The table that is read under a name, none where there is none or an error. -/
def table? (d : Dialect) (c : Connection) (name : String) : Option Table :=
  (introspectTable d c name).result.toOption.join

section

variable {d : Dialect} {c : Connection} {name : String} {s s' : Schema} {t : Table}

/-! ## Queries -/

theorem result_fetch_eq_ok_iff {sql : String} {parameters : List String} {rows : List Row} :
    (fetch c sql parameters).result = .ok rows ↔ c ⟨sql, parameters⟩ = .ok rows := by
  unfold fetch
  dsimp only
  split
  · next answer h => simp [h]
  · next reason h => simp [h]

theorem result_tableNames_eq_ok_iff {names : List String} :
    (tableNames d c).result = .ok names ↔
      ∃ rows, c (tablesQuery d) = .ok rows ∧ listedNames d rows = names := by
  cases d with
  | mySql =>
    simp [tableNames, MySql.tableNames, bind_eq_ok_iff, result_fetch_eq_ok_iff, tablesQuery,
      listedNames, listedName?]
  | postgres =>
    simp [tableNames, Postgres.tableNames, bind_eq_ok_iff, result_fetch_eq_ok_iff, tablesQuery,
      listedNames, listedName?]

/-! ## One table -/

/-- A read that gets rows for columns builds a table of as many columns. -/
inductive IsRead (name : String) (rows : List Row) : Option Table → Prop where
  | absent (unlisted : rows = []) : IsRead name rows none
  | built {columns foreignKeys t} (listed : rows ≠ []) (length : columns.length = rows.length)
      (build : Table.build name columns foreignKeys = .ok t) : IsRead name rows (some t)

theorem MySql.readTable_cases {o : Option Table} (h : (MySql.readTable c name).result = .ok o) :
    ∃ rows, c ⟨MySql.columnsQuery name, []⟩ = .ok rows ∧ IsRead name rows o := by
  unfold MySql.readTable at h
  simp only [Traced.result_bind, bind_eq_ok_iff, result_fetch_eq_ok_iff] at h
  obtain ⟨rows, hrows, h⟩ := h
  refine ⟨rows, hrows, ?_⟩
  split at h
  · next hnone =>
    cases h
    exact .absent (List.isEmpty_iff.1 hnone)
  · next hsome =>
    simp only [Traced.result_bind, Traced.result_ofResult, Traced.result_pure, bind_eq_ok_iff,
      Error.ofSchema_eq_ok_iff] at h
    obtain ⟨columns, hcolumns, u, hu, keyRows, -, foreignKeys, -, t, ht, h⟩ := h
    cases h
    exact .built (fun he => hsome (List.isEmpty_iff.2 he)) (length_of_mapM hcolumns)
      (bind_eq_ok_iff.2 ⟨u, hu, ht⟩)

theorem Postgres.readTable_cases {o : Option Table}
    (h : (Postgres.readTable c name).result = .ok o) :
    ∃ rows, c ⟨Postgres.columnsQuery, [name]⟩ = .ok rows ∧ IsRead name rows o := by
  unfold Postgres.readTable at h
  simp only [Traced.result_bind, bind_eq_ok_iff, result_fetch_eq_ok_iff] at h
  obtain ⟨rows, hrows, h⟩ := h
  refine ⟨rows, hrows, ?_⟩
  split at h
  · next hnone =>
    cases h
    exact .absent (List.isEmpty_iff.1 hnone)
  · next hsome =>
    simp only [Traced.result_bind, Traced.result_ofResult, Traced.result_pure, bind_eq_ok_iff,
      Error.ofSchema_eq_ok_iff] at h
    obtain ⟨keyRows, -, keys, -, columns, hcolumns, u, hu, keyRows, -, foreignKeys, -, t, ht, h⟩ := h
    cases h
    exact .built (fun he => hsome (List.isEmpty_iff.2 he)) (length_of_mapM hcolumns)
      (bind_eq_ok_iff.2 ⟨u, hu, ht⟩)

theorem introspectTable_cases {o : Option Table}
    (h : (introspectTable d c name).result = .ok o) :
    ∃ rows, c (columnsQuery name d) = .ok rows ∧ IsRead name rows o := by
  cases d with
  | mySql => exact MySql.readTable_cases h
  | postgres => exact Postgres.readTable_cases h

/-- **A table that is read has its own name, a column at least, and both rules of tables.** -/
theorem introspectTable_some (h : (introspectTable d c name).result = .ok (some t)) :
    HasColumns d c name ∧ t.name = name ∧ t.columns ≠ [] ∧ t.KeepsRules := by
  obtain ⟨rows, hrows, hread⟩ := introspectTable_cases h
  cases hread with
  | built hsome hlength hbuild =>
    have hrules := Table.keepsRules_of_build hbuild
    obtain ⟨-, -, rfl⟩ := Table.build_eq_ok_iff.1 hbuild
    refine ⟨⟨rows, hrows, hsome⟩, rfl, fun hnone => hsome ?_, hrules⟩
    exact List.eq_nil_of_length_eq_zero (hlength.symm.trans (congrArg List.length hnone))

/-- There is no table under a name exactly when the catalog has no columns for it. -/
theorem introspectTable_none (h : (introspectTable d c name).result = .ok none) :
    ¬ HasColumns d c name := by
  obtain ⟨rows, hrows, hread⟩ := introspectTable_cases h
  cases hread with
  | absent hnone =>
    rintro ⟨rows', hrows', hsome⟩
    rw [hrows] at hrows'
    cases hrows'
    exact hsome hnone

theorem table?_eq_some_iff :
    table? d c name = some t ↔ (introspectTable d c name).result = .ok (some t) := by
  unfold table?
  cases (introspectTable d c name).result <;> simp [Except.toOption]

/-- Where the read succeeds, there is a table exactly when there are columns. -/
theorem isSome_table?_iff {o : Option Table} (h : (introspectTable d c name).result = .ok o) :
    (table? d c name).isSome = true ↔ HasColumns d c name := by
  cases o with
  | none =>
    have hnone : table? d c name = none := by simp [table?, h, Except.toOption]
    simp [hnone, introspectTable_none h]
  | some t => simp [table?_eq_some_iff.2 h, (introspectTable_some h).1]

theorem name_of_table? (h : table? d c name = some t) : t.name = name :=
  (introspectTable_some (table?_eq_some_iff.1 h)).2.1

/-! ## Tables one after the other -/

/-- A table is added behind the others; a name without a table adds nothing. -/
theorem addTable_eq_ok_iff :
    (addTable d c s name).result = .ok s' ↔
      (∃ o, (introspectTable d c name).result = .ok o) ∧
        s'.tables = s.tables ++ (table? d c name).toList := by
  unfold addTable table?
  rw [Traced.result_bind]
  cases h : (introspectTable d c name).result with
  | error e => simp [bind, Except.bind]
  | ok o =>
    cases o with
    | none =>
      have hsame : s = s' ↔ s'.tables = s.tables :=
        ⟨fun he => he ▸ rfl, fun he => Schema.ext_tables he.symm⟩
      simp [bind, Except.bind, Except.toOption, hsame]
    | some t =>
      simp [bind, Except.bind, Except.toOption, Error.ofSchema_eq_ok_iff,
        Schema.insert_eq_ok_iff_tables]

/-- Tables are added one after the other if each can be read and no two have one name, which is part
of there being such a schema. -/
theorem foldlM_addTable_eq_ok_iff {names : List String} :
    (names.foldlM (addTable d c) s).result = .ok s' ↔
      (∀ n ∈ names, ∃ o, (introspectTable d c n).result = .ok o) ∧
        s'.tables = s.tables ++ names.filterMap (table? d c) := by
  induction names generalizing s with
  | nil =>
    have hsame : s = s' ↔ s'.tables = s.tables :=
      ⟨fun he => he ▸ rfl, fun he => Schema.ext_tables he.symm⟩
    simp [hsame]
  | cons name names ih =>
    have hsplit : (name :: names).filterMap (table? d c) =
        (table? d c name).toList ++ names.filterMap (table? d c) := by
      cases h : table? d c name <;> simp [h]
    rw [List.foldlM_cons, Traced.result_bind, bind_eq_ok_iff, hsplit, List.forall_mem_cons,
      ← List.append_assoc]
    constructor
    · rintro ⟨m, hm, hrest⟩
      obtain ⟨hread, htables⟩ := addTable_eq_ok_iff.1 hm
      obtain ⟨hreads, hrest⟩ := ih.1 hrest
      exact ⟨⟨hread, hreads⟩, htables ▸ hrest⟩
    · rintro ⟨⟨hread, hreads⟩, htables⟩
      -- The names of `s'` are distinct, so the tables in front are a schema by themselves.
      have hdistinct := s'.distinct
      rw [htables, List.map_append, List.nodup_append] at hdistinct
      exact ⟨⟨s.tables ++ (table? d c name).toList, hdistinct.1⟩,
        addTable_eq_ok_iff.2 ⟨hread, rfl⟩, ih.2 ⟨hreads, htables⟩⟩

theorem map_name_filterMap_table? (names : List String) :
    (names.filterMap (table? d c)).map (·.name) = names.filter fun n => (table? d c n).isSome := by
  induction names with
  | nil => rfl
  | cons name names ih =>
    cases h : table? d c name with
    | none => simp [h, ih]
    | some t => simp [h, ih, name_of_table? h]

/-! ## A whole database -/

theorem introspect_eq_ok_iff {migrationsTable : String} :
    (introspect d c migrationsTable).result = .ok s ↔
      ∃ rows, c (tablesQuery d) = .ok rows ∧
        (∀ n ∈ listedNames d rows, n ≠ migrationsTable →
          ∃ o, (introspectTable d c n).result = .ok o) ∧
        s.tables = ((listedNames d rows).filter (· ≠ migrationsTable)).filterMap (table? d c) := by
  unfold introspect
  simp only [Traced.result_bind, bind_eq_ok_iff, foldlM_addTable_eq_ok_iff, List.mem_filter,
    decide_eq_true_eq, and_imp, Schema.empty, List.nil_append, result_tableNames_eq_ok_iff]
  constructor
  · rintro ⟨_, ⟨rows, hrows, rfl⟩, hreads⟩
    exact ⟨rows, hrows, hreads⟩
  · rintro ⟨rows, hrows, hreads⟩
    exact ⟨_, ⟨rows, hrows, rfl⟩, hreads⟩

/-- Two tables have one name exactly when a name that has a table is listed twice. -/
theorem not_nodup_iff {names : List String} {migrationsTable : String} :
    ¬ (((names.filter (· ≠ migrationsTable)).filterMap (table? d c)).map (·.name)).Nodup ↔
      ∃ n, n ≠ migrationsTable ∧ 1 < names.count n ∧ (table? d c n).isSome = true := by
  rw [map_name_filterMap_table?, List.filter_filter, List.nodup_iff_count_le_one]
  simp only [not_forall, Nat.not_le]
  refine exists_congr fun n => ?_
  by_cases hn : (table? d c n).isSome = true ∧ n ≠ migrationsTable
  · rw [List.count_filter (by simpa using hn)]
    simp [hn]
  · rw [List.count_eq_zero.2 fun hmem => hn (by simpa using (List.mem_filter.1 hmem).2)]
    refine iff_of_false (Nat.not_lt_zero 1) ?_
    rintro ⟨hne, -, hsome⟩
    exact hn ⟨hsome, hne⟩

theorem exists_schema_iff {tables : List Table} :
    (∃ s : Schema, s.tables = tables) ↔ (tables.map (·.name)).Nodup :=
  ⟨fun ⟨s, hs⟩ => hs ▸ s.distinct, fun h => ⟨⟨tables, h⟩, rfl⟩⟩

/-- An introspection fails for the tables query, for one of the tables, or for a name that is listed
twice. -/
theorem introspect_error_iff {migrationsTable : String} :
    (∃ e, (introspect d c migrationsTable).result = .error e) ↔
      (∃ reason, c (tablesQuery d) = .error reason) ∨
      ∃ rows, c (tablesQuery d) = .ok rows ∧
        ((∃ n ∈ listedNames d rows, n ≠ migrationsTable ∧
            ∃ e, (introspectTable d c n).result = .error e) ∨
          ∃ n, n ≠ migrationsTable ∧ 1 < (listedNames d rows).count n ∧ HasColumns d c n) := by
  cases hrows : c (tablesQuery d) with
  | error reason => simp [exists_error_iff, introspect_eq_ok_iff, hrows]
  | ok rows =>
    have hok : ¬ ∃ reason, (Except.ok rows : Except String (List Row)) = .error reason := nofun
    simp only [hok, false_or, Except.ok.injEq, exists_eq_left']
    generalize hnames : listedNames d rows = names
    by_cases hreads : ∀ n ∈ names, n ≠ migrationsTable → ∃ o, (introspectTable d c n).result = .ok o
    · have hnone : ¬ ∃ n ∈ names, n ≠ migrationsTable ∧
          ∃ e, (introspectTable d c n).result = .error e := by
        rintro ⟨n, hn, hne, e, he⟩
        obtain ⟨o, ho⟩ := hreads n hn hne
        rw [he] at ho
        cases ho
      rw [exists_error_iff]
      simp only [introspect_eq_ok_iff, hrows, Except.ok.injEq, exists_eq_left', hnames,
        and_iff_right hreads, exists_schema_iff, not_nodup_iff, hnone, false_or]
      refine exists_congr fun n => and_congr_right fun hne => and_congr_right fun htwice => ?_
      obtain ⟨o, ho⟩ := hreads n (List.count_pos_iff.1 (Nat.zero_lt_of_lt htwice)) hne
      exact isSome_table?_iff ho
    · simp only [not_forall] at hreads
      obtain ⟨n, hn, hne, hfail⟩ := hreads
      refine iff_of_true (exists_error_iff.2 ?_) (.inl ⟨n, hn, hne, exists_error_iff.2 hfail⟩)
      rintro ⟨s, hs⟩
      obtain ⟨rows', hrows', hreads, -⟩ := introspect_eq_ok_iff.1 hs
      cases hrows.symm.trans hrows'
      exact hfail (hreads n (hnames ▸ hn) hne)

end

/-- **An introspection holds the tables that the catalog lists, in its order.** The rows of the
tables query list their names. The schema has those under which there are columns, save the table of
migrations, each as it is read on its own, with both rules of tables. The introspection fails exactly
when the tables query or a table cannot be read, or when a table is listed twice. -/
theorem introspect_holds_listed (d : Dialect) (c : Connection) (migrationsTable : String) :
    (∀ s, (introspect d c migrationsTable).result = .ok s →
      ∃ rows, c (tablesQuery d) = .ok rows ∧
        s.tables.map (·.name) = ((listedNames d rows).filter (· ≠ migrationsTable)).filter
          (fun n => (table? d c n).isSome) ∧
        (∀ n ∈ listedNames d rows, n ≠ migrationsTable →
          ((table? d c n).isSome = true ↔ HasColumns d c n)) ∧
        ∀ t ∈ s.tables, (introspectTable d c t.name).result = .ok (some t) ∧
          t.columns ≠ [] ∧ t.KeepsRules) ∧
    ((∃ e, (introspect d c migrationsTable).result = .error e) ↔
      (∃ reason, c (tablesQuery d) = .error reason) ∨
      ∃ rows, c (tablesQuery d) = .ok rows ∧
        ((∃ n ∈ listedNames d rows, n ≠ migrationsTable ∧
            ∃ e, (introspectTable d c n).result = .error e) ∨
          ∃ n, n ≠ migrationsTable ∧ 1 < (listedNames d rows).count n ∧ HasColumns d c n)) := by
  refine ⟨fun s hs => ?_, introspect_error_iff⟩
  obtain ⟨rows, hrows, hreads, htables⟩ := introspect_eq_ok_iff.1 hs
  refine ⟨rows, hrows, by rw [htables, map_name_filterMap_table?], fun n hn hne => ?_,
    fun t ht => ?_⟩
  · obtain ⟨o, ho⟩ := hreads n hn hne
    exact isSome_table?_iff ho
  · rw [htables] at ht
    obtain ⟨n, -, hn⟩ := List.mem_filterMap.1 ht
    have hread := table?_eq_some_iff.1 hn
    obtain ⟨-, rfl, hcolumns, hrules⟩ := introspectTable_some hread
    exact ⟨hread, hcolumns, hrules⟩

/-! ## Small catalogs -/

/-- What a catalog answers with users, with notes that have no columns, and with migrations that may
not be read. -/
def userCatalog : Dialect → Connection
  | .mySql => fun q =>
    if q = tablesQuery .mySql then
      .ok (["migrations", "notes", "users"].map fun n => ⟨[("Tables_in_app", some n)]⟩)
    else if q = columnsQuery "users" .mySql then
      .ok [⟨[("Field", some "id"), ("Type", some "int"), ("Null", some "NO"), ("Key", some "PRI")]⟩]
    else if q = columnsQuery "notes" .mySql then .ok []
    else if q = ⟨MySql.foreignKeysQuery, ["users"]⟩ then .ok []
    else .error "access denied"
  | .postgres => fun q =>
    if q = tablesQuery .postgres then
      .ok (["migrations", "notes", "users"].map fun n => ⟨[("table_name", some n)]⟩)
    else if q = columnsQuery "users" .postgres then
      .ok [⟨[("name", some "id"), ("type", some "integer"), ("nullable", some "false")]⟩]
    else if q = columnsQuery "notes" .postgres then .ok []
    else if q = ⟨Postgres.keysQuery, ["users"]⟩ then
      .ok [⟨[("kind", some "p"), ("column_name", some "id"), ("width", some "1")]⟩]
    else if q = ⟨Postgres.foreignKeysQuery, ["users"]⟩ then .ok []
    else .error "permission denied"

theorem introspect_holds_listed_userCatalog :
    ∀ d, ∃ s rows, (introspect d (userCatalog d) "migrations").result = .ok s ∧
      s.tables = [{ name := "users"
                    columns := [{ name := "id", type := .integer, primaryKey := true }] }] ∧
      userCatalog d (tablesQuery d) = .ok rows ∧
      s.tables.map (·.name) = ((listedNames d rows).filter (· ≠ "migrations")).filter
        (fun n => (table? d (userCatalog d) n).isSome) ∧
      (∀ n ∈ listedNames d rows, n ≠ "migrations" →
        ((table? d (userCatalog d) n).isSome = true ↔ HasColumns d (userCatalog d) n)) ∧
      ∀ t ∈ s.tables, (introspectTable d (userCatalog d) t.name).result = .ok (some t) ∧
        t.columns ≠ [] ∧ t.KeepsRules := by
  intro d
  have hread : (introspect d (userCatalog d) "migrations").result.toOption.map (·.tables) =
      some [{ name := "users"
              columns := [{ name := "id", type := .integer, primaryKey := true }] }] := by
    cases d <;> decide +kernel
  obtain ⟨s, hs, htables⟩ := toOption_map_eq_some_iff.1 hread
  obtain ⟨rows, hrows, hrest⟩ :=
    (introspect_holds_listed d (userCatalog d) "migrations").1 s hs
  exact ⟨s, rows, hs, htables, hrows, hrest⟩

end SchemaSync.Catalog
