/-
When tables that are created by one text differ.

The statement that creates a table does not write everything that a
comparison looks at: not sizes that a type has no use for, not UNIQUE on a
key, not the request for generated values in a key of several columns
(`SameUnwritten`). Tables with one text have no difference exactly when they
agree in all that is left out (`diff_of_createTable_eq_iff`).
-/
import SchemaSync.Proofs.Change.Agreement
import SchemaSync.Proofs.Ddl.Definition

namespace SchemaSync

/-- Two columns that agree in what their definitions leave out, though a comparison looks at it. -/
structure SameUnwritten (keys : KeyPlacement) (c e : Column) : Prop where
  /-- An enum without labels is written as a string. -/
  enum : c.type = .enum ↔ e.type = .enum
  length : c.type ≠ .string → c.type ≠ .binary → c.length = e.length
  precision : c.type ≠ .decimal → c.type ≠ .dateTime → c.type ≠ .dateTimeTz → c.type ≠ .time →
    c.precision = e.precision
  scale : c.type ≠ .decimal → c.scale = e.scale
  enumOptions : c.type ≠ .enum → c.enumOptions = e.enumOptions
  /-- UNIQUE is not written for a key. -/
  unique : c.primaryKey = true → c.unique = e.unique
  /-- Generated values are not written in a table whose key has several columns. -/
  generated : keys = .inTable → c.wantsAutoIncrement = e.wantsAutoIncrement

/-! ## Columns -/

section

variable {keys : KeyPlacement} {c e : Column}

theorem SameUnwritten.of_effective_eq (h : c.effective = e.effective) : SameUnwritten keys c e := by
  have htype : c.type = e.type := (congrArg Column.type h :)
  have hlength := congrArg Column.length h
  have hprecision := congrArg Column.precision h
  have hscale := congrArg Column.scale h
  simp only [Column.effective, ← htype] at hlength hprecision hscale
  exact {
    enum := by rw [htype]
    length := fun hs hb => by simpa [hs, hb] using hlength
    precision := fun hd _ _ _ => by simpa [hd] using hprecision
    scale := fun hd => by simpa [hd] using hscale
    enumOptions := fun _ => (congrArg Column.enumOptions h :)
    unique := fun _ => (congrArg Column.unique h :)
    generated := fun _ => congrArg Column.autoIncrement h }

/-- The sizes of alike types are equal, those that the type uses and those that it does not. -/
theorem SameUnwritten.sizes (h : SameUnwritten keys c e) (htype : c.type = e.type)
    (hused : Catalog.usedSizes c.effective = Catalog.usedSizes e.effective) :
    c.effective.length = e.effective.length ∧ c.effective.precision = e.effective.precision ∧
      c.effective.scale = e.effective.scale := by
  have hc : c.effective.type = c.type := rfl
  have he : e.effective.type = c.type := htype.symm
  refine ⟨?length, ?precision, ?scale⟩
  case length =>
    by_cases hsized : c.type = .string ∨ c.type = .binary
    · have hlength := congrArg Catalog.Sizes.length hused
      rcases hsized with ht | ht <;> simpa only [Catalog.usedSizes, hc, he, ht] using hlength
    · have hlength := h.length (fun ht => hsized (.inl ht)) fun ht => hsized (.inr ht)
      simp only [Column.effective, ← htype, if_neg hsized, hlength]
  case precision =>
    by_cases hsized : c.type = .decimal ∨ c.type = .dateTime ∨ c.type = .dateTimeTz ∨ c.type = .time
    · have hprecision := congrArg Catalog.Sizes.precision hused
      rcases hsized with ht | ht | ht | ht <;>
        simpa only [Catalog.usedSizes, hc, he, ht] using hprecision
    · simp only [not_or] at hsized
      obtain ⟨hdecimal, hdateTime, hdateTimeTz, htime⟩ := hsized
      have hprecision := h.precision hdecimal hdateTime hdateTimeTz htime
      simp only [Column.effective, ← htype, if_neg hdecimal, hprecision]
  case scale =>
    by_cases ht : c.type = .decimal
    · have hscale := congrArg Catalog.Sizes.scale hused
      simpa only [Catalog.usedSizes, hc, he, ht] using hscale
    · simp only [Column.effective, ← htype, if_neg ht, h.scale ht]

theorem enumOptions_eq_of_labels (hc : c.type = .enum) (he : e.type = .enum)
    (h : c.enumLabels? = e.enumLabels?) : c.enumOptions = e.enumOptions := by
  simp only [Column.enumLabels?, hc, he, true_and] at h
  split at h <;> split at h
  · exact Option.some.inj h
  · cases h
  · cases h
  · next hcs hes => rw [Decidable.not_not.1 hcs, Decidable.not_not.1 hes]

theorem SameUnwritten.unique_eq (h : SameUnwritten keys c e) (hkeys : keys ≠ .omitted)
    (hshown : showsUnique keys c = showsUnique keys e) (hkey : c.primaryKey = e.primaryKey) :
    c.unique = e.unique := by
  cases hc : c.primaryKey with
  | true => exact h.unique hc
  | false => simpa [showsUnique, hkeys, hc, ← hkey] using hshown

theorem SameUnwritten.wantsAutoIncrement_eq (h : SameUnwritten keys c e)
    (hshown : showsGenerated keys c = showsGenerated keys e) :
    c.wantsAutoIncrement = e.wantsAutoIncrement := by
  by_cases hkeys : keys = .inTable
  · exact h.generated hkeys
  · simpa [showsGenerated, hkeys] using hshown

/-- Columns whose definitions say the same are equal, spelled out, when the rest is. -/
theorem DefinedAlike.effective_eq_iff (halike : DefinedAlike keys keys c e)
    (hkeys : keys ≠ .omitted) (hkey : c.primaryKey = e.primaryKey) :
    c.effective = e.effective ↔ SameUnwritten keys c e := by
  refine ⟨.of_effective_eq, fun h => ?_⟩
  have htypes : c.type = e.type ∧ Catalog.usedSizes c.effective = Catalog.usedSizes e.effective ∧
      c.enumOptions = e.enumOptions := by
    by_cases hc : c.type = .enum
    · have he := h.enum.1 hc
      have hused : ∀ b : Column, b.type = .enum → Catalog.usedSizes b.effective = {} := by
        intro b hb
        simp [Catalog.usedSizes, Column.effective, hb]
      exact ⟨hc.trans he.symm, by rw [hused c hc, hused e he],
        enumOptions_eq_of_labels hc he halike.labels⟩
    · have he : e.type ≠ .enum := mt h.enum.2 hc
      obtain ⟨htype, hused⟩ := type_eq_of_typeName_eq hc he halike.typeName
      exact ⟨htype, hused, h.enumOptions hc⟩
  obtain ⟨htype, hused, hoptions⟩ := htypes
  obtain ⟨hlength, hprecision, hscale⟩ := h.sizes htype hused
  have hunique := h.unique_eq hkeys halike.unique hkey
  have hgenerated := h.wantsAutoIncrement_eq halike.generated
  simp only [Column.effective, Column.mk.injEq] at hlength hprecision hscale ⊢
  exact ⟨halike.name, htype, hlength, halike.takesNull, hunique, halike.default, hoptions,
    hprecision, hscale, hkey, hgenerated⟩

end

/-! ## Tables -/

/-- Two tables whose statements declare the same, clause by clause. -/
structure DeclaredAlike (t u : Table) : Prop where
  keys : keyPlacement t.columns = keyPlacement u.columns
  columns : List.Forall₂ (DefinedAlike (keyPlacement t.columns) (keyPlacement u.columns))
    t.columns u.columns
  keyNames : keyPlacement t.columns = .inTable →
    t.primaryKey.map (·.name) = u.primaryKey.map (·.name)
  foreignKeys : t.foreignKeys = u.foreignKeys

/-- Whether a clause declares a column. -/
def TableClause.isColumn : TableClause → Bool
  | .column _ _ => true
  | _ => false

/-- Columns are declared first, so alike clauses declare as many of them. -/
theorem forall₂_columns {keys keys' : KeyPlacement} {xs ys : List TableClause}
    (hxs : ∀ x ∈ xs, x.isColumn = false) (hys : ∀ y ∈ ys, y.isColumn = false) :
    ∀ {cs es : List Column},
      List.Forall₂ ClauseAlike (cs.map (.column keys) ++ xs) (es.map (.column keys') ++ ys) →
        List.Forall₂ (DefinedAlike keys keys') cs es ∧ List.Forall₂ ClauseAlike xs ys
  | [], [], h => ⟨.nil, h⟩
  | [], e :: es, h => by
    cases xs with
    | nil => cases h
    | cons x xs =>
      obtain ⟨hx, -⟩ := List.forall₂_cons.1 h
      cases hx
      cases hxs _ List.mem_cons_self
  | c :: cs, [], h => by
    cases ys with
    | nil => cases h
    | cons y ys =>
      obtain ⟨hy, -⟩ := List.forall₂_cons.1 h
      cases hy
      cases hys _ List.mem_cons_self
  | c :: cs, e :: es, h => by
    obtain ⟨hc, hrest⟩ := List.forall₂_cons.1 h
    obtain ⟨hcolumns, hlater⟩ := forall₂_columns hxs hys hrest
    cases hc with
    | column halike => exact ⟨.cons halike hcolumns, hlater⟩

theorem forall₂_foreignKeys {fks fks' : List ForeignKey}
    (h : List.Forall₂ ClauseAlike (fks.map .foreignKey) (fks'.map .foreignKey)) : fks = fks' := by
  rw [List.forall₂_map_left_iff, List.forall₂_map_right_iff] at h
  rw [← List.forall₂_eq_eq_eq]
  exact h.imp fun | _, _, .foreignKey hfk => hfk

theorem keyPlacement_cases (columns : List Column) :
    keyPlacement columns = .inTable ∨ keyPlacement columns = .inColumn := by
  unfold keyPlacement
  split
  · exact .inl rfl
  · exact .inr rfl

/-- The clause for a primary key of several columns. -/
def keyClauses (t : Table) : List TableClause :=
  if keyPlacement t.columns = .inTable then [.primaryKey (t.primaryKey.map (·.name))] else []

theorem tableClauses_eq (t : Table) :
    tableClauses t.columns t.foreignKeys = t.columns.map (.column (keyPlacement t.columns)) ++
      (keyClauses t ++ t.foreignKeys.map .foreignKey) :=
  List.append_assoc _ _ _

theorem isColumn_of_mem_later {t : Table} {clause : TableClause}
    (h : clause ∈ keyClauses t ++ t.foreignKeys.map .foreignKey) : clause.isColumn = false := by
  rw [keyClauses, List.mem_append, List.mem_map] at h
  rcases h with h | ⟨fk, -, rfl⟩
  · split at h
    · rw [List.mem_singleton.1 h]
      rfl
    · cases h
  · rfl

/-- Behind the columns, the key of several columns is told from foreign keys. -/
theorem forall₂_later {t u : Table} (h : List.Forall₂ ClauseAlike
      (keyClauses t ++ t.foreignKeys.map .foreignKey)
      (keyClauses u ++ u.foreignKeys.map .foreignKey)) :
    keyPlacement t.columns = keyPlacement u.columns ∧
      (keyPlacement t.columns = .inTable →
        t.primaryKey.map (·.name) = u.primaryKey.map (·.name)) ∧
      t.foreignKeys = u.foreignKeys := by
  rcases keyPlacement_cases t.columns with ht | ht <;>
    rcases keyPlacement_cases u.columns with hu | hu <;>
    simp only [keyClauses, ht, hu, if_true, if_false, reduceCtorEq, List.singleton_append,
      List.nil_append, List.forall₂_cons] at h
  · obtain ⟨hkey, hforeign⟩ := h
    cases hkey with
    | primaryKey hnames => exact ⟨ht.trans hu.symm, fun _ => hnames, forall₂_foreignKeys hforeign⟩
  · cases hforeign : u.foreignKeys with
    | nil => simp [hforeign] at h
    | cons fk fks =>
      rw [hforeign, List.map_cons, List.forall₂_cons] at h
      cases h.1
  · cases hforeign : t.foreignKeys with
    | nil => simp [hforeign] at h
    | cons fk fks =>
      rw [hforeign, List.map_cons, List.forall₂_cons] at h
      cases h.1
  · refine ⟨ht.trans hu.symm, fun hkeys => ?_, forall₂_foreignKeys h⟩
    rw [ht] at hkeys
    cases hkeys

section

variable {t u : Table}

theorem declaredAlike_of_sql_eq (hname : t.name = u.name)
    (hdefault : ∀ c ∈ t.columns, ∀ e ∈ u.columns, c.name = e.name → c.default = e.default)
    (h : (Statement.create t).sql .mySql = (Statement.create u).sql .mySql) :
    DeclaredAlike t u := by
  have hcolumn : ∀ (v : Table) (keys : KeyPlacement) (c : Column),
      .column keys c ∈ tableClauses v.columns v.foreignKeys → c ∈ v.columns := by
    intro v keys c hc
    rw [tableClauses_eq, List.mem_append] at hc
    rcases hc with hc | hc
    · obtain ⟨c', hc', he⟩ := List.mem_map.1 hc
      cases he
      exact hc'
    · cases isColumn_of_mem_later hc
  have hdefaults : SameDefaults (tableClauses t.columns t.foreignKeys)
      (tableClauses u.columns u.foreignKeys) := fun keys c hc keys' e he =>
    hdefault c (hcolumn t keys c hc) e (hcolumn u keys' e he)
  have htexts : Dialect.mySql.createTable t.name (tableClauses t.columns t.foreignKeys) =
      Dialect.mySql.createTable t.name (tableClauses u.columns u.foreignKeys) :=
    h.trans (by rw [hname]; rfl)
  have hclauses := clauses_of_createTable_eq hdefaults htexts
  rw [tableClauses_eq, tableClauses_eq] at hclauses
  obtain ⟨hcolumns, hlater⟩ := forall₂_columns (fun _ => isColumn_of_mem_later)
    (fun _ => isColumn_of_mem_later) hclauses
  obtain ⟨hkeys, hnames, hforeign⟩ := forall₂_later hlater
  exact ⟨hkeys, hcolumns, hnames, hforeign⟩

namespace DeclaredAlike

theorem names_eq (h : DeclaredAlike t u) : t.columns.map (·.name) = u.columns.map (·.name) := by
  rw [← List.forall₂_eq_eq_eq, List.forall₂_map_left_iff, List.forall₂_map_right_iff]
  exact h.columns.imp fun _ _ halike => halike.name

/-- Columns of one name stand in one place. -/
theorem definedAlike (h : DeclaredAlike t u) (hu : u.DistinctColumns) {c e : Column}
    (hc : c ∈ t.columns) (he : e ∈ u.columns) (hname : c.name = e.name) :
    DefinedAlike (keyPlacement t.columns) (keyPlacement t.columns) c e := by
  have hpartner : ∀ {cs es : List Column},
      List.Forall₂ (DefinedAlike (keyPlacement t.columns) (keyPlacement u.columns)) cs es →
        c ∈ cs → ∃ b ∈ es, DefinedAlike (keyPlacement t.columns) (keyPlacement u.columns) c b := by
    intro cs es hall hc
    induction hall with
    | nil => cases hc
    | cons halike _ ih =>
      rcases List.mem_cons.1 hc with rfl | hc
      · exact ⟨_, List.mem_cons_self, halike⟩
      · obtain ⟨b, hb, halike⟩ := ih hc
        exact ⟨b, List.mem_cons_of_mem _ hb, halike⟩
  obtain ⟨b, hb, halike⟩ := hpartner h.columns hc
  rw [← h.keys] at halike
  rwa [column_eq_of_name_eq hu he hb (hname.symm.trans halike.name)]

theorem primaryKey_eq (h : DeclaredAlike t u) (ht : t.DistinctColumns) (hu : u.DistinctColumns)
    {c e : Column} (hc : c ∈ t.columns) (he : e ∈ u.columns) (hname : c.name = e.name) :
    c.primaryKey = e.primaryKey := by
  -- A key of several columns is declared by their names, a single one in its definition.
  rcases keyPlacement_cases t.columns with hkeys | hkeys
  · have hmem : ∀ {v : Table} {b : Column}, v.DistinctColumns → b ∈ v.columns →
        (b.primaryKey = true ↔ b.name ∈ v.primaryKey.map (·.name)) := by
      intro v b hv hb
      refine ⟨fun hkey => List.mem_map_of_mem (List.mem_filter.2 ⟨hb, hkey⟩), fun hmem => ?_⟩
      obtain ⟨b', hb', hbname⟩ := List.mem_map.1 hmem
      obtain ⟨hb', hkey⟩ := List.mem_filter.1 hb'
      rwa [column_eq_of_name_eq hv hb hb' hbname.symm]
    rw [Bool.eq_iff_iff, hmem ht hc, hmem hu he, h.keyNames hkeys, hname]
  · simpa [showsKey, hkeys] using (h.definedAlike hu hc he hname).key

end DeclaredAlike

theorem tables_ofTables_singleton (t : Table) : (Schema.ofTables [t]).tables = [t] :=
  rfl

theorem agrees_ofTables_singleton (hname : t.name = u.name) :
    (Schema.ofTables [t]).Agrees (.ofTables [u]) ↔ t.Agrees u := by
  constructor
  · intro h
    exact h.tables t (by simp [tables_ofTables_singleton]) u (by simp [tables_ofTables_singleton])
      hname
  · intro h
    refine ⟨by simp [tables_ofTables_singleton, hname], fun t' ht' u' hu' _ => ?_⟩
    rw [tables_ofTables_singleton, List.mem_singleton] at ht' hu'
    rwa [ht', hu']

end

/-- **When a table differs from one that is created by the same text.** Where the statements of two
tables are equal in each dialect, and so are the defaults of their columns, the tables have no
difference exactly when they agree in what the statements leave out. -/
theorem diff_of_createTable_eq_iff (t u : Table) (hname : t.name = u.name) (ht : t.DistinctColumns)
    (hu : u.DistinctColumns)
    (hdefault : ∀ c ∈ t.columns, ∀ e ∈ u.columns, c.name = e.name → c.default = e.default)
    (hsql : ∀ d : Dialect, (Statement.create t).sql d = (Statement.create u).sql d) :
    diff (.ofTables [t]) (.ofTables [u]) = [] ↔
      ∀ c ∈ t.columns, ∀ e ∈ u.columns, c.name = e.name →
        SameUnwritten (keyPlacement t.columns) c e := by
  have halike := declaredAlike_of_sql_eq hname hdefault (hsql .mySql)
  have hkeys : keyPlacement t.columns ≠ .omitted := by
    rcases keyPlacement_cases t.columns with h | h <;> simp [h]
  have heffective : ∀ {c e}, c ∈ t.columns → e ∈ u.columns → c.name = e.name →
      (c.effective = e.effective ↔ SameUnwritten (keyPlacement t.columns) c e) :=
    fun hc he hce => (halike.definedAlike hu hc he hce).effective_eq_iff hkeys
      (halike.primaryKey_eq ht hu hc he hce)
  have hdistinct : (Schema.ofTables [u]).DistinctColumns := by
    intro v hv
    rw [tables_ofTables_singleton, List.mem_singleton] at hv
    rwa [hv]
  rw [diff_eq_nil_iff hdistinct, agrees_ofTables_singleton hname]
  constructor
  · intro h c hc e he hce
    exact (heffective hc he hce).1 (h.effective c hc e he hce)
  · intro h
    exact {
      columnNames := fun name => by rw [halike.names_eq]
      effective := fun c hc e he hce => (heffective hc he hce).2 (h c hc e he hce)
      keysLeft := fun fk hfk => ⟨fk, halike.foreignKeys ▸ hfk, sameTarget_refl fk⟩
      keysRight := fun fk hfk => ⟨fk, halike.foreignKeys ▸ hfk, sameTarget_refl fk⟩ }

/-- Order lines, numbered within their order. -/
def orderLines : Table where
  name := "lines"
  columns :=
    [{ name := "order_id", type := .integer, primaryKey := true },
      { name := "line", type := .integer, primaryKey := true },
      { name := "note", type := .string, nullable := true }]

/-- The table with its implicit lengths and nullability spelled out otherwise. -/
def orderLinesSpelled : Table :=
  { orderLines with
    columns :=
      [{ name := "order_id", type := .integer, primaryKey := true, nullable := true },
        { name := "line", type := .integer, primaryKey := true },
        { name := "note", type := .string, nullable := true, length := some 255,
          autoIncrement := true }] }

/-- The table with a request for line numbers, which is void in a key of two columns. -/
def orderLinesNumbered : Table :=
  { orderLines with
    columns := orderLines.columns.map fun c => { c with autoIncrement := c.name = "line" } }

theorem diff_of_createTable_eq_iff_orderLines :
    orderLines.name = orderLinesSpelled.name ∧ orderLines.DistinctColumns ∧
      orderLinesSpelled.DistinctColumns ∧
      (∀ d : Dialect, (Statement.create orderLines).sql d =
        (Statement.create orderLinesSpelled).sql d) ∧
      diff (.ofTables [orderLines]) (.ofTables [orderLinesSpelled]) = [] ∧
      ∀ c ∈ orderLines.columns, ∀ e ∈ orderLinesSpelled.columns, c.name = e.name →
        SameUnwritten (keyPlacement orderLines.columns) c e := by
  have ht : orderLines.DistinctColumns := by
    unfold Table.DistinctColumns
    decide
  have hu : orderLinesSpelled.DistinctColumns := by
    unfold Table.DistinctColumns
    decide
  have hsql : ∀ d : Dialect, (Statement.create orderLines).sql d =
      (Statement.create orderLinesSpelled).sql d := by
    intro d
    cases d <;> rfl
  have hdiff : diff (.ofTables [orderLines]) (.ofTables [orderLinesSpelled]) = [] := by decide
  exact ⟨rfl, ht, hu, hsql, hdiff,
    (diff_of_createTable_eq_iff orderLines orderLinesSpelled rfl ht hu (by decide) hsql).1 hdiff⟩

/-- A void request for generated values is reported as a change. -/
theorem diff_orderLinesNumbered :
    orderLinesNumbered.name = orderLines.name ∧ orderLinesNumbered.DistinctColumns ∧
      orderLines.DistinctColumns ∧
      (∀ c ∈ orderLinesNumbered.columns, ∀ e ∈ orderLines.columns, c.name = e.name →
        c.default = e.default) ∧
      (∀ d : Dialect, (Statement.create orderLinesNumbered).sql d =
        (Statement.create orderLines).sql d) ∧
      diff (.ofTables [orderLinesNumbered]) (.ofTables [orderLines]) ≠ [] := by
  refine ⟨rfl, ?_, ?_, by decide, fun d => ?_, by decide⟩
  · unfold Table.DistinctColumns
    decide
  · unfold Table.DistinctColumns
    decide
  · cases d <;> rfl

end SchemaSync
