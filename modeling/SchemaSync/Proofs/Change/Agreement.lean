/-
When the difference of two schemas is empty.

`Schema.Agrees` says it without the passes of `diff`: the same table names,
the same column names in each table, equal effective columns, and foreign
keys that find each other by target. `diff_eq_nil_iff` ties the two. All the
work is in the names: each pass of `diff` looks a name up from one side, and
only distinct names let the other side answer for it.
-/
import Mathlib.Data.List.Forall2
import SchemaSync.Change.Diff

namespace SchemaSync

/-- No two columns share a name. -/
def Table.DistinctColumns (t : Table) : Prop :=
  (t.columns.map (·.name)).Nodup

/-- No table has two columns of one name. -/
def Schema.DistinctColumns (s : Schema) : Prop :=
  ∀ t ∈ s.tables, t.DistinctColumns

instance (s : Schema) : Decidable s.DistinctColumns :=
  inferInstanceAs (Decidable (∀ t ∈ s.tables, (t.columns.map (·.name)).Nodup))

/-- Two tables that hold the same columns, spelled out, and the same foreign keys, names aside. -/
structure Table.Agrees (t u : Table) : Prop where
  columnNames : ∀ name, name ∈ t.columns.map (·.name) ↔ name ∈ u.columns.map (·.name)
  effective : ∀ c ∈ t.columns, ∀ e ∈ u.columns, c.name = e.name → c.effective = e.effective
  keysLeft : ∀ fk ∈ t.foreignKeys, ∃ k ∈ u.foreignKeys, fk.sameTarget k
  keysRight : ∀ fk ∈ u.foreignKeys, ∃ k ∈ t.foreignKeys, fk.sameTarget k

/-- Two schemas with the same table names, whose tables of one name agree. -/
structure Schema.Agrees (a b : Schema) : Prop where
  tableNames : ∀ name, name ∈ a.tables.map (·.name) ↔ name ∈ b.tables.map (·.name)
  tables : ∀ t ∈ a.tables, ∀ u ∈ b.tables, t.name = u.name → t.Agrees u

/-! ## Columns by name -/

theorem columnNamed?_eq_none_iff {columns : List Column} {name : String} :
    columnNamed? columns name = none ↔ name ∉ columns.map (·.name) := by
  simp [columnNamed?]

theorem columnNamed?_mem {columns : List Column} {name : String} {c : Column}
    (h : columnNamed? columns name = some c) : c ∈ columns ∧ c.name = name := by
  refine ⟨List.mem_of_find?_eq_some h, ?_⟩
  simpa using List.find?_some h

theorem columnNamed?_eq_some_iff {columns : List Column} (hd : (columns.map (·.name)).Nodup)
    {name : String} {c : Column} :
    columnNamed? columns name = some c ↔ c ∈ columns ∧ c.name = name := by
  refine ⟨columnNamed?_mem, ?_⟩
  rintro ⟨hc, rfl⟩
  induction columns with
  | nil => simp at hc
  | cons b columns ih =>
    simp only [List.map_cons, List.nodup_cons, List.mem_map, not_exists, not_and] at hd
    simp only [List.mem_cons] at hc
    rcases hc with rfl | hc
    · simp [columnNamed?]
    · have hne : (b.name == c.name) = false := by
        simp only [beq_eq_false_iff_ne]
        exact fun he => hd.1 c hc he.symm
      simp only [columnNamed?, List.find?_cons, hne]
      exact ih hd.2 hc

/-! ## Foreign keys by target -/

@[simp] theorem sameTarget_refl (fk : ForeignKey) : fk.sameTarget fk = true := by
  simp [ForeignKey.sameTarget]

theorem sameTarget_iff {a b : ForeignKey} :
    a.sameTarget b = true ↔ a.column = b.column ∧ a.referencesTable = b.referencesTable ∧
      a.referencesColumn = b.referencesColumn ∧ a.onDelete = b.onDelete := by
  simp [ForeignKey.sameTarget, and_assoc]

theorem sameTarget_comm {a b : ForeignKey} : a.sameTarget b = b.sameTarget a := by
  rw [Bool.eq_iff_iff, sameTarget_iff, sameTarget_iff]
  constructor <;> rintro ⟨h₁, h₂, h₃, h₄⟩ <;> exact ⟨h₁.symm, h₂.symm, h₃.symm, h₄.symm⟩

theorem sameTarget_trans {a b c : ForeignKey} (hab : a.sameTarget b = true)
    (hbc : b.sameTarget c = true) : a.sameTarget c = true := by
  rw [sameTarget_iff] at hab hbc ⊢
  obtain ⟨h₁, h₂, h₃, h₄⟩ := hab
  obtain ⟨k₁, k₂, k₃, k₄⟩ := hbc
  exact ⟨h₁.trans k₁, h₂.trans k₂, h₃.trans k₃, h₄.trans k₄⟩

/-! ## Empty differences -/

/-- What the three passes over columns ask for, by look-up and for any lists of columns. -/
theorem diffColumns_eq_nil_iff_lookup {desired current : List Column} :
    diffColumns desired current = [] ↔
      (∀ c ∈ desired, ∃ e, columnNamed? current c.name = some e ∧ c.effective = e.effective) ∧
        ∀ e ∈ current, e.name ∈ desired.map (·.name) := by
  simp only [diffColumns, List.append_eq_nil_iff, List.map_eq_nil_iff, List.filter_eq_nil_iff,
    List.filterMap_eq_nil_iff, Option.isNone_iff_eq_none, columnNamed?_eq_none_iff, not_not]
  constructor
  · rintro ⟨⟨hadd, hdrop⟩, hmodify⟩
    refine ⟨fun c hc => ?_, hdrop⟩
    cases he : columnNamed? current c.name with
    | none => exact absurd (hadd c hc) (columnNamed?_eq_none_iff.1 he)
    | some e =>
      refine ⟨e, rfl, ?_⟩
      have hm := hmodify c hc
      simp only [he] at hm
      by_contra hne
      simp [hne] at hm
  · rintro ⟨hleft, hright⟩
    refine ⟨⟨fun c hc => ?_, hright⟩, fun c hc => ?_⟩
    · obtain ⟨e, he, -⟩ := hleft c hc
      obtain ⟨hmem, hname⟩ := columnNamed?_mem he
      exact hname ▸ List.mem_map_of_mem hmem
    · obtain ⟨e, he, heq⟩ := hleft c hc
      simp [he, heq]

theorem diffColumns_eq_nil_iff {desired current : List Column}
    (hc : (current.map (·.name)).Nodup) :
    diffColumns desired current = [] ↔
      (∀ name, name ∈ desired.map (·.name) ↔ name ∈ current.map (·.name)) ∧
        ∀ c ∈ desired, ∀ e ∈ current, c.name = e.name → c.effective = e.effective := by
  rw [diffColumns_eq_nil_iff_lookup]
  constructor
  · rintro ⟨hleft, hright⟩
    refine ⟨fun name => ⟨fun h => ?_, fun h => ?_⟩, fun c hcm e hem hname => ?_⟩
    · obtain ⟨c, hcm, rfl⟩ := List.mem_map.1 h
      obtain ⟨e, he, -⟩ := hleft c hcm
      obtain ⟨hem, hname⟩ := columnNamed?_mem he
      exact hname ▸ List.mem_map_of_mem hem
    · obtain ⟨e, hem, rfl⟩ := List.mem_map.1 h
      exact hright e hem
    · obtain ⟨e', he', heq⟩ := hleft c hcm
      have he : columnNamed? current c.name = some e :=
        (columnNamed?_eq_some_iff hc).2 ⟨hem, hname.symm⟩
      rw [he, Option.some.injEq] at he'
      exact he' ▸ heq
  · rintro ⟨hnames, heff⟩
    refine ⟨fun c hcm => ?_, fun e hem => (hnames e.name).2 (List.mem_map_of_mem hem)⟩
    obtain ⟨e, hem, hname⟩ := List.mem_map.1 ((hnames c.name).1 (List.mem_map_of_mem hcm))
    exact ⟨e, (columnNamed?_eq_some_iff hc).2 ⟨hem, hname⟩, heff c hcm e hem hname.symm⟩

/-- Two columns of one name differ exactly if their effective definitions do. -/
theorem diffColumns_singleton_eq_nil_iff {c e : Column} (h : c.name = e.name) :
    diffColumns [c] [e] = [] ↔ c.effective = e.effective := by
  have hdistinct : ([e].map (·.name)).Nodup := by simp
  rw [diffColumns_eq_nil_iff hdistinct]
  simp [h]

theorem diffForeignKeys_eq_nil_iff {desired current : List ForeignKey} :
    diffForeignKeys desired current = [] ↔
      (∀ fk ∈ desired, ∃ k ∈ current, fk.sameTarget k) ∧
        ∀ fk ∈ current, ∃ k ∈ desired, fk.sameTarget k := by
  have hany : ∀ (l : List ForeignKey) (fk : ForeignKey),
      (!l.any (·.sameTarget fk)) = false ↔ ∃ k ∈ l, fk.sameTarget k = true := by
    intro l fk
    simp only [Bool.not_eq_false', List.any_eq_true, sameTarget_comm (b := fk)]
  simp only [diffForeignKeys, List.append_eq_nil_iff, List.map_eq_nil_iff, List.filter_eq_nil_iff,
    Bool.not_eq_true, hany]

theorem diffTable_eq_nil_iff {desired current : Table} (hc : current.DistinctColumns) :
    diffTable desired current = [] ↔ desired.Agrees current := by
  rw [diffTable, List.append_eq_nil_iff, diffColumns_eq_nil_iff hc, diffForeignKeys_eq_nil_iff]
  constructor
  · rintro ⟨⟨hnames, heff⟩, hleft, hright⟩
    exact ⟨hnames, heff, hleft, hright⟩
  · rintro ⟨hnames, heff, hleft, hright⟩
    exact ⟨⟨hnames, heff⟩, hleft, hright⟩

/-- What the three passes over tables ask for, by look-up. -/
theorem diff_eq_nil_iff_lookup {desired current : Schema} :
    diff desired current = [] ↔
      (∀ t ∈ desired.tables, ∃ u, current.get? t.name = some u ∧ diffTable t u = []) ∧
        ∀ u ∈ current.tables, u.name ∈ desired.tables.map (·.name) := by
  simp only [diff, List.append_eq_nil_iff, List.map_eq_nil_iff, List.filter_eq_nil_iff,
    List.filterMap_eq_nil_iff, Bool.not_eq_true, Bool.not_eq_false', Schema.contains,
    List.any_eq_true, beq_iff_eq]
  constructor
  · rintro ⟨⟨hadd, hdrop⟩, hmodify⟩
    refine ⟨fun t ht => ?_, fun u hu => List.mem_map.2 (hdrop u hu)⟩
    obtain ⟨u, hu, hname⟩ := hadd t ht
    have hget := Schema.get?_eq_some_iff.2 ⟨hu, hname⟩
    refine ⟨u, hget, ?_⟩
    have hm := hmodify t ht
    rw [hget] at hm
    cases hch : diffTable t u with
    | nil => rfl
    | cons c cs => simp [hch] at hm
  · rintro ⟨hleft, hright⟩
    refine ⟨⟨fun t ht => ?_, fun u hu => List.mem_map.1 (hright u hu)⟩, fun t ht => ?_⟩
    · obtain ⟨u, hget, -⟩ := hleft t ht
      exact ⟨u, Schema.get?_eq_some_iff.1 hget⟩
    · obtain ⟨u, hget, hnil⟩ := hleft t ht
      simp [hget, hnil]

/-- **The difference is empty exactly when the schemas agree.** Only the current side needs
distinct column names: columns are looked up there. -/
theorem diff_eq_nil_iff {desired current : Schema} (hc : current.DistinctColumns) :
    diff desired current = [] ↔ desired.Agrees current := by
  rw [diff_eq_nil_iff_lookup]
  constructor
  · rintro ⟨hleft, hright⟩
    refine ⟨fun name => ⟨fun h => ?_, fun h => ?_⟩, fun t ht u hu hname => ?_⟩
    · obtain ⟨t, ht, rfl⟩ := List.mem_map.1 h
      obtain ⟨u, hget, -⟩ := hleft t ht
      obtain ⟨hu, hname⟩ := Schema.get?_eq_some_iff.1 hget
      exact hname ▸ List.mem_map_of_mem hu
    · obtain ⟨u, hu, rfl⟩ := List.mem_map.1 h
      exact hright u hu
    · obtain ⟨u', hget', hnil⟩ := hleft t ht
      have hget : current.get? t.name = some u := Schema.get?_eq_some_iff.2 ⟨hu, hname.symm⟩
      rw [hget, Option.some.injEq] at hget'
      subst hget'
      exact (diffTable_eq_nil_iff (hc u hu)).1 hnil
  · rintro ⟨hnames, htables⟩
    refine ⟨fun t ht => ?_, fun u hu => (hnames u.name).2 (List.mem_map_of_mem hu)⟩
    obtain ⟨u, hu, hname⟩ := List.mem_map.1 ((hnames t.name).1 (List.mem_map_of_mem ht))
    exact ⟨u, Schema.get?_eq_some_iff.2 ⟨hu, hname⟩,
      (diffTable_eq_nil_iff (hc u hu)).2 (htables t ht u hu hname.symm)⟩

/-! ## Agreement is an equivalence -/

/-- Distinct names identify the columns of a list. -/
theorem column_eq_of_name_eq {columns : List Column} (hd : (columns.map (·.name)).Nodup)
    {c e : Column} (hc : c ∈ columns) (he : e ∈ columns) (h : c.name = e.name) : c = e := by
  have h₁ := (columnNamed?_eq_some_iff hd).2 ⟨hc, rfl⟩
  have h₂ := (columnNamed?_eq_some_iff hd).2 ⟨he, h.symm⟩
  simpa [h₁] using h₂

/-- Distinct names identify the tables of a schema. -/
theorem table_eq_of_name_eq {s : Schema} {t u : Table} (ht : t ∈ s.tables) (hu : u ∈ s.tables)
    (h : t.name = u.name) : t = u := by
  have h₁ := Schema.get?_eq_some_iff.2 ⟨ht, rfl⟩
  have h₂ := Schema.get?_eq_some_iff.2 ⟨hu, h.symm⟩
  simpa [h₁] using h₂

theorem Table.Agrees.refl {t : Table} (ht : t.DistinctColumns) : t.Agrees t where
  columnNames _ := Iff.rfl
  effective c hc e he h := by rw [column_eq_of_name_eq ht hc he h]
  keysLeft fk h := ⟨fk, h, sameTarget_refl fk⟩
  keysRight fk h := ⟨fk, h, sameTarget_refl fk⟩

theorem Table.Agrees.symm {t u : Table} (h : t.Agrees u) : u.Agrees t where
  columnNames name := (h.columnNames name).symm
  effective c hc e he hname := (h.effective e he c hc hname.symm).symm
  keysLeft := h.keysRight
  keysRight := h.keysLeft

theorem Table.Agrees.trans {t u v : Table} (h₁ : t.Agrees u) (h₂ : u.Agrees v) : t.Agrees v where
  columnNames name := (h₁.columnNames name).trans (h₂.columnNames name)
  effective c hc e he hname := by
    obtain ⟨b, hb, hbname⟩ := List.mem_map.1 ((h₁.columnNames c.name).1 (List.mem_map_of_mem hc))
    exact (h₁.effective c hc b hb hbname.symm).trans (h₂.effective b hb e he (hbname.trans hname))
  keysLeft fk hfk := by
    obtain ⟨k, hk, hfk'⟩ := h₁.keysLeft fk hfk
    obtain ⟨l, hl, hkl⟩ := h₂.keysLeft k hk
    exact ⟨l, hl, sameTarget_trans hfk' hkl⟩
  keysRight fk hfk := by
    obtain ⟨k, hk, hfk'⟩ := h₂.keysRight fk hfk
    obtain ⟨l, hl, hkl⟩ := h₁.keysRight k hk
    exact ⟨l, hl, sameTarget_trans hfk' hkl⟩

theorem Schema.Agrees.refl {s : Schema} (hs : s.DistinctColumns) : s.Agrees s where
  tableNames _ := Iff.rfl
  tables t ht u hu h := by
    obtain rfl := table_eq_of_name_eq ht hu h
    exact .refl (hs t ht)

theorem Schema.Agrees.symm {a b : Schema} (h : a.Agrees b) : b.Agrees a where
  tableNames name := (h.tableNames name).symm
  tables t ht u hu hname := (h.tables u hu t ht hname.symm).symm

theorem Schema.Agrees.trans {a b c : Schema} (h₁ : a.Agrees b) (h₂ : b.Agrees c) : a.Agrees c where
  tableNames name := (h₁.tableNames name).trans (h₂.tableNames name)
  tables t ht v hv hname := by
    obtain ⟨u, hu, huname⟩ := List.mem_map.1 ((h₁.tableNames t.name).1 (List.mem_map_of_mem ht))
    exact (h₁.tables t ht u hu huname.symm).trans (h₂.tables u hu v hv (huname.trans hname))

/-! ## Rearrangements -/

/-- The foreign key without its constraint name. -/
def ForeignKey.unnamed (fk : ForeignKey) : ForeignKey :=
  { fk with name := "" }

/-- Two tables that differ in the order of columns and foreign keys and in constraint names. -/
structure Table.Rearranges (t u : Table) : Prop where
  name : t.name = u.name
  columns : t.columns.Perm u.columns
  foreignKeys : (t.foreignKeys.map (·.unnamed)).Perm (u.foreignKeys.map (·.unnamed))

/-- Two schemas that also differ in the order of tables. -/
def Schema.Rearranges (a b : Schema) : Prop :=
  ∃ tables, a.tables.Perm tables ∧ List.Forall₂ Table.Rearranges tables b.tables

theorem sameTarget_iff_unnamed {a b : ForeignKey} :
    a.sameTarget b = true ↔ a.unnamed = b.unnamed := by
  simp [sameTarget_iff, ForeignKey.unnamed]

/-- Foreign keys that are listed on one side, names aside, have a counterpart there. -/
theorem exists_sameTarget_of_subset {ks ls : List ForeignKey}
    (h : ks.map (·.unnamed) ⊆ ls.map (·.unnamed)) : ∀ fk ∈ ks, ∃ k ∈ ls, fk.sameTarget k := by
  intro fk hfk
  obtain ⟨k, hk, heq⟩ := List.mem_map.1 (h (List.mem_map_of_mem hfk))
  exact ⟨k, hk, sameTarget_iff_unnamed.2 heq.symm⟩

theorem Table.Rearranges.agrees {t u : Table} (h : t.Rearranges u) (ht : t.DistinctColumns) :
    t.Agrees u where
  columnNames name := (h.columns.map (·.name)).mem_iff
  effective c hc e he hname := by
    rw [column_eq_of_name_eq ht hc (h.columns.mem_iff.2 he) hname]
  keysLeft := exists_sameTarget_of_subset h.foreignKeys.subset
  keysRight := exists_sameTarget_of_subset h.foreignKeys.symm.subset

/-- Each table of a rearranged schema is one of the original's, rearranged. -/
theorem Schema.Rearranges.exists_mem {a b : Schema} (h : a.Rearranges b) {u : Table}
    (hu : u ∈ b.tables) : ∃ t ∈ a.tables, t.Rearranges u := by
  obtain ⟨tables, hperm, hall⟩ := h
  simp only [hperm.mem_iff]
  clear hperm
  generalize b.tables = us at hall hu
  induction hall with
  | nil => simp at hu
  | cons hr _ ih =>
    simp only [List.mem_cons] at hu
    rcases hu with rfl | hu
    · exact ⟨_, by simp, hr⟩
    · obtain ⟨t, ht, hr'⟩ := ih hu
      exact ⟨t, List.mem_cons_of_mem _ ht, hr'⟩

theorem Schema.Rearranges.tableNames {a b : Schema} (h : a.Rearranges b) :
    (a.tables.map (·.name)).Perm (b.tables.map (·.name)) := by
  obtain ⟨tables, hperm, hall⟩ := h
  refine (hperm.map _).trans (.of_eq ?_)
  clear hperm
  generalize b.tables = us at hall
  induction hall with
  | nil => rfl
  | cons hr _ ih => rw [List.map_cons, List.map_cons, hr.name, ih]

theorem Schema.Rearranges.agrees {a b : Schema} (h : a.Rearranges b) (ha : a.DistinctColumns) :
    a.Agrees b where
  tableNames name := h.tableNames.mem_iff
  tables t ht u hu hname := by
    obtain ⟨t', ht', hr⟩ := h.exists_mem hu
    obtain rfl := table_eq_of_name_eq ht ht' (hname.trans hr.name.symm)
    exact hr.agrees (ha t ht)

theorem Schema.Rearranges.distinctColumns {a b : Schema} (h : a.Rearranges b)
    (ha : a.DistinctColumns) : b.DistinctColumns := by
  intro u hu
  obtain ⟨t, ht, hr⟩ := h.exists_mem hu
  exact (hr.columns.map Column.name).nodup_iff.1 (ha t ht)

/-! ## The main statement -/

/-- **An empty difference is agreement**, on schemas with distinct column names. So it is an
equivalence there, and blind to the order of tables, columns and foreign keys and to the names of
constraints. -/
theorem diff_empty_equivalence :
    (∀ a b : Schema, a.DistinctColumns → b.DistinctColumns → (diff a b = [] ↔ a.Agrees b)) ∧
    Equivalence (fun a b : { s : Schema // s.DistinctColumns } => diff a.1 b.1 = []) ∧
    ∀ a a' b : Schema, a.DistinctColumns → b.DistinctColumns → a.Rearranges a' →
      (diff a b = [] ↔ diff a' b = []) ∧ (diff b a = [] ↔ diff b a' = []) := by
  refine ⟨fun a b _ hb => diff_eq_nil_iff hb, ⟨?refl, ?symm, ?trans⟩, ?blind⟩
  case refl => exact fun a => (diff_eq_nil_iff a.2).2 (.refl a.2)
  case symm =>
    intro a b h
    exact (diff_eq_nil_iff a.2).2 ((diff_eq_nil_iff b.2).1 h).symm
  case trans =>
    intro a b c hab hbc
    exact (diff_eq_nil_iff c.2).2
      (((diff_eq_nil_iff b.2).1 hab).trans ((diff_eq_nil_iff c.2).1 hbc))
  case blind =>
    intro a a' b ha hb hr
    have haa' := hr.agrees ha
    rw [diff_eq_nil_iff hb, diff_eq_nil_iff hb, diff_eq_nil_iff ha,
      diff_eq_nil_iff (hr.distinctColumns ha)]
    exact ⟨⟨haa'.symm.trans, haa'.trans⟩, ⟨fun h => h.trans haa', fun h => h.trans haa'.symm⟩⟩

/-- Authors, and posts with a foreign key to them. -/
def blogSchema : Schema :=
  ⟨[{ name := "authors", columns := [{ name := "id", type := .bigInt, primaryKey := true }] },
    { name := "posts"
      columns := [{ name := "title", type := .string }, { name := "author_id", type := .bigInt }]
      foreignKeys := [⟨"fk_posts_author_id", "author_id", "authors", "id", none⟩] }], by decide⟩

/-- `blogSchema` as a catalog may list it: other orders, another constraint name. -/
def blogSchemaListed : Schema :=
  ⟨[{ name := "posts"
      columns := [{ name := "author_id", type := .bigInt }, { name := "title", type := .string }]
      foreignKeys := [⟨"posts_ibfk_1", "author_id", "authors", "id", none⟩] },
    { name := "authors", columns := [{ name := "id", type := .bigInt, primaryKey := true }] }],
    by decide⟩

theorem diff_empty_equivalence_blog :
    blogSchema.DistinctColumns ∧ blogSchema.Rearranges blogSchemaListed ∧
      (diff blogSchema blogSchema = [] ↔ blogSchema.Agrees blogSchema) ∧
      (diff blogSchema blogSchema = [] ↔ diff blogSchemaListed blogSchema = []) := by
  have hd : blogSchema.DistinctColumns := by decide
  have hr : blogSchema.Rearranges blogSchemaListed := by
    refine ⟨blogSchema.tables.reverse, (List.reverse_perm _).symm, ?_⟩
    refine .cons ⟨rfl, .swap _ _ _, .refl _⟩ (.cons ⟨rfl, .refl _, .refl _⟩ .nil)
  exact ⟨hd, hr, diff_empty_equivalence.1 _ _ hd hd, (diff_empty_equivalence.2.2 _ _ _ hd hd hr).1⟩

end SchemaSync
