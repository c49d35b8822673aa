/-
Tables with a primary key of several columns, when they are created and when
they are changed.

The statement that creates such a table declares the key in a clause of its
own, so its column definitions have no keyword of a key or of generated
values. A change sees one column at a time and does not know about the others:
it spares the key only if no column of the key is added and, in MySQL, no
column that asks for generated values is modified (`sparesCompositeKeys_iff`).

A default value is text of the user and may spell a keyword, so the keywords
are looked for with default values masked, which changes nothing else of a
statement (`sql_masked`).
-/
import SchemaSync.Proofs.Change.Subjects
import SchemaSync.Proofs.Ddl.ColumnStatement

namespace SchemaSync

open Text

/-- Whether a change writes a column, as a new one or as a modified one. -/
def Change.writesColumn : Change → Bool
  | .addColumn _ | .modifyColumn _ _ => true
  | _ => false

/-- Outside quotes and default values a text has no keyword of generated values or of a key. -/
def Keyless (d : Dialect) (masked : String) : Prop :=
  ¬ Mentions masked d.autoIncrementKeywords ∧ ¬ Mentions masked primaryKeyKeywords

/-- Where a table stays and is to have a primary key of several columns, the statements that add
and modify its columns have no keyword of generated values or of a key. -/
def SparesCompositeKeys (d : Dialect) (desired current : Schema) : Prop :=
  ∀ td ∈ diff desired current, ∀ t u, desired.get? td.table = some t →
    current.get? td.table = some u → 1 < t.primaryKey.length →
      ∀ change ∈ td.changes, change.writesColumn = true →
        Keyless d ((change.statement td.table).masked.sql d)

section

variable {d : Dialect} {c old new : Column}

theorem keyless_addColumn_iff {table : String} :
    Keyless d ((Statement.addColumn table c).masked.sql d) ↔ c.primaryKey = false := by
  obtain ⟨hgenerated, hkey⟩ := mentions_addColumn_iff d table c
  rw [Keyless, hgenerated, hkey]
  cases hc : c.primaryKey <;> simp [Column.wantsAutoIncrement, hc]

theorem keyless_modifyColumn_iff {table : String} (hne : new.effective ≠ old.effective) :
    Keyless d ((Statement.modifyColumn table old new).masked.sql d) ↔
      (d = .mySql → new.wantsAutoIncrement = false) := by
  obtain ⟨hgenerated, hkey⟩ := mentions_modifyColumn_iff d table old new
  have hold : old ≠ new := fun he => hne (by rw [he])
  rw [Keyless, hgenerated]
  simp [hkey, hold]

/-- The statements that write columns are keyless under a condition on each column. -/
theorem keyless_diffTable_iff (table : String) {t u : Table} :
    (∀ change ∈ diffTable t u, change.writesColumn = true →
        Keyless d ((change.statement table).masked.sql d)) ↔
      ∀ c ∈ t.columns,
        (columnNamed? u.columns c.name = none → c.primaryKey = false) ∧
        ∀ e, columnNamed? u.columns c.name = some e → c.effective ≠ e.effective →
          d = .mySql → c.wantsAutoIncrement = false := by
  constructor
  · intro h c hc
    refine ⟨fun hnone => ?_, fun e he hne => ?_⟩
    · exact keyless_addColumn_iff.1 (h (.addColumn c)
        (List.mem_append_left _ (mem_diffColumns.2 (.inl ⟨c, hc, hnone, rfl⟩))) rfl)
    · exact (keyless_modifyColumn_iff hne).1 (h (.modifyColumn e c)
        (List.mem_append_left _ (mem_diffColumns.2 (.inr (.inr ⟨c, hc, e, he, hne, rfl⟩)))) rfl)
  · intro h change hchange hwrites
    rcases List.mem_append.1 hchange with hchange | hchange
    · rcases mem_diffColumns.1 hchange with ⟨c, hc, hnone, rfl⟩ | ⟨e, -, -, rfl⟩ |
        ⟨c, hc, e, he, hne, rfl⟩
      · exact keyless_addColumn_iff.2 ((h c hc).1 hnone)
      · cases hwrites
      · exact (keyless_modifyColumn_iff hne).2 ((h c hc).2 e he hne)
    · rcases mem_diffForeignKeys.1 hchange with ⟨fk, -, -, rfl⟩ | ⟨fk, -, -, rfl⟩ <;> cases hwrites

end

/-- No column definition has a keyword where the key is declared in a clause of its own. -/
theorem keyless_of_mem_tableClauses (d : Dialect) {t : Table} (h : 1 < t.primaryKey.length)
    {keys : KeyPlacement} {c : Column}
    (hclause : .column keys c ∈ tableClauses t.columns t.foreignKeys) :
    Keyless d (d.clause (.column keys c.masked)) := by
  have hkeys : keys = .inTable := by
    have hplacement : keyPlacement t.columns = .inTable := if_pos h
    simp only [tableClauses, columnClauses, hplacement, List.mem_append, List.mem_map] at hclause
    rcases hclause with (⟨e, -, he⟩ | hkey) | ⟨fk, -, hfk⟩
    · cases he
      rfl
    · simp at hkey
    · cases hfk
  obtain ⟨hgenerated, hkey⟩ := mentions_columnDefinition_iff d keys c
  rw [Keyless, Dialect.clause, hgenerated, hkey, hkeys]
  simp [showsGenerated, showsKey]

/-- What is listed for a table on both sides are the changes between its two states. -/
theorem eq_of_mem_diff {desired current : Schema} {td : TableDiff} (h : td ∈ diff desired current)
    {t u : Table} (ht : desired.get? td.table = some t) (hu : current.get? td.table = some u) :
    td = ⟨t.name, diffTable t u⟩ := by
  rcases mem_diff.1 h with ⟨t', -, hnone, rfl⟩ | ⟨u', -, hnone, rfl⟩ | ⟨t', ht', u', hu', -, rfl⟩
  · rw [hnone] at hu
    cases hu
  · rw [hnone] at ht
    cases ht
  · rw [Schema.get?_name ht'] at ht
    cases ht
    rw [hu'] at hu
    cases hu
    rfl

/-- **Changes spare a key of several columns only where no single column asks for more.** Masked
statements are the emitted ones but for a default value, and so are masked clauses. The statement
that creates a table with such a key has no keyword of a key or of generated values in its column
definitions. The statements that add and modify columns have none exactly if, in every table that
stays and is to have such a key, no added column belongs to the key and, in MySQL, no modified column
asks for generated values. -/
theorem sparesCompositeKeys_iff (d : Dialect) (desired current : Schema) :
    (∀ s : Statement, Masks s.default? (s.sql d) (s.masked.sql d)) ∧
    (∀ t : Table, 1 < t.primaryKey.length → ∀ keys c,
      .column keys c ∈ tableClauses t.columns t.foreignKeys →
        Masks c.default (d.clause (.column keys c)) (d.clause (.column keys c.masked)) ∧
          Keyless d (d.clause (.column keys c.masked))) ∧
    (SparesCompositeKeys d desired current ↔
      ∀ t ∈ desired.tables, ∀ u, current.get? t.name = some u → 1 < t.primaryKey.length →
        ∀ c ∈ t.columns,
          (columnNamed? u.columns c.name = none → c.primaryKey = false) ∧
          ∀ e, columnNamed? u.columns c.name = some e → c.effective ≠ e.effective →
            d = .mySql → c.wantsAutoIncrement = false) := by
  refine ⟨sql_masked d, fun t ht keys c hclause => ⟨masks_columnDefinition d keys c,
    keyless_of_mem_tableClauses d ht hclause⟩, fun h t ht u hu hkey => ?_,
    fun h td htd t u ht hu hkey => ?_⟩
  · by_cases hnil : diffTable t u = []
    · exact (keyless_diffTable_iff t.name).1 (by simp [hnil])
    · exact (keyless_diffTable_iff t.name).1 (h ⟨t.name, diffTable t u⟩
        (mem_diff.2 (.inr (.inr ⟨t, ht, u, hu, hnil, rfl⟩))) t u (Schema.get?_name ht) hu hkey)
  · obtain ⟨hmem, -⟩ := Schema.get?_eq_some_iff.1 ht
    obtain rfl := eq_of_mem_diff htd ht hu
    exact (keyless_diffTable_iff t.name).2 (h t hmem u hu hkey)

/-! ## Numbered lines -/

/-- The lines of an order, known by the order alone. -/
def unnumberedLines : Table where
  name := "lines"
  columns := [{ name := "order_id", type := .integer, primaryKey := true }]

/-- A number that is generated and part of the key. -/
def lineNumber : Column :=
  { name := "line", type := .integer, primaryKey := true, autoIncrement := true }

/-- The lines of an order, each with a number. -/
def numberedLines : Table :=
  { unnumberedLines with columns := unnumberedLines.columns ++ [lineNumber] }

/-- A number that becomes part of the key is added with the keywords of a key of one column. -/
theorem not_sparesCompositeKeys_numberedLines :
    1 < numberedLines.primaryKey.length ∧
      ¬ SparesCompositeKeys .mySql (.ofTables [numberedLines]) (.ofTables [unnumberedLines]) ∧
      ¬ SparesCompositeKeys .postgres (.ofTables [numberedLines]) (.ofTables [unnumberedLines]) := by
  have hdiff : ⟨"lines", [.addColumn lineNumber]⟩ ∈
      diff (.ofTables [numberedLines]) (.ofTables [unnumberedLines]) := by decide
  have hfails : ∀ d, ¬ SparesCompositeKeys d (.ofTables [numberedLines])
      (.ofTables [unnumberedLines]) := by
    intro d h
    have hkeyless := h _ hdiff numberedLines unnumberedLines (by decide) (by decide) (by decide)
      (.addColumn lineNumber) (by decide) rfl
    exact absurd (keyless_addColumn_iff.1 hkeyless) (by decide)
  exact ⟨by decide, hfails .mySql, hfails .postgres⟩

end SchemaSync
