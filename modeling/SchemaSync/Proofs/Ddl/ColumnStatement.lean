/-
Which statements on a column have the keywords of generated values or of a
primary key.

One that adds a column writes its whole definition, so it has the keywords for
a key column (`mentions_addColumn_iff`). One that modifies a column has those
of generated values in MySQL, which restates the definition, and none in
Postgres, which alters one property at a time (`mentions_modifyColumn_iff`).
-/
import SchemaSync.Proofs.Ddl.Keyword

namespace SchemaSync

open Text

theorem silent_alterTable (d : Dialect) (table : String) :
    Silent (" ALTER TABLE ".toList ++ (d.wrap table).toList) :=
  .named (by decide) d table

theorem silent_semicolon : Silent [';'] :=
  .bare (by decide)

/-- **A statement that adds a column has the keywords of what the column asks for**, whatever other
columns the primary key has. -/
theorem mentions_addColumn_iff (d : Dialect) (table : String) (c : Column) :
    (Mentions ((Statement.addColumn table c).masked.sql d) d.autoIncrementKeywords ↔
      c.wantsAutoIncrement = true) ∧
    (Mentions ((Statement.addColumn table c).masked.sql d) primaryKeyKeywords ↔
      c.primaryKey = true) := by
  obtain ⟨rest, hchars, htells⟩ := exists_definition_tells d .inColumn c
  have hshows : showsGenerated .inColumn c = c.wantsAutoIncrement ∧
      showsKey .inColumn c = c.primaryKey := by
    simp [showsGenerated, showsKey]
  rw [hshows.1, hshows.2] at htells
  have hcolumn : Silent (" ADD COLUMN ".toList ++ (d.wrap c.name).toList) :=
    .named (by decide) d c.name
  have hsql := ((htells.append silent_semicolon).prepend hcolumn).prepend (silent_alterTable d table)
  refine Tells.mentions_iff ?_
  show Tells d _ _ (' ' :: ("ALTER TABLE " ++ d.wrap table ++ " ADD COLUMN " ++
    d.columnDefinition .inColumn c.masked ++ ";").toList)
  simp only [String.toList_append, hchars, List.append_assoc] at hsql ⊢
  exact hsql

/-! ## Modifications in MySQL -/

/-- The remark on a primary key is no keyword of it. -/
theorem silent_primaryKeyRemark (d : Dialect) (table column : String) :
    Silent (' ' :: (primaryKeyRemark (d.wrap table) (d.wrap column)).toList) := by
  have htable : Silent (" -- primary key of ".toList ++ (d.wrap table).toList) :=
    .named (by decide) d table
  have hcolumn : Silent (['.'] ++ (d.wrap column).toList) := .named (by decide) d column
  have hend : Silent " changed, not altered".toList := .bare (by decide)
  have hremark := htable.append (hcolumn.append hend)
  unfold primaryKeyRemark
  simp only [String.toList_append, List.append_assoc] at hremark ⊢
  exact hremark

/-- The first MySQL action restates the definition, with the keywords of generated values. -/
theorem exists_mySqlActions (old new : Column) :
    ∃ first rest, mySqlActions old new.masked = first :: rest ∧
      Tells .mySql new.wantsAutoIncrement false (' ' :: first.toList) ∧
      ∀ action ∈ rest, Silent (' ' :: action.toList) := by
  obtain ⟨definition, hchars, htells⟩ := exists_definition_tells .mySql .omitted new
  have hshows : showsGenerated .omitted new = new.wantsAutoIncrement ∧
      showsKey .omitted new = false := by
    simp [showsGenerated, showsKey]
  rw [hshows.1, hshows.2] at htells
  refine ⟨_, _, rfl, ?first, fun action haction => ?rest⟩
  case first =>
    split
    · have hname : Silent (" MODIFY COLUMN ".toList ++ (Dialect.mySql.wrap new.name).toList) :=
        .named (by decide) .mySql new.name
      have hfirst := htells.prepend hname
      rw [String.toList_append, hchars]
      rw [List.append_assoc] at hfirst
      exact hfirst
    · have hold : Silent (" CHANGE COLUMN ".toList ++ (Dialect.mySql.wrap old.name).toList) :=
        .named (by decide) .mySql old.name
      have hname : Silent ([' '] ++ (Dialect.mySql.wrap new.name).toList) :=
        .named (by decide) .mySql new.name
      have hfirst := (htells.prepend hname).prepend hold
      simp only [String.toList_append, List.append_assoc] at hfirst ⊢
      rw [hchars]
      exact hfirst
  case rest =>
    have hclose : Silent [')'] := .bare (by decide)
    split at haction
    · have hadd : Silent (" ADD UNIQUE (".toList ++ (Dialect.mySql.wrap new.name).toList) :=
        .named (by decide) .mySql new.name
      rw [List.mem_singleton.1 haction]
      have haction := hadd.append hclose
      simp only [String.toList_append, List.append_assoc] at haction ⊢
      exact haction
    · split at haction
      · have hdrop : Silent (" DROP INDEX ".toList ++ (Dialect.mySql.wrap old.name).toList) :=
          .named (by decide) .mySql old.name
        rw [List.mem_singleton.1 haction, String.toList_append]
        exact hdrop
      · cases haction

/-- A MySQL modification has just the keywords of generated values. -/
theorem tells_mySqlModify (table : String) {old new : Column} (h : old ≠ new.masked) :
    Tells .mySql new.wantsAutoIncrement false (' ' :: (mySqlModify table old new.masked).toList) := by
  obtain ⟨first, rest, hactions, hfirst, hrest⟩ := exists_mySqlActions old new
  have hremark : Silent (if old.primaryKey = new.primaryKey then ""
      else "\n" ++ primaryKeyRemark (Dialect.mySql.wrap table) (Dialect.mySql.wrap new.name)).toList := by
    split
    · exact .nil
    · have hline := (silent_primaryKeyRemark .mySql table new.name).pad
        (by decide : "\n".toList ≠ []) (by decide)
      rwa [String.toList_append]
  obtain ⟨others, hjoined, hothers⟩ :=
    Silent.exists_joined ", " (by decide) (by decide) hrest first
  have hsql := ((hfirst.append hothers).append (silent_semicolon.append hremark)).prepend
    (silent_alterTable .mySql table)
  unfold mySqlModify commaList
  rw [if_neg h, hactions]
  simp only [String.toList_append, hjoined, List.append_assoc, List.cons_append] at hsql ⊢
  exact hsql

/-! ## Modifications in Postgres -/

section

variable (table column oldColumn newColumn : String)

theorem silent_alterColumn :
    Silent (" ALTER COLUMN ".toList ++ (Dialect.postgres.wrap column).toList) :=
  .named (by decide) .postgres column

theorem silent_typeActions (old new : Column) :
    ∀ action ∈ typeActions column (Dialect.postgres.bareTypeName old)
      (Dialect.postgres.bareTypeName new), Silent (' ' :: action.toList) := by
  have htype : Silent " TYPE".toList := .bare (by decide)
  have husing : Silent (" USING ".toList ++ (Dialect.postgres.wrap column).toList) :=
    .named (by decide) .postgres column
  have hname := (plain_bareTypeName .postgres new).silent
  have haction := (((silent_alterColumn column).append htype).append hname).append
    (husing.append (hname.pad (by decide : "::".toList ≠ []) (by decide)))
  intro action hmem
  rw [typeActions] at hmem
  split at hmem
  · cases hmem
  · rw [List.mem_singleton.1 hmem]
    simp only [String.toList_append, List.append_assoc] at haction ⊢
    exact haction

theorem silent_nullActions (old new : Bool) :
    ∀ action ∈ nullActions column old new, Silent (' ' :: action.toList) := by
  have hnull : Silent (if new then " DROP NOT NULL" else " SET NOT NULL").toList := by
    cases new <;> exact .bare (by decide)
  have haction := (silent_alterColumn column).append hnull
  intro action hmem
  rw [nullActions] at hmem
  split at hmem
  · cases hmem
  · rw [List.mem_singleton.1 hmem]
    simp only [String.toList_append, List.append_assoc] at haction ⊢
    exact haction

theorem silent_defaultActions (old : Option DefaultValue) (new : Column) :
    ∀ action ∈ defaultActions column old new.masked.default, Silent (' ' :: action.toList) := by
  have hset : Silent " SET DEFAULT NULL".toList := .bare (by decide)
  have hdrop : Silent " DROP DEFAULT".toList := .bare (by decide)
  intro action hmem
  unfold defaultActions Column.masked at hmem
  split at hmem
  · cases hmem
  · cases hdefault : new.default with
    | none =>
      have haction := (silent_alterColumn column).append hdrop
      rw [hdefault] at hmem
      rw [List.mem_singleton.1 hmem]
      simp only [String.toList_append, List.append_assoc] at haction ⊢
      exact haction
    | some value =>
      have haction := (silent_alterColumn column).append hset
      rw [hdefault] at hmem
      rw [List.mem_singleton.1 hmem]
      simp only [String.toList_append, List.append_assoc] at haction ⊢
      exact haction

theorem silent_uniqueActions (old new : Bool) :
    ∀ action ∈ uniqueActions table oldColumn newColumn old new, Silent (' ' :: action.toList) := by
  let d := Dialect.postgres
  have hadd : Silent (" ADD CONSTRAINT ".toList ++
      (d.wrap (derivedConstraint table newColumn "key")).toList) := .named (by decide) d _
  have hunique : Silent (" UNIQUE (".toList ++ (d.wrap newColumn).toList) := .named (by decide) d _
  have hclose : Silent [')'] := .bare (by decide)
  have hdrop : Silent (" DROP CONSTRAINT IF EXISTS ".toList ++
      (d.wrap (derivedConstraint table oldColumn "key")).toList) := .named (by decide) d _
  intro action hmem
  rw [uniqueActions] at hmem
  split at hmem
  · have haction := hadd.append (hunique.append hclose)
    rw [List.mem_singleton.1 hmem]
    simp only [String.toList_append, List.append_assoc] at haction ⊢
    exact haction
  · split at hmem
    · rw [List.mem_singleton.1 hmem, String.toList_append]
      exact hdrop
    · cases hmem

theorem silent_labelActions (old new : Option (List String)) :
    ∀ action ∈ labelActions table oldColumn newColumn old new, Silent (' ' :: action.toList) := by
  let d := Dialect.postgres
  have hadd : Silent (" ADD CONSTRAINT ".toList ++
      (d.wrap (derivedConstraint table newColumn "check")).toList) := .named (by decide) d _
  have hdrop : Silent (" DROP CONSTRAINT IF EXISTS ".toList ++
      (d.wrap (derivedConstraint table oldColumn "check")).toList) := .named (by decide) d _
  intro action hmem
  unfold labelActions at hmem
  split at hmem
  · cases hmem
  · rcases List.mem_append.1 hmem with hmem | hmem
    · rw [List.mem_ite_nil_right, List.mem_singleton] at hmem
      rw [hmem.2, String.toList_append]
      exact hdrop
    · cases new with
      | none => cases hmem
      | some labels =>
        have haction := hadd.append (plain_labelCheck d newColumn labels).silent
        rw [List.mem_singleton.1 hmem]
        simp only [String.toList_append, List.append_assoc] at haction ⊢
        exact haction

end

theorem silent_postgresActions (table : String) (old new : Column) :
    ∀ action ∈ postgresActions table old new.masked, Silent (' ' :: action.toList) := by
  intro action hmem
  rw [postgresActions_eq, List.mem_append, List.mem_append, List.mem_append, List.mem_append] at hmem
  rcases hmem with (((hmem | hmem) | hmem) | hmem) | hmem
  · exact silent_typeActions _ old new.masked action hmem
  · exact silent_nullActions _ _ _ action hmem
  · exact silent_defaultActions _ _ new action hmem
  · exact silent_uniqueActions _ _ _ _ _ action hmem
  · exact silent_labelActions _ _ _ _ _ action hmem

theorem silent_postgresStatements (table : String) (old new : Column) :
    ∀ statement ∈ postgresStatements table old new.masked, Silent (' ' :: statement.toList) := by
  let d := Dialect.postgres
  have hrename : Silent (" RENAME COLUMN ".toList ++ (d.wrap old.name).toList) :=
    .named (by decide) d _
  have hto : Silent (" TO ".toList ++ (d.wrap new.name).toList) := .named (by decide) d _
  have hactions := Silent.joined ", " (by decide) (by decide) (silent_postgresActions table old new)
  intro statement hmem
  unfold postgresStatements at hmem
  simp only [List.mem_append, List.mem_ite_nil_left, List.mem_singleton] at hmem
  rcases hmem with (⟨-, rfl⟩ | ⟨-, rfl⟩) | ⟨-, rfl⟩
  · have hstatement := (silent_alterTable d table).append
      (hrename.append (hto.append silent_semicolon))
    simp only [String.toList_append, List.append_assoc] at hstatement ⊢
    exact hstatement
  · have hstatement := (silent_alterTable d table).append (hactions.append silent_semicolon)
    simp only [String.toList_append, List.append_assoc] at hstatement ⊢
    exact hstatement
  · exact silent_primaryKeyRemark d table new.name

/-- A Postgres modification has none of the keywords. -/
theorem silent_postgresModify (table : String) (old new : Column) :
    Silent (' ' :: ("\n".intercalate (postgresStatements table old new.masked)).toList) :=
  .joined "\n" (by decide) (by decide) (silent_postgresStatements table old new)

/-! ## Modifications -/

/-- **A statement that modifies a column has the keywords of generated values only**, and only
where MySQL restates the definition of a column that asks for them. -/
theorem mentions_modifyColumn_iff (d : Dialect) (table : String) (old new : Column) :
    (Mentions ((Statement.modifyColumn table old new).masked.sql d) d.autoIncrementKeywords ↔
      d = .mySql ∧ old ≠ new ∧ new.wantsAutoIncrement = true) ∧
    ¬ Mentions ((Statement.modifyColumn table old new).masked.sql d) primaryKeyKeywords := by
  cases d with
  | mySql =>
    by_cases h : old = new
    · have hempty : (Statement.modifyColumn table old new).masked.sql .mySql = "" :=
        if_pos (maskedBeside_eq_iff.2 h)
      have hsilent : Silent [' '] := .bare (by decide)
      have hiff := (Tells.of_silent (d := .mySql) hsilent).mentions_iff (s := "")
      rw [hempty, hiff.1, hiff.2]
      simp [h]
    · have hiff := (tells_mySqlModify table (mt maskedBeside_eq_iff.1 h)).mentions_iff
      have hsql : (Statement.modifyColumn table old new).masked.sql .mySql =
          mySqlModify table (old.maskedBeside new) new.masked := rfl
      rw [hsql, hiff.1, hiff.2]
      simp [h]
  | postgres =>
    have hiff := (Tells.of_silent (d := .postgres)
      (silent_postgresModify table (old.maskedBeside new) new)).mentions_iff
    have hsql : (Statement.modifyColumn table old new).masked.sql .postgres =
        "\n".intercalate (postgresStatements table (old.maskedBeside new) new.masked) := rfl
    rw [hsql, hiff.1, hiff.2]
    simp

end SchemaSync
