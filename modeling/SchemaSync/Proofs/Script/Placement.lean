/-
What a script declares, wherever it puts the foreign keys.

`declared` carries a script out from nothing, block by block. A table is
created once, and a constraint that is added behind all tables finds its own
table there and joins its clauses. With the foreign keys among the clauses of
each CREATE TABLE or in statements of their own, the same tables come out,
with the same clauses in the same order (`placements_declare_same`).
-/
import SchemaSync.Script

namespace SchemaSync

/-- A table as a script declares it, each clause as it is written. -/
structure DeclaredTable where
  name : String
  /-- The definitions of the columns, and the clause of a primary key of several columns. -/
  parts : List String
  /-- The clauses of the foreign keys. -/
  constraints : List String
  deriving DecidableEq

namespace DeclaredTable

/-- The table that these columns and foreign keys declare. -/
def ofParts (d : Dialect) (name : String) (columns : List Column) (foreignKeys : List ForeignKey) :
    DeclaredTable where
  name := name
  parts := (columnClauses columns).map d.clause
  constraints := foreignKeys.map d.foreignKeyClause

/-- The text that creates a table of this name with these clauses. -/
def creation (d : Dialect) (name : String) (clauses : List String) : String :=
  "CREATE TABLE " ++ d.wrap name ++ " (\n" ++
    ",\n".intercalate (clauses.map ("    " ++ ·)) ++ "\n);"

/-- The text that adds a clause to a table of this name. -/
def addition (d : Dialect) (name clause : String) : String :=
  "ALTER TABLE " ++ d.wrap name ++ " ADD " ++ clause ++ ";"

end DeclaredTable

/-- What is declared after one more block. A table is created under a name that is new, a constraint
is added to a table that is there, and a script has no other statements. -/
def declare (d : Dialect) (tables : List DeclaredTable) : Block → Option (List DeclaredTable)
  | .statement (.createTable name columns foreignKeys) =>
    if name ∈ tables.map (·.name) then none
    else some (tables ++ [.ofParts d name columns foreignKeys])
  | .statement (.addForeignKey name fk) =>
    if name ∈ tables.map (·.name) then
      some <| tables.map fun t =>
        if t.name = name then { t with constraints := t.constraints ++ [d.foreignKeyClause fk] }
        else t
    else none
  | .omission _ _ => some tables
  | .statement _ => none

/-- What a script declares, `none` if one of its statements does not apply. -/
def declared (d : Dialect) (blocks : List Block) : Option (List DeclaredTable) :=
  blocks.foldlM (declare d) []

/-- The tables of a schema that can be created, which are those with a column. -/
def Schema.createdTables (s : Schema) : List Table :=
  s.tables.filter fun t => !t.isEmpty

/-- What a table declares, all in all. -/
def Table.declared (d : Dialect) (t : Table) : DeclaredTable :=
  .ofParts d t.name t.columns t.foreignKeys

/-- Whether a block only tells what is left out. -/
def Block.isOmission : Block → Bool
  | omission _ _ => true
  | statement _ => false

/-- Where a block belongs: tables first, then what is added to them, and remarks at the end. -/
def Block.stage : Block → Nat
  | statement (.createTable _ _ _) => 0
  | statement _ => 1
  | omission _ _ => 2

/-- The remark on an entity that is left out. -/
def remark : String × String → String
  | (entity, reason) => "-- Error generating SQL for " ++ entity ++ ": " ++ Text.singleSpaced reason

/-! ## Blocks -/

section

variable (s : Schema) (omitted : List (String × String))

/-- The blocks that create tables, with those of their foreign keys that `keys` picks. -/
def creations (keys : Table → List ForeignKey) (tables : List Table) : List Block :=
  tables.map fun t => .statement (.createTable t.name t.columns (keys t))

/-- The blocks that add the foreign keys of tables. -/
def additions (tables : List Table) : List Block :=
  tables.flatMap fun t => t.foreignKeys.map fun fk => .statement (.addForeignKey t.name fk)

/-- The blocks on the entities that are left out. -/
def omissions (omitted : List (String × String)) : List Block :=
  omitted.map fun (entity, reason) => .omission entity reason

theorem scriptBlocks_inTable :
    scriptBlocks .inTable s omitted =
      creations (·.foreignKeys) s.createdTables ++ omissions omitted := by
  have hfirst : (s.createdTables.map (tableStatements .inTable)).flatMap (·.1) =
      s.createdTables.map .create := by
    rw [List.flatMap_map, List.map_eq_flatMap]
    rfl
  have hlast : (s.createdTables.map (tableStatements .inTable)).flatMap (·.2) = [] := by
    simp [tableStatements]
  change ((s.createdTables.map (tableStatements .inTable)).flatMap (·.1)).map Block.statement ++
    ((s.createdTables.map (tableStatements .inTable)).flatMap (·.2)).map Block.statement ++ _ = _
  rw [hfirst, hlast, List.map_map, List.map_nil, List.append_nil]
  rfl

theorem scriptBlocks_deferred :
    scriptBlocks .deferred s omitted = creations (fun _ => []) s.createdTables ++
      additions s.createdTables ++ omissions omitted := by
  have hfirst : (s.createdTables.map (tableStatements .deferred)).flatMap (·.1) =
      s.createdTables.map fun t => .createTable t.name t.columns [] := by
    rw [List.flatMap_map, List.map_eq_flatMap]
    rfl
  have hlast : ((s.createdTables.map (tableStatements .deferred)).flatMap (·.2)).map
      Block.statement = additions s.createdTables := by
    simp only [List.flatMap_map, List.map_flatMap, tableStatements, List.map_map, additions,
      Function.comp_def]
  change ((s.createdTables.map (tableStatements .deferred)).flatMap (·.1)).map Block.statement ++
    ((s.createdTables.map (tableStatements .deferred)).flatMap (·.2)).map Block.statement ++ _ = _
  rw [hfirst, hlast, List.map_map]
  rfl

end

/-! ## Carrying blocks out -/

section

variable {d : Dialect}

theorem declare_creations (keys : Table → List ForeignKey) (before : List DeclaredTable)
    {tables : List Table}
    (hnames : (before.map (·.name) ++ tables.map (·.name)).Nodup) :
    (creations keys tables).foldlM (declare d) before =
      some (before ++ tables.map fun t => .ofParts d t.name t.columns (keys t)) := by
  induction tables generalizing before with
  | nil => simp [creations]
  | cons t tables ih =>
    have hnew : t.name ∉ before.map (·.name) := by
      intro hold
      exact (List.nodup_append.1 hnames).2.2 _ hold _ (by simp) rfl
    rw [creations, List.map_cons, List.foldlM_cons, declare, if_neg hnew]
    refine (ih _ ?_).trans ?_
    · simpa [DeclaredTable.ofParts] using hnames
    · simp

theorem declare_additions_of_table {before after : List DeclaredTable} {name : String}
    {parts constraints : List String} (hbefore : name ∉ before.map (·.name))
    (hafter : name ∉ after.map (·.name)) (foreignKeys : List ForeignKey) :
    (foreignKeys.map fun fk => Block.statement (.addForeignKey name fk)).foldlM (declare d)
        (before ++ ⟨name, parts, constraints⟩ :: after) =
      some (before ++
        ⟨name, parts, constraints ++ foreignKeys.map d.foreignKeyClause⟩ :: after) := by
  -- The tables around it have other names, so the constraint passes them by.
  have hpassed : ∀ {others : List DeclaredTable} {clause : String}, name ∉ others.map (·.name) →
      (others.map fun t =>
        if t.name = name then { t with constraints := t.constraints ++ [clause] } else t) =
        others := by
    intro others clause hothers
    refine (List.map_congr_left fun t ht => if_neg fun he => ?_).trans (List.map_id _)
    exact hothers (he ▸ List.mem_map_of_mem ht)
  induction foreignKeys generalizing constraints with
  | nil => simp
  | cons fk foreignKeys ih =>
    have hthere : name ∈ (before ++ ⟨name, parts, constraints⟩ :: after).map (·.name) := by simp
    rw [List.map_cons, List.foldlM_cons, declare, if_pos hthere, List.map_append, List.map_cons,
      hpassed hbefore, hpassed hafter, if_pos rfl]
    refine (@ih (constraints ++ [d.foreignKeyClause fk])).trans ?_
    simp

/-- Constraints that are put off reach their own tables, in order. -/
theorem declare_additions (done : List Table) {rest : List Table}
    (hnames : ((done ++ rest).map (·.name)).Nodup) :
    (additions rest).foldlM (declare d)
        (done.map (·.declared d) ++ rest.map fun t => .ofParts d t.name t.columns []) =
      some ((done ++ rest).map (·.declared d)) := by
  induction rest generalizing done with
  | nil => simp [additions]
  | cons t rest ih =>
    have hsplit := List.nodup_append.1 (List.map_append ▸ hnames)
    have hdone : t.name ∉ (done.map (·.declared d)).map (·.name) := by
      intro hold
      rw [List.map_map] at hold
      exact hsplit.2.2 _ hold _ (by simp) rfl
    have hrest : t.name ∉
        (rest.map fun t => DeclaredTable.ofParts d t.name t.columns []).map (·.name) := by
      rw [List.map_map]
      exact (List.nodup_cons.1 hsplit.2.1).1
    rw [additions, List.flatMap_cons, List.foldlM_append, List.map_cons, DeclaredTable.ofParts,
      declare_additions_of_table hdone hrest]
    have hnext := ih (done ++ [t]) (by rwa [List.append_assoc])
    rw [List.map_append, List.append_assoc, List.append_assoc] at hnext
    exact hnext

theorem declare_omissions (tables : List DeclaredTable) (omitted : List (String × String)) :
    (omissions omitted).foldlM (declare d) tables = some tables := by
  induction omitted with
  | nil => rfl
  | cons entry omitted ih => exact ih

end

/-! ## Texts -/

section

variable (d : Dialect)

theorem text_creation (name : String) (columns : List Column) (foreignKeys : List ForeignKey) :
    (Block.statement (.createTable name columns foreignKeys)).text d =
      DeclaredTable.creation d name
        ((columnClauses columns).map d.clause ++ foreignKeys.map d.foreignKeyClause) := by
  have hclauses : (tableClauses columns foreignKeys).map (fun c => "    " ++ d.clause c) =
      ((columnClauses columns).map d.clause ++ foreignKeys.map d.foreignKeyClause).map
        ("    " ++ ·) := by
    rw [tableClauses, List.map_append, List.map_append, List.map_map, List.map_map, List.map_map]
    rfl
  exact congrArg (fun lines => "CREATE TABLE " ++ d.wrap name ++ " (\n" ++
    ",\n".intercalate lines ++ "\n);") hclauses

theorem text_addition (name : String) (fk : ForeignKey) :
    (Block.statement (.addForeignKey name fk)).text d =
      DeclaredTable.addition d name (d.foreignKeyClause fk) :=
  rfl

theorem texts_creations (keys : Table → List ForeignKey) (tables : List Table) :
    (creations keys tables).map (Block.text d) =
      tables.map fun t => DeclaredTable.creation d t.name
        ((columnClauses t.columns).map d.clause ++ (keys t).map d.foreignKeyClause) := by
  rw [creations, List.map_map]
  exact List.map_congr_left fun t _ => text_creation d t.name t.columns (keys t)

theorem texts_additions (tables : List Table) :
    (additions tables).map (Block.text d) =
      (tables.map (·.declared d)).flatMap fun t =>
        t.constraints.map (DeclaredTable.addition d t.name) := by
  rw [additions, List.map_flatMap, List.flatMap_map]
  simp only [Table.declared, DeclaredTable.ofParts, List.map_map, Function.comp_def, text_addition]

theorem texts_omissions (omitted : List (String × String)) :
    (omissions omitted).map (Block.text d) = omitted.map remark := by
  rw [omissions, List.map_map]
  rfl

end

/-! ## Both placements -/

section

variable {tables : List Table} {omitted : List (String × String)} {b : Block}

theorem stage_of_mem_creations {keys : Table → List ForeignKey} (h : b ∈ creations keys tables) :
    b.stage = 0 := by
  obtain ⟨t, -, rfl⟩ := List.mem_map.1 h
  rfl

theorem stage_of_mem_additions (h : b ∈ additions tables) : b.stage = 1 := by
  obtain ⟨t, -, h⟩ := List.mem_flatMap.1 h
  obtain ⟨fk, -, rfl⟩ := List.mem_map.1 h
  rfl

theorem stage_of_mem_omissions (h : b ∈ omissions omitted) : b.stage = 2 := by
  obtain ⟨entry, -, rfl⟩ := List.mem_map.1 h
  rfl

theorem pairwise_stage {blocks : List Block} {n : Nat} (h : ∀ b ∈ blocks, b.stage = n) :
    blocks.Pairwise fun a b => a.stage ≤ b.stage :=
  List.pairwise_of_forall_mem_list fun a ha b hb => Nat.le_of_eq ((h a ha).trans (h b hb).symm)

theorem pairwise_stage_deferred {keys : Table → List ForeignKey} :
    (creations keys tables ++ additions tables ++ omissions omitted).Pairwise
      fun a b => a.stage ≤ b.stage := by
  rw [List.pairwise_append, List.pairwise_append]
  refine ⟨⟨pairwise_stage fun _ => stage_of_mem_creations,
    pairwise_stage fun _ => stage_of_mem_additions, fun a ha b _ => ?_⟩,
    pairwise_stage fun _ => stage_of_mem_omissions, fun a ha b hb => ?_⟩
  · rw [stage_of_mem_creations ha]
    exact Nat.zero_le _
  · rw [stage_of_mem_omissions hb]
    rcases List.mem_append.1 ha with ha | ha
    · rw [stage_of_mem_creations ha]; decide
    · rw [stage_of_mem_additions ha]; decide

theorem isOmission_iff : b.isOmission = true ↔ b.stage = 2 := by
  cases b with
  | statement s => cases s <;> simp [Block.isOmission, Block.stage]
  | omission entity reason => simp [Block.isOmission, Block.stage]

theorem filter_isOmission {blocks : List Block} (h : ∀ b ∈ blocks, b.stage < 2) :
    (blocks ++ omissions omitted).filter (·.isOmission) = omissions omitted := by
  rw [List.filter_append, List.filter_eq_nil_iff.2, List.nil_append, List.filter_eq_self]
  · exact fun b hb => isOmission_iff.2 (stage_of_mem_omissions hb)
  · exact fun b hb homission => absurd (isOmission_iff.1 homission) (Nat.ne_of_lt (h b hb))

end

/-- **Wherever the foreign keys stand, a script declares the same.** Carried out from nothing, the
scripts with the foreign keys in the tables and with the foreign keys put off declare the tables
that have columns, in their order, each with the same clauses and with every foreign key once; and
both end with the same remarks. With foreign keys put off, all tables come first and all remarks
last. Both texts are written from these tables and remarks: the clauses of a foreign key stand
among those of its table, or are added to it one by one. -/
theorem placements_declare_same (d : Dialect) (s : Schema) (omitted : List (String × String)) :
    declared d (scriptBlocks .inTable s omitted) = some (s.createdTables.map (·.declared d)) ∧
    declared d (scriptBlocks .deferred s omitted) = some (s.createdTables.map (·.declared d)) ∧
    (scriptBlocks .inTable s omitted).filter (·.isOmission) =
      (scriptBlocks .deferred s omitted).filter (·.isOmission) ∧
    (scriptBlocks .deferred s omitted).Pairwise (fun a b => a.stage ≤ b.stage) ∧
    script d .inTable s omitted = "\n\n".intercalate
      ((s.createdTables.map (·.declared d)).map
          (fun t => DeclaredTable.creation d t.name (t.parts ++ t.constraints)) ++
        omitted.map remark) ∧
    script d .deferred s omitted = "\n\n".intercalate
      ((s.createdTables.map (·.declared d)).map
          (fun t => DeclaredTable.creation d t.name t.parts) ++
        (s.createdTables.map (·.declared d)).flatMap
          (fun t => t.constraints.map (DeclaredTable.addition d t.name)) ++
        omitted.map remark) := by
  have hnames : (s.createdTables.map (·.name)).Nodup :=
    (List.filter_sublist.map _).nodup s.distinct
  have hcreated : ∀ keys, (creations keys s.createdTables).foldlM (declare d) [] =
      some (s.createdTables.map fun t => .ofParts d t.name t.columns (keys t)) :=
    fun keys => declare_creations keys [] hnames
  rw [script, script, scriptBlocks_inTable, scriptBlocks_deferred]
  refine ⟨?_, ?_, ?_, ?_, ?_, ?_⟩
  · rw [declared, List.foldlM_append, hcreated]
    exact declare_omissions _ omitted
  · rw [declared, List.foldlM_append, List.foldlM_append, hcreated]
    have hadded : (additions s.createdTables).foldlM (declare d)
        (s.createdTables.map fun t => .ofParts d t.name t.columns []) =
        some (s.createdTables.map (·.declared d)) :=
      declare_additions [] hnames
    rw [Option.bind_eq_bind, Option.bind_some, hadded]
    exact declare_omissions _ omitted
  · rw [filter_isOmission fun b hb => by rw [stage_of_mem_creations hb]; decide,
      filter_isOmission]
    intro b hb
    rcases List.mem_append.1 hb with hb | hb
    · rw [stage_of_mem_creations hb]; decide
    · rw [stage_of_mem_additions hb]; decide
  · exact pairwise_stage_deferred
  · rw [List.map_append, texts_creations, texts_omissions, List.map_map]
    rfl
  · rw [List.map_append, List.map_append, texts_creations, texts_additions, texts_omissions,
      List.map_map]
    simp only [List.map_nil, List.append_nil]
    rfl

end SchemaSync
