/-
Options that are given twice.

Every option has a place of its own, and most places are refused to a second
option: a list that gives one twice is a fault of the attributes, wherever the
list stands among the items of a field (`rejectsRepeats_iff`). Four options are
written over instead, without a word about it: three of a column, and the table
name of a struct (`ClauseList.overwritten`). The last one counts then
(`ColumnSpec.toOption_foldlM_of_overwritten`).
-/
import SchemaSync.Entity.Reader
import SchemaSync.Proofs.Entity.Readers
import SchemaSync.Proofs.Entity.Slots

namespace SchemaSync.Entity

open Source

/-- The list that an item of a list has, by the text of its path. -/
def ClauseList.inside? : ClauseList → String → Option ClauseList
  | field, "column" => some column
  | field, "many_to_one" => some manyToOne
  | field, "one_to_many" => some oneToMany
  | field, "many_to_many" => some manyToMany
  | field, "join_column" => some joinColumn
  | field, "join_table" => some joinTable
  | joinTable, "join_column" => some joinColumn
  | joinTable, "inverse_join_column" => some joinColumn
  | _, _ => none

/-- The keys of a list that may be given again, and then count as given last. -/
def ClauseList.overwritten : ClauseList → List String
  | entity => ["table"]
  | column => ["unique", "enum_options", "primary_key"]
  | _ => []

/-- The options of a list among the items of another one: these items, or options within one. -/
inductive Within (list : ClauseList) (options : List (List Token)) :
    ClauseList → List (List Token) → Prop
  | here : Within list options list options
  | inside {outer inner : ClauseList} {items : List (List Token)} {item : List Token} {path : Path}
    {tokens behind : List Token} (hmem : item ∈ items) (hitem : HasOptions item path tokens behind)
    (hinner : outer.inside? path.text = some inner)
    (h : Within list options inner (listItems tokens)) : Within list options outer items

/-- Whether the read of a struct or field fails for its attributes wherever they give the key more
than once in such a list. -/
def RejectsRepeats : ClauseList → String → Prop
  | .entity, key => ∀ (declarations : List Declaration) (d : Declaration),
    2 ≤ (keysOf (itemsOf d.item.attributes)).count key →
      ∃ fault, readEntity declarations d = .error (.invalidAttribute d.id fault)
  | list, key => ∀ (declarations : List Declaration) (entity table : String) (f : Field)
    (options : List (List Token)), Within list options .field (itemsOf f.attributes) →
      2 ≤ (keysOf options).count key →
        ∃ fault, fieldParts declarations entity table f = .error (.invalidAttribute entity fault)

/-- Whether the items of a list say nothing together. -/
def ClauseList.Silent : ClauseList → List (List Token) → Prop
  | entity, items => gathered tableNameClause (fun _ name => .ok (some name)) none items = none
  | field, items => gathered FieldClause.read FieldSpec.add {} items = none
  | column, items => gathered ColumnOption.read ColumnSpec.add {} items = none
  | manyToOne, items => gathered (RelationOption.read .manyToOne) RelationSpec.add {} items = none
  | oneToMany, items => gathered (RelationOption.read .oneToMany) RelationSpec.add {} items = none
  | manyToMany, items => gathered (RelationOption.read .manyToMany) RelationSpec.add {} items = none
  | joinColumn, items => gathered JoinColumnOption.read JoinColumnSpec.add {} items = none
  | joinTable, items => gathered JoinTableOption.read JoinTableSpec.add {} items = none

/-! ## A key that is given twice -/

section

variable {α σ : Type} {read : Clause → Except Fault (Found α)} {key : α → String}
  {add : σ → α → Except Fault σ} {empty : σ} {items : List (List Token)} {k : String}

/-- Two options of one key are refused if their place takes only one. -/
theorem gathered_eq_none_of_count (S : Slots key add empty) (hkeyed : Keyed key read)
    (hrivals : ∀ a b, key a = k → key b = k → S.rivals a b = true)
    (h : 2 ≤ (keysOf items).count k) (s : σ) : gathered read add s items = none := by
  rw [gathered, Option.bind_eq_none_iff]
  intro as has
  rw [← map_key_of_mapM hkeyed has, ← List.replicate_sublist_iff, List.sublist_map_iff] at h
  obtain ⟨twice, hsub, htwice⟩ := h
  have hlength : twice.length = 2 := by simpa using (congrArg List.length htwice).symm
  obtain ⟨a, b, rfl⟩ := List.length_eq_two.1 hlength
  obtain ⟨ha, hb⟩ : k = key a ∧ k = key b := by simpa [List.replicate] using htwice
  obtain ⟨fault, hfault⟩ := S.exists_error_of_rivals (s := s) (hrivals a b ha.symm hb.symm) hsub
  rw [hfault]
  rfl

theorem Slots.Strict.gathered {S : Slots key add empty} (hS : S.Strict) (hkeyed : Keyed key read)
    (h : 2 ≤ (keysOf items).count k) (s : σ) : gathered read add s items = none :=
  gathered_eq_none_of_count S hkeyed (fun a b ha hb => hS a b (ha.trans hb.symm)) h s

/-- Only three options of a column have a place that takes more than one. -/
theorem ColumnSpec.rivals_of_key {a b : ColumnOption} (ha : a.key = k) (hb : b.key = k)
    (hk : k ∉ ClauseList.column.overwritten) : ColumnSpec.slots.rivals a b = true := by
  subst ha
  cases a <;> cases b <;> first | rfl | grind [ColumnOption.key, ClauseList.overwritten]

end

/-! ## Lists within lists -/

section

variable {list inner outer : ClauseList} {options items : List (List Token)}
  {item tokens behind : List Token} {path : Path} {k : String}

theorem silent_of_count (hk : k ∉ list.overwritten) (h : 2 ≤ (keysOf items).count k) :
    list.Silent items := by
  cases list with
  | entity =>
    rw [ClauseList.Silent, gathered, Option.bind_eq_none_iff]
    intro as has
    -- Items that all give a name have the one key that may be given again.
    have hmem : k ∈ keysOf items := List.count_pos_iff.1 (by omega)
    rw [← map_key_of_mapM keyed_tableNameClause has] at hmem
    obtain ⟨_, -, rfl⟩ := List.mem_map.1 hmem
    exact absurd (List.mem_singleton_self _) hk
  | field => exact FieldSpec.slots_strict.gathered keyed_fieldClause h _
  | column =>
    exact gathered_eq_none_of_count ColumnSpec.slots keyed_columnOption
      (fun a b ha hb => ColumnSpec.rivals_of_key ha hb hk) h _
  | manyToOne | oneToMany | manyToMany =>
    exact RelationSpec.slots_strict.gathered (keyed_relationOption _) h _
  | joinColumn => exact JoinColumnSpec.slots_strict.gathered keyed_joinColumnOption h _
  | joinTable => exact JoinTableSpec.slots_strict.gathered keyed_joinTableOption h _

theorem columnOf_eq_none (h : ClauseList.column.Silent (listItems tokens)) :
    columnOf tokens = none :=
  h

theorem joinColumnOf_eq_none (h : ClauseList.joinColumn.Silent (listItems tokens)) :
    joinColumnOf tokens = none :=
  h

theorem joinTableOf_eq_none (h : ClauseList.joinTable.Silent (listItems tokens)) :
    joinTableOf tokens = none :=
  h

theorem relationOf_eq_none {kind : RelationKind} (h : kind.clauseList.Silent (listItems tokens)) :
    relationOf kind tokens = none := by
  have hgathered :
      gathered (RelationOption.read kind) RelationSpec.add {} (listItems tokens) = none := by
    cases kind <;> exact h
  rw [relationOf, hgathered]
  rfl

/-- An item of a field says nothing if its options say nothing. -/
theorem said_fieldClause_eq_none (hitem : HasOptions item path tokens behind)
    (hinner : ClauseList.field.inside? path.text = some inner)
    (h : inner.Silent (listItems tokens)) : said FieldClause.read item = none := by
  rw [said_of_hasOptions hitem]
  have hrelation : ∀ kind : RelationKind, path.text = kind.key →
      kind.clauseList.Silent (listItems tokens) →
        (FieldClause.read ⟨path, .group .paren tokens :: behind, true⟩).toOption.bind whole =
          none := by
    intro kind hkey h
    rw [FieldClause.read_relation hkey, toOption_giving, toOption_relation, relationOf_eq_none h]
    rfl
  unfold ClauseList.inside? at hinner
  split at hinner <;> cases hinner
  case h_1.refl hkey =>
    rw [FieldClause.read_column hkey, toOption_giving, toOption_columnSpec, columnOf_eq_none h]
    rfl
  case h_2.refl hkey => exact hrelation .manyToOne hkey h
  case h_3.refl hkey => exact hrelation .oneToMany hkey h
  case h_4.refl hkey => exact hrelation .manyToMany hkey h
  case h_5.refl hkey =>
    rw [FieldClause.read_joinColumn hkey, toOption_giving, toOption_joinColumn,
      joinColumnOf_eq_none h]
    rfl
  case h_6.refl hkey =>
    rw [FieldClause.read_joinTable hkey, toOption_giving, toOption_joinTable, joinTableOf_eq_none h]
    rfl
  all_goals
    next hother _ => cases hother

theorem said_joinTableOption_eq_none (hitem : HasOptions item path tokens behind)
    (hinner : ClauseList.joinTable.inside? path.text = some inner)
    (h : inner.Silent (listItems tokens)) : said JoinTableOption.read item = none := by
  rw [said_of_hasOptions hitem]
  unfold ClauseList.inside? at hinner
  unfold JoinTableOption.read
  split at hinner <;> cases hinner
  case h_7.refl hkey =>
    dsimp only
    rw [hkey]
    show (giving JoinTableOption.joinColumn _).toOption.bind whole = none
    rw [toOption_giving, toOption_joinColumn, joinColumnOf_eq_none h]
    rfl
  case h_8.refl hkey =>
    dsimp only
    rw [hkey]
    show (giving JoinTableOption.inverseJoinColumn _).toOption.bind whole = none
    rw [toOption_giving, toOption_joinColumn, joinColumnOf_eq_none h]
    rfl
  all_goals
    next hother _ => cases hother

/-- A list says nothing if the options of one of its items say nothing. -/
theorem silent_of_inside (hmem : item ∈ items) (hitem : HasOptions item path tokens behind)
    (hinner : outer.inside? path.text = some inner) (h : inner.Silent (listItems tokens)) :
    outer.Silent items := by
  cases outer with
  | field => exact gathered_eq_none_of_said hmem (said_fieldClause_eq_none hitem hinner h) _
  | joinTable => exact gathered_eq_none_of_said hmem (said_joinTableOption_eq_none hitem hinner h) _
  | _ => simp [ClauseList.inside?] at hinner

theorem silent_of_within (hwithin : Within list options outer items) (h : list.Silent options) :
    outer.Silent items := by
  induction hwithin with
  | here => exact h
  | inside hmem hitem hinner _ ih => exact silent_of_inside hmem hitem hinner ih

theorem readEntity_of_silent {d : Declaration}
    (h : ClauseList.entity.Silent (itemsOf d.item.attributes)) (declarations : List Declaration) :
    ∃ fault, readEntity declarations d = .error (.invalidAttribute d.id fault) := by
  obtain ⟨fault, hfault⟩ := exists_error_of_gathered steady_tableNameClause h
  refine ⟨fault, bind_eq_error_iff.2 (.inl ?_)⟩
  rw [Declaration.tableName, tableName, hfault]

theorem fieldParts_of_silent {f : Field} (h : ClauseList.field.Silent (itemsOf f.attributes))
    (declarations : List Declaration) (entity table : String) :
    ∃ fault, fieldParts declarations entity table f = .error (.invalidAttribute entity fault) := by
  obtain ⟨fault, hfault⟩ := exists_error_of_gathered steady_fieldClause h
  refine ⟨fault, bind_eq_error_iff.2 (.inl ?_)⟩
  rw [FieldSpec.ofAttributes, hfault]
  rfl

/-- Every other key is refused the second time, in whichever list. -/
theorem rejectsRepeats_of_not_mem (hk : k ∉ list.overwritten) : RejectsRepeats list k := by
  cases list with
  | entity =>
    intro declarations d hcount
    exact readEntity_of_silent (silent_of_count hk hcount) declarations
  | _ =>
    intro declarations entity table f options hwithin hcount
    exact fieldParts_of_silent (silent_of_within hwithin (silent_of_count hk hcount)) _ _ _

end

/-! ## Keys that are written over -/

section

variable {a b : ColumnOption} (hkey : a.key = b.key) (ha : a.key ∈ ClauseList.column.overwritten)
include hkey ha

theorem ColumnSpec.add_of_overwritten (s : ColumnSpec) :
    (s.add a >>= fun s => s.add b) = s.add b := by
  cases a <;> cases b <;> first | rfl | grind [ColumnOption.key, ClauseList.overwritten]

theorem ColumnSpec.toOption_foldlM_cons_of_overwritten (s : ColumnSpec)
    (between behind : List ColumnOption) :
    ((a :: (between ++ b :: behind)).foldlM add s).toOption =
      ((between ++ b :: behind).foldlM add s).toOption := by
  induction between generalizing s with
  | nil =>
    simp only [List.nil_append, List.foldlM_cons, ← bind_assoc, add_of_overwritten hkey ha]
  | cons c between ih =>
    by_cases hc : a.key = c.key
    · simp only [List.cons_append, List.foldlM_cons, ← bind_assoc, add_of_overwritten hc ha]
    · -- The option steps over the next one, towards the place where it is written over.
      have hstep := slots.toOption_add_add s (.inl hc)
      simp only [List.foldlM_cons] at ih
      simp only [List.cons_append, List.foldlM_cons, ← bind_assoc]
      rw [toOption_bind, hstep, ← toOption_bind, bind_assoc, toOption_bind, toOption_bind]
      exact Option.bind_congr fun s' _ => ih s'

/-- Of two options of such a key the last one counts, wherever they stand. -/
theorem ColumnSpec.toOption_foldlM_of_overwritten (s : ColumnSpec)
    (before between behind : List ColumnOption) :
    ((before ++ a :: (between ++ b :: behind)).foldlM add s).toOption =
      ((before ++ (between ++ b :: behind)).foldlM add s).toOption := by
  rw [List.foldlM_append, List.foldlM_append, toOption_bind, toOption_bind]
  exact Option.bind_congr fun s _ => toOption_foldlM_cons_of_overwritten hkey ha s between behind

end

/-- A text field whose column has these options. -/
def columnField (options : List (List Token)) : Field :=
  ⟨[attributeOf [withOptions "column" options]], "role", .named "String" .name []⟩

/-- A struct that gives its table two names. -/
def renamedStruct : Declaration :=
  ⟨["users"], "users.rs",
    ⟨[attributeOf [setting "table" "users", setting "table" "people"]], "User", []⟩⟩

/-- A key of a column that is given twice, with different values. -/
def contradiction : String → List (List Token)
  | "enum_options" => [setting "enum_options" "guest", setting "enum_options" "owner"]
  | key => [[.ident key], [.ident key, .punct '=' false, .ident "false"]]

theorem within_columnField (options : List (List Token)) :
    Within .column (listItems ([.punct ',' false].intercalate options)) .field
      (itemsOf (columnField options).attributes) :=
  .inside (List.mem_singleton_self _) (hasOptions_withOptions _ _) rfl .here

theorem not_rejectsRepeats_of_mem {list : ClauseList} {k : String} (hk : k ∈ list.overwritten) :
    ¬RejectsRepeats list k := by
  cases list with
  | entity =>
    cases List.mem_singleton.1 hk
    intro hrejects
    obtain ⟨fault, hfault⟩ := hrejects [] renamedStruct (by decide)
    have hread : (readEntity [] renamedStruct).isOk = true := by decide +kernel
    rw [hfault] at hread
    cases hread
  | column =>
    intro hrejects
    have hcount : ∀ key ∈ ClauseList.column.overwritten,
        2 ≤ (keysOf (listItems
          ([.punct ',' false].intercalate (contradiction key)))).count key := by
      decide
    have hread : ∀ key ∈ ClauseList.column.overwritten,
        (fieldParts [] "users::User" "users" (columnField (contradiction key))).isOk = true := by
      decide +kernel
    obtain ⟨fault, hfault⟩ := hrejects [] "users::User" "users" _ _ (within_columnField _)
      (hcount k hk)
    have hread := hread k hk
    rw [hfault] at hread
    cases hread
  | _ => cases hk

/-! ## All keys -/

/-- **An option that is given twice is a fault of the attributes**, in every list and wherever that
stands, but for the table name of a struct and three options of a column. -/
theorem rejectsRepeats_iff (list : ClauseList) (key : String) :
    RejectsRepeats list key ↔ key ∉ list.overwritten :=
  ⟨fun h hk => not_rejectsRepeats_of_mem hk h, rejectsRepeats_of_not_mem⟩

/-- A column that is unique and is not is read as one that is not. -/
theorem fieldParts_contradiction :
    Within .column (contradiction "unique") .field
        (itemsOf (columnField (contradiction "unique")).attributes) ∧
      2 ≤ (keysOf (contradiction "unique")).count "unique" ∧
      (fieldParts [] "users::User" "users" (columnField (contradiction "unique"))).toOption.map
        (·.columns) = some [{ name := "role", type := .string, unique := false }] := by
  have hwithin := within_columnField (contradiction "unique")
  exact ⟨hwithin, by decide, by decide +kernel⟩

end SchemaSync.Entity
