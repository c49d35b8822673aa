/-
The readers of items and of their options.

Each reader finds options of the key that it reads (`Keyed`), and the same ones
wherever a clause stands (`Steady`). The items of fields and two of the options of
join tables have lists of options themselves, and say of such a list what its
options say together (`said_fieldClause_congr`, `said_joinTableOption_congr`);
no other option may have a list.
-/
import SchemaSync.Proofs.Entity.Items

namespace SchemaSync.Entity

open Source

/-! ## Options of columns -/

theorem steady_columnOption : Steady ColumnOption.read := by
  intro path rest last last'
  unfold ColumnOption.read
  dsimp only
  split
  · exact steady_string.giving _ path rest last last'
  · exact steady_string.giving _ path rest last last'
  · exact steady_number.giving _ path rest last last'
  · exact steady_flag.giving _ path rest last last'
  · exact steady_flag.giving _ path rest last last'
  · exact steady_default.giving _ path rest last last'
  · exact steady_string.giving _ path rest last last'
  · exact steady_string.giving _ path rest last last'
  · exact steady_number.giving _ path rest last last'
  · exact steady_number.giving _ path rest last last'
  · exact steady_flag.giving _ path rest last last'
  · exact steady_flag.giving _ path rest last last'
  · rfl

theorem keyed_columnOption : Keyed ColumnOption.key ColumnOption.read := by
  intro c a rest h
  unfold ColumnOption.read at h
  split at h
  case h_13 => cases h
  all_goals
    next hkey =>
      obtain ⟨v, -, rfl⟩ := giving_eq_ok_iff.1 h
      exact hkey.symm

/-! ## Options of relationships -/

theorem steady_relationOption (kind : RelationKind) : Steady (RelationOption.read kind) := by
  intro path rest last last'
  unfold RelationOption.read
  dsimp only
  split
  · exact steady_string.giving _ path rest last last'
  · exact steady_string.giving _ path rest last last'
  · exact steady_string.giving _ path rest last last'
  · exact steady_string.giving _ path rest last last'
  · exact steady_string.giving _ path rest last last'
  · rfl

theorem keyed_relationOption (kind : RelationKind) :
    Keyed RelationOption.key (RelationOption.read kind) := by
  intro c a rest h
  unfold RelationOption.read at h
  split at h
  case h_6 => cases h
  all_goals
    next hkey =>
      obtain ⟨v, -, rfl⟩ := giving_eq_ok_iff.1 h
      exact hkey.symm

theorem kind_of_ofSpec {kind : RelationKind} {s : RelationSpec} {r : Relation}
    (h : Relation.ofSpec kind s = .ok r) : r.kind = kind := by
  obtain ⟨target, -, h⟩ := bind_eq_ok_iff.1 h
  cases kind with
  | manyToOne | manyToMany =>
    cases h
    rfl
  | oneToMany =>
    obtain ⟨mappedBy, -, h⟩ := bind_eq_ok_iff.1 h
    cases h
    rfl

/-! ## Options of join columns and join tables -/

theorem steady_joinColumnOption : Steady JoinColumnOption.read := by
  intro path rest last last'
  unfold JoinColumnOption.read
  dsimp only
  split
  · exact steady_string.giving _ path rest last last'
  · exact steady_string.giving _ path rest last last'
  · exact steady_flag.giving _ path rest last last'
  · exact (steady_string.bind _).giving _ path rest last last'
  · rfl

theorem keyed_joinColumnOption : Keyed JoinColumnOption.key JoinColumnOption.read := by
  intro c a rest h
  unfold JoinColumnOption.read at h
  split at h
  case h_5 => cases h
  all_goals
    next hkey =>
      obtain ⟨v, -, rfl⟩ := giving_eq_ok_iff.1 h
      exact hkey.symm

theorem steady_joinTableOption : Steady JoinTableOption.read := by
  intro path rest last last'
  unfold JoinTableOption.read
  dsimp only
  split
  · exact steady_string.giving _ path rest last last'
  · exact (steady_list.bind _).giving _ path rest last last'
  · exact (steady_list.bind _).giving _ path rest last last'
  · rfl

theorem keyed_joinTableOption : Keyed JoinTableOption.key JoinTableOption.read := by
  intro c a rest h
  unfold JoinTableOption.read at h
  split at h
  case h_4 => cases h
  all_goals
    next hkey =>
      obtain ⟨v, -, rfl⟩ := giving_eq_ok_iff.1 h
      exact hkey.symm

/-! ## Items of fields -/

theorem RelationKind.key_of_ofKey? {text : String} {kind : RelationKind}
    (h : RelationKind.ofKey? text = some kind) : kind.key = text := by
  rw [ofKey?] at h
  simpa using List.find?_some h

theorem steady_fieldClause : Steady FieldClause.read := by
  intro path rest last last'
  unfold FieldClause.read
  dsimp only
  split
  · exact (steady_list.bind _).giving _ path rest last last'
  · rfl
  · exact (steady_list.bind _).giving _ path rest last last'
  · exact (steady_list.bind _).giving _ path rest last last'
  · rfl

theorem kind_of_ofKind {kind : RelationKind} {c : Clause} {r : Relation} {rest : List Token}
    (h : FieldClause.ofKind kind c = .ok (r, rest)) : r.kind = kind := by
  obtain ⟨⟨inside, rest'⟩, -, h⟩ := bind_eq_ok_iff.1 h
  obtain ⟨r', hr, h⟩ := bind_eq_ok_iff.1 h
  obtain ⟨s, -, hs⟩ := bind_eq_ok_iff.1 hr
  cases h
  exact kind_of_ofSpec hs

theorem keyed_fieldClause : Keyed FieldClause.key FieldClause.read := by
  intro c a rest h
  unfold FieldClause.read at h
  split at h
  · next kind hkind =>
    obtain ⟨r, hr, rfl⟩ := giving_eq_ok_iff.1 h
    rw [FieldClause.key, kind_of_ofKind hr, RelationKind.key_of_ofKey? hkind]
  case h_5 => cases h
  all_goals
    next hkey _ =>
      obtain ⟨v, -, rfl⟩ := giving_eq_ok_iff.1 h
      exact hkey.symm

theorem FieldClause.read_column {c : Clause} (h : c.path.text = "column") :
    read c = giving column (columnSpec c) := by
  unfold read
  rw [h]
  rfl

theorem FieldClause.read_relation {c : Clause} {kind : RelationKind} (h : c.path.text = kind.key) :
    read c = giving relation (ofKind kind c) := by
  unfold read
  rw [h]
  cases kind <;> rfl

theorem FieldClause.read_joinColumn {c : Clause} (h : c.path.text = "join_column") :
    read c = giving joinColumn (JoinColumnSpec.read c) := by
  unfold read
  rw [h]
  rfl

theorem FieldClause.read_joinTable {c : Clause} (h : c.path.text = "join_table") :
    read c = giving joinTable (JoinTableSpec.read c) := by
  unfold read
  rw [h]
  rfl

/-! ## Items of structs -/

theorem steady_tableNameClause : Steady tableNameClause := by
  intro path rest last last'
  unfold tableNameClause
  dsimp only
  split
  · exact steady_string.bind _ path rest last last'
  · rfl

theorem keyed_tableNameClause : Keyed (fun _ => "table") tableNameClause := by
  intro c a rest h
  unfold tableNameClause at h
  split at h
  · next hname =>
    have hpath : c.path = ⟨false, ["table"]⟩ := by simpa [Path.isName] using hname
    rw [hpath]
    rfl
  · cases h

/-! ## Lists of options -/

/-- What a list of options of a column says. -/
def columnOf (inside : List Token) : Option ColumnSpec :=
  gathered ColumnOption.read ColumnSpec.add {} (listItems inside)

/-- What a list of options of a relationship says. -/
def relationOf (kind : RelationKind) (inside : List Token) : Option Relation :=
  (gathered (RelationOption.read kind) RelationSpec.add {} (listItems inside)).bind
    fun s => (Relation.ofSpec kind s).toOption

/-- What a list of options of a join column says. -/
def joinColumnOf (inside : List Token) : Option JoinColumnSpec :=
  gathered JoinColumnOption.read JoinColumnSpec.add {} (listItems inside)

/-- What a list of options of a join table says. -/
def joinTableOf (inside : List Token) : Option JoinTableSpec :=
  gathered JoinTableOption.read JoinTableSpec.add {} (listItems inside)

section

variable {α : Type} {item item' inside inside' behind : List Token} {path : Path}

theorem toOption_list {x : Except Fault α} {y : Option α} (h : x.toOption = y)
    (behind : List Token) :
    ((do return (← x, behind) : Except Fault (Found α))).toOption = y.map (·, behind) := by
  subst h
  cases x <;> rfl

theorem toOption_columnSpec (path : Path) (inside behind : List Token) :
    (FieldClause.columnSpec ⟨path, .group .paren inside :: behind, true⟩).toOption =
      (columnOf inside).map (·, behind) :=
  toOption_list (toOption_foldClauses steady_columnOption _ inside) behind

theorem toOption_relation (kind : RelationKind) (path : Path) (inside behind : List Token) :
    (FieldClause.ofKind kind ⟨path, .group .paren inside :: behind, true⟩).toOption =
      (relationOf kind inside).map (·, behind) := by
  refine toOption_list ?_ behind
  rw [Relation.ofTokens, toOption_bind, toOption_foldClauses (steady_relationOption kind),
    relationOf]

theorem toOption_joinColumn (path : Path) (inside behind : List Token) :
    (JoinColumnSpec.read ⟨path, .group .paren inside :: behind, true⟩).toOption =
      (joinColumnOf inside).map (·, behind) :=
  toOption_list (toOption_foldClauses steady_joinColumnOption _ inside) behind

theorem toOption_joinTable (path : Path) (inside behind : List Token) :
    (JoinTableSpec.read ⟨path, .group .paren inside :: behind, true⟩).toOption =
      (joinTableOf inside).map (·, behind) :=
  toOption_list (toOption_foldClauses steady_joinTableOption _ inside) behind

/-! ## Items with options -/

theorem said_of_hasOptions (h : HasOptions item path inside behind)
    (read : Clause → Except Fault (Found α)) :
    said read item = (read ⟨path, .group .paren inside :: behind, true⟩).toOption.bind whole := by
  rw [said, h]
  rfl

theorem said_columnOption (h : HasOptions item path inside behind) :
    said ColumnOption.read item = none := by
  rw [said_of_hasOptions h]
  unfold ColumnOption.read
  dsimp only
  split <;> rfl

theorem said_relationOption (h : HasOptions item path inside behind) (kind : RelationKind) :
    said (RelationOption.read kind) item = none := by
  rw [said_of_hasOptions h]
  unfold RelationOption.read
  dsimp only
  split <;> rfl

theorem said_joinColumnOption (h : HasOptions item path inside behind) :
    said JoinColumnOption.read item = none := by
  rw [said_of_hasOptions h]
  unfold JoinColumnOption.read
  dsimp only
  split <;> rfl

/-- An option of a join table says no more of its list than what that says. -/
theorem said_joinTableOption_congr (h : HasOptions item path inside behind)
    (h' : HasOptions item' path inside' behind)
    (hsame : joinColumnOf inside = joinColumnOf inside') :
    said JoinTableOption.read item = said JoinTableOption.read item' := by
  rw [said_of_hasOptions h, said_of_hasOptions h']
  unfold JoinTableOption.read
  dsimp only
  split
  · rfl
  · rw [toOption_giving, toOption_giving, toOption_joinColumn, toOption_joinColumn, hsame]
  · rw [toOption_giving, toOption_giving, toOption_joinColumn, toOption_joinColumn, hsame]
  · rfl

/-- An item of a field says no more of its list than what that says. -/
theorem said_fieldClause_congr (h : HasOptions item path inside behind)
    (h' : HasOptions item' path inside' behind) (hcolumn : columnOf inside = columnOf inside')
    (hrelation : ∀ kind, relationOf kind inside = relationOf kind inside')
    (hjoinColumn : joinColumnOf inside = joinColumnOf inside')
    (hjoinTable : joinTableOf inside = joinTableOf inside') :
    said FieldClause.read item = said FieldClause.read item' := by
  rw [said_of_hasOptions h, said_of_hasOptions h']
  unfold FieldClause.read
  dsimp only
  split
  · rw [toOption_giving, toOption_giving, toOption_relation, toOption_relation, hrelation]
  · rw [toOption_giving, toOption_giving, toOption_columnSpec, toOption_columnSpec, hcolumn]
  · rw [toOption_giving, toOption_giving, toOption_joinColumn, toOption_joinColumn, hjoinColumn]
  · rw [toOption_giving, toOption_giving, toOption_joinTable, toOption_joinTable, hjoinTable]
  · rfl

end

end SchemaSync.Entity
