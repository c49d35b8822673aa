/-
Relationships whose target is a struct that is no entity.

Where such a target is looked up, the read ends in either mode: the entity
cannot be read then, and a lenient read does not get over that
(`read_fails_at_unmarked_target`). Two things may keep it from being looked up.
The inverse side of a relationship between many entities owns nothing, so its
target is left alone; and an entity is read up to the first thing that is wrong
with it, which a lenient read may get over (`unmarked_target_passed_over`).
-/
import SchemaSync.Proofs.Entity.Failure

namespace SchemaSync.Entity

open Directory

/-- The entity on the other side, as it is written. -/
def Relation.target : Relation → String
  | manyToOne target _ => target
  | oneToMany target _ => target
  | manyToMany target _ _ => target

/-- Whether the field on the other side is the one that declares the relationship. -/
def Relation.isInverse : Relation → Bool
  | manyToMany _ _ (some _) => true
  | _ => false

/-- The relationship of a field whose attributes can be read, and the struct that its target means,
if that is no entity. -/
def unmarkedTarget? (declarations : List Declaration) (f : Source.Field) :
    Option (Relation × Declaration) :=
  match FieldSpec.ofAttributes f.attributes with
  | .ok s => s.relation.bind fun r =>
    ((resolve declarations r.target).filter fun u => !u.isEntity).map fun u => (r, u)
  | .error _ => none

/-- Whether the own column of a field, if it has one, can be read. -/
def readsColumn (entity : String) (f : Source.Field) : Bool :=
  match FieldSpec.ofAttributes f.attributes with
  | .ok s => s.column.all fun column => (column.column entity f.name f.type).isOk
  | .error _ => false

/-- Whether a lenient read gets over nothing in front of the relationship of a field: not over the
table name of its entity, the fields `before` it, or its own column. -/
def isReached (declarations : List Declaration) (d : Declaration) (before : List Source.Field)
    (f : Source.Field) : Bool :=
  match d.tableName with
  | .ok name =>
    readsColumn d.id f &&
      before.all fun g =>
        match fieldParts declarations d.id name g with
        | .ok _ => true
        | .error e => e.isFatal
  | .error _ => false

section

variable {declarations : List Declaration} {d u : Declaration} {before after : List Source.Field}
  {f : Source.Field} {r : Relation} {entity table : String}

theorem unmarkedTarget?_eq_some_iff :
    unmarkedTarget? declarations f = some (r, u) ↔
      ∃ s, FieldSpec.ofAttributes f.attributes = .ok s ∧ s.relation = some r ∧
        resolve declarations r.target = some u ∧ u.isEntity = false := by
  unfold unmarkedTarget?
  split
  · next s hs =>
    simp only [hs, Option.bind_eq_some_iff, Option.map_eq_some_iff, Option.filter_eq_some_iff,
      Bool.not_eq_true', Prod.mk.injEq, Except.ok.injEq, exists_eq_left']
    constructor
    · rintro ⟨r', hr, v, ⟨hv, hunmarked⟩, rfl, rfl⟩
      exact ⟨hr, hv, hunmarked⟩
    · rintro ⟨hr, hu, hunmarked⟩
      exact ⟨r, hr, u, ⟨hu, hunmarked⟩, rfl, rfl⟩
  · next fault hfault => simp [hfault]

/-! ## What is reached -/

theorem exists_column_of_readsColumn {s : FieldSpec} {column : ColumnSpec}
    (h : readsColumn entity f = true) (hs : FieldSpec.ofAttributes f.attributes = .ok s)
    (hcolumn : s.column = some column) : ∃ c, column.column entity f.name f.type = .ok c := by
  simp only [readsColumn, hs, hcolumn, Option.all_some] at h
  cases hc : column.column entity f.name f.type with
  | ok c => exact ⟨c, rfl⟩
  | error e =>
    rw [hc] at h
    cases h

theorem isReached_eq_true_iff :
    isReached declarations d before f = true ↔
      ∃ name, d.tableName = .ok name ∧ readsColumn d.id f = true ∧
        ∀ g ∈ before, ∀ e, fieldParts declarations d.id name g = .error e → e.isFatal = true := by
  unfold isReached
  split
  · next name hname =>
    simp only [Bool.and_eq_true, List.all_eq_true, hname, Except.ok.injEq, exists_eq_left']
    refine and_congr_right fun _ => forall₂_congr fun g _ => ?_
    split
    · next parts hparts => simp [hparts]
    · next e he => simp [he]
  · next e he => simp [he]

/-! ## A field whose target is no entity -/

theorem targetTable_of_unmarked (entity : String) {target : String}
    (hu : resolve declarations target = some u) (hunmarked : u.isEntity = false) :
    targetTable declarations entity target = .error (.missingTableMarker u.id) := by
  simp [targetTable, hu, hunmarked]

/-- Every relationship but an inverse one has its target looked up first. -/
theorem relationParts_of_unmarked {field : String} {s : FieldSpec} (hr : s.relation = some r)
    (hdirect : r.isInverse = false) (hu : resolve declarations r.target = some u)
    (hunmarked : u.isEntity = false) :
    relationParts declarations entity table field s = .error (.missingTableMarker u.id) := by
  have htarget := targetTable_of_unmarked entity hu hunmarked
  unfold relationParts
  cases r with
  | manyToOne target inversedBy =>
    simp only [hr]
    exact bind_eq_error_iff.2 (.inl htarget)
  | oneToMany target mappedBy =>
    simp only [hr]
    exact bind_eq_error_iff.2 (.inl htarget)
  | manyToMany target inversedBy mappedBy =>
    cases mappedBy with
    | none =>
      simp only [hr]
      exact bind_eq_error_iff.2 (.inl htarget)
    | some owner => cases hdirect

/-- A field cannot be read then; behind a column that can, the target is what it fails for. -/
theorem fieldParts_of_unmarked (entity table : String)
    (h : unmarkedTarget? declarations f = some (r, u)) (hdirect : r.isInverse = false) :
    ∃ e, fieldParts declarations entity table f = .error e ∧
      (readsColumn entity f = true → e = .missingTableMarker u.id) := by
  obtain ⟨s, hs, hr, hu, hunmarked⟩ := unmarkedTarget?_eq_some_iff.1 h
  have hrelation : relationParts declarations entity table f.name s =
      .error (.missingTableMarker u.id) := relationParts_of_unmarked hr hdirect hu hunmarked
  have hspec : ∀ {s'}, FieldSpec.ofAttributes f.attributes = .ok s' → s' = s := fun hs' =>
    Except.ok.inj (hs'.symm.trans hs)
  cases hparts : fieldParts declarations entity table f with
  | ok parts =>
    obtain ⟨s', own, relation, hs', hok, -⟩ := exists_of_fieldParts hparts
    rw [hspec hs', hrelation] at hok
    cases hok
  | error e =>
    refine ⟨e, rfl, fun hcolumn => ?_⟩
    rcases fieldParts_error_cases hparts with ⟨fault, hfault, -⟩ | ⟨s', hs', hcause⟩
    · rw [hs] at hfault
      cases hfault
    · rw [hspec hs'] at hcause
      rcases hcause with ⟨column, hgiven, hfail⟩ | hfail
      · obtain ⟨c, hc⟩ := exists_column_of_readsColumn hcolumn hs hgiven
        rw [hc] at hfail
        cases hfail
      · rw [hrelation] at hfail
        exact (Except.error.inj hfail).symm

/-- An entity with such a field cannot be read, and a lenient read does not get over that where the
target is looked up. -/
theorem readEntity_of_unmarked (hfields : d.item.fields = before ++ f :: after)
    (h : unmarkedTarget? declarations f = some (r, u)) (hdirect : r.isInverse = false) :
    ∃ e, readEntity declarations d = .error e ∧
      (isReached declarations d before f = true → e.isFatal = true) := by
  cases hname : d.tableName with
  | error e =>
    refine ⟨e, by rw [readEntity, hname]; rfl, fun hreached => ?_⟩
    obtain ⟨name, hok, -⟩ := isReached_eq_true_iff.1 hreached
    rw [hname] at hok
    cases hok
  | ok name =>
    obtain ⟨e₀, hf, htarget⟩ := fieldParts_of_unmarked d.id name h hdirect
    obtain ⟨e, he, hfront⟩ := exists_mapM_error_of_front before after hf
    rw [← hfields] at he
    refine ⟨e, ?_, fun hreached => ?_⟩
    · rw [readEntity, hname]
      exact bind_eq_error_iff.2 (.inr ⟨name, rfl, bind_eq_error_iff.2 (.inl he)⟩)
    · obtain ⟨name', hok, hcolumn, hbefore⟩ := isReached_eq_true_iff.1 hreached
      rw [hname] at hok
      cases hok
      rcases hfront with rfl | ⟨g, hg, hfail⟩
      · rw [htarget hcolumn]
        rfl
      · exact hbefore g hg e hfail

end

/-! ## A whole read -/

/-- **A target that is no entity ends the read.** A strict read fails whatever else is wrong with the
entity. A lenient one fails wherever the field stands, if the relationship is reached, and then for
such a target. The inverse side of a relationship between many entities is left alone. -/
theorem read_fails_at_unmarked_target (mode : ScanMode) (extension : String) (tree : SourceTree)
    {found : List Declaration} {d u : Declaration} {before after : List Source.Field}
    {f : Source.Field} {r : Relation} (hfound : declarations .lenient extension tree = .ok found)
    (hd : d ∈ found) (hentity : d.isEntity = true) (hfields : d.item.fields = before ++ f :: after)
    (hnames : unmarkedTarget? found f = some (r, u)) (hdirect : r.isInverse = false)
    (hreached : mode = .lenient → isReached found d before f = true) :
    ∃ e, readTree mode extension tree = .error e ∧
      (mode = .lenient → ∃ v ∈ found, v.isEntity = false ∧ e = .missingTableMarker v.id) := by
  cases hread : readTree mode extension tree with
  | error e =>
    refine ⟨e, rfl, ?_⟩
    rintro rfl
    obtain ⟨found', hfound', hcause⟩ := lenient_read_error hread
    cases hfound.symm.trans hfound'
    exact hcause
  | ok report =>
    exfalso
    obtain ⟨found', hfound', hread⟩ := bind_eq_ok_iff.1 hread
    -- A strict scan finds what the lenient one does, so the target means the same struct.
    have hsame : declarations .lenient extension tree = .ok found' := by
      cases mode with
      | lenient => exact hfound'
      | strict => exact (declarations_strict_eq_ok_iff.1 hfound').1
    cases hfound.symm.trans hsame
    obtain ⟨outcomes, hmap, haccount, -, hskipped, hstrict⟩ := readEntities_eq_ok_iff.1 hread
    obtain ⟨o, ho, rfl, taken, -, hbecomes⟩ := exists_outcome hmap haccount hd hentity
    obtain ⟨e, he, hfatal⟩ := readEntity_of_unmarked hfields hnames hdirect
    cases hbecomes with
    | listed read fresh => cases he.symm.trans read
    | repeated read old => cases he.symm.trans read
    | faulty read mild =>
      cases he.symm.trans read
      -- The entity was skipped: not in strict mode, and not for an error that is fatal.
      cases mode with
      | lenient => simp [hfatal (hreached rfl)] at mild
      | strict =>
        have hnote : ⟨_, _⟩ ∈ outcomes.flatMap (·.notes) :=
          List.mem_flatMap.2 ⟨_, ho, List.mem_singleton_self _⟩
        rw [← hskipped, hstrict rfl] at hnote
        cases hnote

/-! ## A guest book -/

/-- An entry whose guest is no entity, in front of a column with a fault. -/
def guestBook : SourceTree where
  root := "root"
  entries :=
    [("book.rs", .file (.ok "struct Guest \x7b
    name: String,
\x7d

#[orm(table = \x22entries\x22)]
struct Entry \x7b
    id: i64,
    #[orm(many_to_one(target = \x22Guest\x22))]
    guest: Guest,
    #[orm(column(length))]
    text: String,
\x7d
"))]

theorem read_fails_at_unmarked_target_guestBook :
    ∃ found d u before after f r, declarations .lenient "rs" guestBook = .ok found ∧ d ∈ found ∧
      d.isEntity = true ∧ d.item.fields = before ++ f :: after ∧
      unmarkedTarget? found f = some (r, u) ∧ r.isInverse = false ∧
      isReached found d before f = true ∧
      ∃ e, readTree .lenient "rs" guestBook = .error e ∧
        ∃ v ∈ found, v.isEntity = false ∧ e = .missingTableMarker v.id := by
  have hcheck : (declarations .lenient "rs" guestBook).toOption.map (fun found =>
      found.any fun d => d.isEntity && d.item.fields[1]?.any fun f =>
        isReached found d (d.item.fields.take 1) f &&
          (unmarkedTarget? found f).any fun named => !named.1.isInverse) = some true := by
    decide +kernel
  obtain ⟨found, hfound, hany⟩ := toOption_map_eq_some_iff.1 hcheck
  simp only [List.any_eq_true, Bool.and_eq_true, Option.any_eq_true, Bool.not_eq_true',
    List.getElem?_eq_some_iff] at hany
  obtain ⟨d, hd, hentity, f, ⟨hlength, hf⟩, hreached, ⟨r, u⟩, hnames, hdirect⟩ := hany
  have hfields : d.item.fields = d.item.fields.take 1 ++ f :: d.item.fields.drop 2 := by
    rw [← hf, List.getElem_cons_drop, List.take_append_drop]
  obtain ⟨e, he, hcause⟩ := read_fails_at_unmarked_target .lenient "rs" guestBook hfound hd hentity
    hfields hnames hdirect fun _ => hreached
  exact ⟨found, d, u, _, _, f, r, hfound, hd, hentity, hfields, hnames, hdirect, hreached, e, he,
    hcause rfl⟩

/-! ## Targets that are passed over -/

/-- A read that succeeds although a field of an entity names a struct that is none. -/
def PassesOver (mode : ScanMode) (extension : String) (tree : SourceTree) : Prop :=
  ∃ found, declarations .lenient extension tree = .ok found ∧
    (∃ d ∈ found, d.isEntity = true ∧
      ∃ f ∈ d.item.fields, (unmarkedTarget? found f).isSome = true) ∧
    ∃ report, readTree mode extension tree = .ok report

/-- Tags on the inverse side of their relationship with posts, which are no entity. -/
def orphanedTags : SourceTree where
  root := "root"
  entries :=
    [("blog.rs", .file (.ok "struct Post \x7b
    tags: Vec<Tag>,
\x7d

#[orm(table = \x22tags\x22)]
struct Tag \x7b
    #[orm(many_to_many(target = \x22Post\x22, mapped_by = \x22tags\x22))]
    posts: Vec<Post>,
\x7d
"))]

/-- A post with a place that has no column type, in front of an author who is no entity. -/
def placedPost : SourceTree where
  root := "root"
  entries :=
    [("blog.rs", .file (.ok "struct User \x7b
    id: i64,
\x7d

#[orm(table = \x22posts\x22)]
struct Post \x7b
    #[orm(column)]
    place: Point,
    #[orm(many_to_one(target = \x22User\x22))]
    author: User,
\x7d
"))]

theorem passesOver_of_eval {mode : ScanMode} {extension : String} {tree : SourceTree}
    (h : (declarations mode extension tree).toOption.map (fun found =>
      (readDeclarations mode found).isOk && found.any fun d => d.isEntity &&
        d.item.fields.any fun f => (unmarkedTarget? found f).isSome) = some true) :
    PassesOver mode extension tree := by
  obtain ⟨found, hfound, hcheck⟩ := toOption_map_eq_some_iff.1 h
  simp only [Bool.and_eq_true, List.any_eq_true] at hcheck
  obtain ⟨hok, hnames⟩ := hcheck
  cases hread : readDeclarations mode found with
  | error e =>
    rw [hread] at hok
    cases hok
  | ok report =>
    refine ⟨found, ?_, hnames, report, bind_eq_ok_iff.2 ⟨found, hfound, hread⟩⟩
    cases mode with
    | lenient => exact hfound
    | strict => exact (declarations_strict_eq_ok_iff.1 hfound).1

/-- The inverse side of a relationship is left alone even by a strict read, and a lenient read
skips an entity for what comes first. -/
theorem unmarked_target_passed_over :
    PassesOver .strict "rs" orphanedTags ∧ PassesOver .lenient "rs" placedPost :=
  ⟨passesOver_of_eval (by decide +kernel), passesOver_of_eval (by decide +kernel)⟩

end SchemaSync.Entity
