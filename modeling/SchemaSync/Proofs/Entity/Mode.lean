/-
What a strict read says about the lenient one of the same source tree.

The modes part in three places only: at a directory that cannot be listed or
read in full, at a file that does not load, and at an entity that is skipped.
Where none of them is met they give the same report, and a strict read that
succeeds has met none (`strict_read_eq_ok_iff`). That all files load does not
do: what cannot be listed may hold no file at all (`sealedDrafts`). With
nothing skipped, every declared table is listed, so no reference is open.
-/
import SchemaSync.Proofs.Directory.Scan
import SchemaSync.Proofs.Entity.Reference

namespace SchemaSync.Entity

open Directory

/-- Whether a file of a tree is text that can be read. -/
def Loads (tree : SourceTree) (file : SourceFile) : Prop :=
  ∃ found, fileDeclarations tree file = .ok found

section

variable {extension : String} {tree : SourceTree} {r : Report}

/-! ## Files -/

theorem loads_iff_isOk {file : SourceFile} :
    Loads tree file ↔ (fileDeclarations tree file).isOk = true := by
  unfold Loads
  cases fileDeclarations tree file <;> simp [Except.isOk, Except.toBool]

instance (file : SourceFile) : Decidable (Loads tree file) :=
  decidable_of_iff _ loads_iff_isOk.symm

/-- A strict scan finds what the lenient one finds, if every file loads. -/
theorem declarationsIn_strict_eq_ok_iff {files : List SourceFile} {found : List Declaration} :
    declarationsIn .strict tree files = .ok found ↔
      declarationsIn .lenient tree files = .ok found ∧ ∀ file ∈ files, Loads tree file := by
  induction files generalizing found with
  | nil => simp [declarationsIn]
  | cons file files ih =>
    rw [List.forall_mem_cons]
    cases hfile : fileDeclarations tree file with
    | error e =>
      have hfails : ¬ Loads tree file := by
        rintro ⟨own, hown⟩
        rw [hfile] at hown
        cases hown
      simp [declarationsIn, hfile, hfails]
    | ok own =>
      have hloads : Loads tree file := ⟨own, hfile⟩
      simp only [declarationsIn, hfile, map_eq_ok_iff, ih, hloads, true_and]
      constructor
      · rintro ⟨rest, ⟨hrest, hall⟩, rfl⟩
        exact ⟨⟨rest, hrest, rfl⟩, hall⟩
      · rintro ⟨⟨rest, hrest, rfl⟩, hall⟩
        exact ⟨rest, ⟨hrest, hall⟩, rfl⟩

theorem declarations_lenient :
    declarations .lenient extension tree =
      declarationsIn .lenient tree (tree.files extension) :=
  rfl

theorem declarations_of_listed {mode : ScanMode} (h : mode = .strict → tree.failures = []) :
    declarations mode extension tree = declarationsIn mode tree (tree.files extension) := by
  cases mode with
  | lenient => exact declarations_lenient
  | strict => simp only [declarations, h rfl]

/-- The first failure of a directory ends a strict scan. -/
theorem declarations_strict_of_failures_ne_nil (h : tree.failures ≠ []) :
    ∃ failure ∈ tree.failures,
      declarations .strict extension tree = .error (failureError tree failure) := by
  obtain ⟨failure, rest, hfailures⟩ := List.exists_cons_of_ne_nil h
  exact ⟨failure, by simp [hfailures], by simp only [declarations, hfailures]⟩

/-- A strict scan finds what the lenient one finds, if every directory and file can be read. -/
theorem declarations_strict_eq_ok_iff {found : List Declaration} :
    declarations .strict extension tree = .ok found ↔
      declarations .lenient extension tree = .ok found ∧ tree.failures = [] ∧
        ∀ file ∈ tree.files extension, Loads tree file := by
  by_cases hnone : tree.failures = []
  · rw [declarations_of_listed fun _ => hnone, declarations_lenient,
      declarationsIn_strict_eq_ok_iff]
    simp [hnone]
  · obtain ⟨failure, -, herror⟩ : ∃ failure ∈ tree.failures,
        declarations .strict extension tree = .error (failureError tree failure) :=
      declarations_strict_of_failures_ne_nil hnone
    simp [herror, hnone]

/-! ## Entities -/

/-- A strict read yields what the lenient one yields, if that one skips nothing. -/
theorem readEntities_strict_eq_ok_iff {declarations entities : List Declaration} :
    readEntities .strict declarations entities = .ok r ↔
      readEntities .lenient declarations entities = .ok r ∧ r.skipped = [] := by
  rw [readEntities_eq_ok_iff, readEntities_eq_ok_iff]
  constructor
  · rintro ⟨outcomes, hmap, haccount, htables, hskipped, hmode⟩
    exact ⟨⟨outcomes, hmap, haccount, htables, hskipped, nofun⟩, hmode rfl⟩
  · rintro ⟨⟨outcomes, hmap, haccount, htables, hskipped, -⟩, hnone⟩
    exact ⟨outcomes, hmap, haccount, htables, hskipped, fun _ => hnone⟩

/-- A read that skips nothing leaves no reference open. -/
theorem closed_of_readDeclarations {mode : ScanMode} {declarations : List Declaration}
    (h : readDeclarations mode declarations = .ok r) (hnone : r.skipped = []) :
    r.schema.Closed := by
  obtain ⟨outcomes, hmap, haccount, htables, hskipped, -⟩ := readEntities_eq_ok_iff.1 h
  intro t ht fk hfk
  rw [htables] at ht
  obtain ⟨hcolumn, d, hd, hentity, hname⟩ := refersToDeclared_of_account hmap haccount ht fk hfk
  rcases listed_or_unread hmap haccount hd hentity hname with hlisted | ⟨e, -, hnote⟩
  · exact ⟨hcolumn, contains_of_listed htables hlisted⟩
  · rw [← hskipped, hnone] at hnote
    cases hnote

end

/-- **Strict mode is lenient mode where nothing is left out.** A strict read succeeds exactly when
the lenient one does with the same report, nothing skipped, no directory or entry of one failed, and
every file loaded; and then every foreign key refers to a table of the schema. -/
theorem strict_read_eq_ok_iff (extension : String) (tree : SourceTree) (r : Report) :
    (readTree .strict extension tree = .ok r ↔
      readTree .lenient extension tree = .ok r ∧ r.skipped = [] ∧
        (∀ path reason, ¬ tree.Meets path (.failure reason)) ∧
        ∀ file ∈ tree.files extension, Loads tree file) ∧
    (readTree .strict extension tree = .ok r → r.schema.Closed) := by
  have hiff : readTree .strict extension tree = .ok r ↔
      ∃ found, (declarations .lenient extension tree = .ok found ∧ tree.failures = [] ∧
        ∀ file ∈ tree.files extension, Loads tree file) ∧
        readDeclarations .lenient found = .ok r ∧ r.skipped = [] := by
    simp only [readTree, bind_eq_ok_iff, declarations_strict_eq_ok_iff, readDeclarations,
      readEntities_strict_eq_ok_iff]
  rw [hiff, ← failures_eq_nil_iff]
  refine ⟨⟨?_, ?_⟩, ?_⟩
  · rintro ⟨found, ⟨hfound, hlisted, hloads⟩, hread, hnone⟩
    exact ⟨bind_eq_ok_iff.2 ⟨found, hfound, hread⟩, hnone, hlisted, hloads⟩
  · rintro ⟨h, hnone, hlisted, hloads⟩
    obtain ⟨found, hfound, hread⟩ := bind_eq_ok_iff.1 h
    exact ⟨found, ⟨hfound, hlisted, hloads⟩, hread, hnone⟩
  · rintro ⟨found, -, hread, hnone⟩
    exact closed_of_readDeclarations hread hnone

/-! ## A blog -/

/-- Posts with an author and tags, in front of the users and the tags. -/
def taggedBlog : SourceTree where
  root := "root"
  entries :=
    [("posts.rs", .file (.ok "#[orm(table = \x22posts\x22)]
struct Post \x7b
    #[orm(many_to_one(target = \x22User\x22))]
    author: User,
    #[orm(many_to_many(target = \x22Tag\x22))]
    tags: Vec<Tag>,
\x7d
")),
      ("users.rs", .file (.ok "#[orm(table = \x22users\x22)]
struct User \x7b
    #[orm(column(primary_key))]
    id: i64,
\x7d

#[orm(table = \x22tags\x22)]
struct Tag \x7b
    #[orm(column)]
    name: String,
\x7d
"))]

theorem strict_read_eq_ok_taggedBlog :
    ∃ r, readTree .strict "rs" taggedBlog = .ok r ∧
      r.schema.tables.map (·.name) = ["posts", "users", "tags", "posts_tags"] ∧
      readTree .lenient "rs" taggedBlog = .ok r ∧ r.skipped = [] ∧
      (∀ path reason, ¬ taggedBlog.Meets path (.failure reason)) ∧
      (∀ file ∈ taggedBlog.files "rs", Loads taggedBlog file) ∧ r.schema.Closed := by
  have hread : (readTree .strict "rs" taggedBlog).toOption.map
      (fun r => r.schema.tables.map (·.name)) =
      some ["posts", "users", "tags", "posts_tags"] := by decide +kernel
  obtain ⟨r, h, hnames⟩ := toOption_map_eq_some_iff.1 hread
  obtain ⟨hiff, hclosed⟩ := strict_read_eq_ok_iff "rs" taggedBlog r
  obtain ⟨hlenient, hnone, hlisted, hloads⟩ := hiff.1 h
  exact ⟨r, h, hnames, hlenient, hnone, hlisted, hloads, hclosed h⟩

/-- Posts beside a directory without a file, which cannot be listed. -/
def sealedDrafts : SourceTree where
  root := "root"
  entries :=
    [("drafts", .directory (some "Permission denied (os error 13)") []),
      ("posts.rs", .file (.ok "#[orm(table = \x22posts\x22)]
struct Post \x7b
    #[orm(column(primary_key))]
    id: i64,
\x7d
"))]

/-- A lenient read skips no entity and loads every file, and yet a strict one fails. -/
theorem strict_read_fails_sealedDrafts :
    (∃ r, readTree .lenient "rs" sealedDrafts = .ok r ∧
      r.schema.tables.map (·.name) = ["posts"] ∧ r.skipped = []) ∧
    (∀ file ∈ sealedDrafts.files "rs", Loads sealedDrafts file) ∧
    readTree .strict "rs" sealedDrafts =
      .error (.unreadable "root/drafts" "Permission denied (os error 13)") := by
  refine ⟨?_, by decide +kernel, ?_⟩
  · have hread : (readTree .lenient "rs" sealedDrafts).toOption.map
        (fun r => (r.schema.tables.map (·.name), r.skipped)) = some (["posts"], []) := by
      decide +kernel
    obtain ⟨r, h, hseen⟩ := toOption_map_eq_some_iff.1 hread
    obtain ⟨hnames, hskipped⟩ := Prod.mk.inj hseen
    exact ⟨r, h, hnames, hskipped⟩
  · have hfailures : sealedDrafts.failures = [⟨["drafts"], "Permission denied (os error 13)"⟩] := by
      decide +kernel
    have hpath : sealedDrafts.pathOf ["drafts"] = "root/drafts" := by decide +kernel
    simp only [readTree, declarations, hfailures, failureError, hpath]
    rfl

end SchemaSync.Entity
