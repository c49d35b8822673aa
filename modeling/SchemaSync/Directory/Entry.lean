/-
Source trees: directories, files and links below a root, and what a scan of
the tree meets. A scan enters directories but not links to directories, and
visits the entries of each directory in the order of their names, whatever
order they are listed in. It meets files, which are read if they have the one
extension that is looked for, and failures: directories that cannot be listed
and entries that cannot be read. Entries whose names are no text are passed
over, for the paths of files are texts.
-/
import SchemaSync.Directory.FileName
namespace SchemaSync.Directory

/-- Where a link leads in the end. -/
inductive LinkTarget where
  /-- A file with this text, or the reason for which it cannot be read as one. -/
  | file (text : Except String String)
  | directory
  | nothing
  deriving Repr

/-- An entry of a directory. -/
inductive Entry where
  /-- A file with this text, or the reason for which it cannot be read as one. -/
  | file (text : Except String String)
  /-- A directory with its entries, each with its name if that is a text, and the reason for which
  they cannot be listed, if there is one. -/
  | directory (failure : Option String) (entries : List (Option String × Entry))
  | link (target : LinkTarget)
  /-- Neither a file nor a directory nor a link. -/
  | special
  /-- An entry that is listed but cannot be read, and the reason. -/
  | unreadable (reason : String)
  deriving Repr

/-- What a scan meets at a path. -/
inductive Sight where
  /-- A file with this text, or the reason for which it cannot be read as one. -/
  | file (text : Except String String)
  /-- A directory that cannot be listed or has an entry which cannot be read, and the reason. -/
  | failure (reason : String)
  deriving Repr

/-- Values behind the paths at which they are met: the names that lead there, their own last. -/
abbrev AtPaths (α : Type) := List (List String × α)

/-- Inserts a named value in front of the values with greater names. -/
def insertByName (p : String × α) : List (String × α) → List (String × α)
  | [] => [p]
  | q :: rest => if p.1 ≤ q.1 then p :: q :: rest else q :: insertByName p rest

/-- Named values in the order of their names. -/
def sortByName (ps : List (String × α)) : List (String × α) :=
  ps.foldr insertByName []

/-- What lies below named entries, in the order of the names and one after the other. -/
def inNameOrder (parts : List (String × AtPaths α)) : AtPaths α :=
  (sortByName parts).flatMap fun (name, below) =>
    below.map fun (path, a) => (name :: path, a)

/-- The entries of a directory that cannot be read, as failures at the directory itself. -/
def failedEntries (entries : List (Option String × Entry)) : AtPaths Sight :=
  entries.filterMap fun
    | (_, .unreadable reason) => some ([], .failure reason)
    | _ => none

mutual

/-- What is met at an entry and below it. -/
def Entry.sights : Entry → AtPaths Sight
  | .file text => [([], .file text)]
  | .directory none entries => failedEntries entries ++ inNameOrder (sightsByName entries)
  | .directory (some reason) _ => [([], .failure reason)]
  | .link (.file text) => [([], .file text)]
  | .link _ | .special | .unreadable _ => []

/-- What is met at each of the entries whose name is a text, behind its name. -/
def sightsByName : List (Option String × Entry) → List (String × AtPaths Sight)
  | [] => []
  | (some name, entry) :: rest => (name, entry.sights) :: sightsByName rest
  | (none, _) :: rest => sightsByName rest

end

/-- A file of a tree: the names that lead to it, its own last, and its text or the reason for which
it cannot be read as one. -/
structure SourceFile where
  path : List String
  text : Except String String
  deriving Repr

/-- A directory of a tree that cannot be listed, or that has an entry which cannot be read. -/
structure Failure where
  path : List String
  reason : String
  deriving DecidableEq, Repr

/-- A directory, the path of which was written as the root. -/
structure SourceTree where
  /-- The path as it was written, none when it is no text. -/
  root : Option String
  /-- The reason for which the entries cannot be listed, if there is one. -/
  failure : Option String := none
  /-- The entries of the directory: none when there is no directory. -/
  entries : List (Option String × Entry)
  deriving Repr

namespace SourceTree

/-- What a scan of the tree meets, in this order. A root whose path is no text is not scanned. -/
def sights (tree : SourceTree) : AtPaths Sight :=
  match tree.root with
  | some _ => (Entry.directory tree.failure tree.entries).sights
  | none => []

/-- The files of the tree with an extension, in the order of their paths. -/
def files (extension : String) (tree : SourceTree) : List SourceFile :=
  tree.sights.filterMap fun
    | (path, .file text) =>
      if path.getLast?.any (hasExtension extension) then some ⟨path, text⟩ else none
    | (_, .failure _) => none

/-- The directories of the tree that cannot be listed or read in full, in the order in which that
is found. -/
def failures (tree : SourceTree) : List Failure :=
  tree.sights.filterMap fun
    | (path, .failure reason) => some ⟨path, reason⟩
    | (_, .file _) => none

/-- The names of a path behind the root. -/
def pathOf (tree : SourceTree) : List String → String
  | [] => tree.root.getD ""
  | names =>
    let root := tree.root.getD ""
    let separator := if root.endsWith "/" then "" else "/"
    root ++ separator ++ "/".intercalate names

end SourceTree

end SchemaSync.Directory
