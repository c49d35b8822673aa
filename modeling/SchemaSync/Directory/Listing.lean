/-
Listings: the contents of a directory as one list of paths. A path that runs
on below another stands for that directory. The tree under a root is read off
a listing, with the links in it followed. A scan opens paths that begin with
the root as it was written, so below a long root some are too long to open.
-/
import SchemaSync.Directory.Entry
namespace SchemaSync.Directory

/-- What a path of a listing leads to. -/
inductive Node where
  /-- A file with this text, none when it is no text. -/
  | file (text : Option String)
  | directory
  /-- A link to a path, which starts from the link's own directory. -/
  | link (target : String)
  deriving Repr

/-- The paths of a directory's contents, each as its names. -/
abbrev Listing := List (List String × Node)

/-- The names in a path, with the empty ones between slashes. -/
def pathNames (path : String) : List String :=
  (path.toList.splitOn '/').map String.ofList

namespace Listing

/-- The listing of paths as they are written. -/
def ofPaths (paths : List (String × Node)) : Listing :=
  paths.map fun (path, node) => ((pathNames path).filter (· ≠ ""), node)

/-- The node at a path: one that is listed, or a directory above one. -/
def node? (l : Listing) (path : List String) : Option Node :=
  match l.find? (·.1 = path) with
  | some (_, node) => some node
  | none => if path.isEmpty || l.any (fun p => path.isPrefixOf p.1) then some .directory else none

/--
The path without links that names lead to from a directory, none when they lead to nothing or out
of the listing. `jump` goes on from the directory of a link with the names behind it.
-/
def walk (l : Listing) (jump : List String → List String → Option (List String))
    (directory : List String) : List String → Option (List String)
  | [] => some directory
  | name :: names =>
    if name = "" ∨ name = "." then walk l jump directory names
    else if name = ".." then
      if directory.isEmpty then none else walk l jump directory.dropLast names
    else
      match l.node? (directory ++ [name]) with
      | some .directory => walk l jump (directory ++ [name]) names
      | some (.file _) => if names.isEmpty then some (directory ++ [name]) else none
      | some (.link target) =>
        if target.startsWith "/" then none else jump directory (pathNames target ++ names)
      | none => none

/-- The path without links that names lead to from a directory, over at most so many links. -/
def follow (l : Listing) : Nat → List String → List String → Option (List String)
  | 0 => walk l fun _ _ => none
  | links + 1 => walk l (follow l links)

/-- The number of links that may lead from one path to another. -/
def maxLinks : Nat := 40

/-- The number of bytes that a path may have. What stands at longer ones is listed in its directory
and cannot be opened. -/
def maxPathSize : Nat := 4095

/-- The reason for which a directory at a longer path cannot be listed. -/
def pathTooLong : String := "File name too long (os error 36)"

/-- The text of a file, or the reason for which it cannot be read as one. -/
def readText : Option String → Except String String
  | some text => .ok text
  | none => .error "stream did not contain valid UTF-8"

/-- Where a link in a directory leads in the end. -/
def linkTarget (l : Listing) (directory : List String) (target : String) : LinkTarget :=
  let names :=
    if target.startsWith "/" then none else l.follow maxLinks directory (pathNames target)
  match names.bind l.node? with
  | some (.file text) => .file (readText text)
  | some .directory => .directory
  | _ => .nothing

/-- The names of the entries of a directory, each once, in the order of the listing. -/
def namesIn (l : Listing) (directory : List String) : List String :=
  (l.filterMap fun (path, _) =>
    if directory.isPrefixOf path then (path.drop directory.length).head? else none).eraseDups

/-- The entries of a directory, down to a depth. `size` is that of the path with which the directory
is opened, up to the names of its entries. -/
def entries (l : Listing) (depth size : Nat) (directory : List String) :
    List (Option String × Entry) :=
  match depth with
  | 0 => []
  | depth + 1 =>
    (l.namesIn directory).filterMap fun name =>
      let inner := directory ++ [name]
      let size := size + name.utf8ByteSize
      let isShort := decide (size ≤ maxPathSize)
      (l.node? inner).map fun
        | .file text => (some name, if isShort then .file (readText text) else .special)
        | .directory =>
          (some name, .directory (if isShort then none else some pathTooLong)
            (l.entries depth (size + 1) inner))
        | .link target =>
          (some name, .link (if isShort then l.linkTarget directory target else .nothing))

/-- The tree under a root. -/
def tree (l : Listing) (root : String) : SourceTree :=
  let depth := (l.flatMap (·.1)).length + 1
  let size := root.utf8ByteSize
  let directory := if root = "" || root.startsWith "/" || maxPathSize < size then none
    else l.follow maxLinks [] (pathNames root)
  match directory with
  | some directory =>
    match l.node? directory with
    | some .directory =>
      { root, entries := l.entries depth (if root.endsWith "/" then size else size + 1) directory }
    | _ => { root, entries := [] }
  | none => { root, entries := [] }

end Listing

end SchemaSync.Directory
