/-
Declarations: the structs in the files of a source tree, each known by an
identifier made of the modules around it and its name. Directories, entries
and files that cannot be read contribute nothing, or end the scan in strict
mode: the first failure of a directory does so before any file is loaded.
-/
import SchemaSync.Entity.TableName
import SchemaSync.Error
import SchemaSync.Source.File
import SchemaSync.Directory.Entry
namespace SchemaSync.Entity

open Source Directory

/-- A struct in a source tree. -/
structure Declaration where
  /-- The names of the modules around the struct, the outermost first. -/
  module : List String
  /-- The path of the file. -/
  path : String
  item : Struct
  deriving Repr

namespace Declaration

/-- The name of the struct. -/
def name (d : Declaration) : String :=
  d.item.name

/-- The identifier: the names of the modules and of the struct, with two colons between them. -/
def id (d : Declaration) : String :=
  "::".intercalate (d.module ++ [d.name])

/-- Whether the struct is an entity. -/
def isEntity (d : Declaration) : Bool :=
  hasTableMarker d.item.attributes

end Declaration

/-- The declarations in a file of a tree. -/
def fileDeclarations (tree : SourceTree) (file : SourceFile) : Except Error (List Declaration) :=
  let path := tree.pathOf file.path
  match file.text with
  | .error reason => .error (.unreadable path reason)
  | .ok text =>
    match readFile? text with
    | none => .error (.malformed path)
    | some items =>
      .ok ((structs (modulePath file.path) items).map fun (module, item) => ⟨module, path, item⟩)

/-- The declarations in files, one file after the other. -/
def declarationsIn (mode : ScanMode) (tree : SourceTree) :
    List SourceFile → Except Error (List Declaration)
  | [] => .ok []
  | file :: files =>
    match fileDeclarations tree file, mode with
    | .error e, .strict => .error e
    | .error _, .lenient => declarationsIn mode tree files
    | .ok found, _ => (declarationsIn mode tree files).map (found ++ ·)

/-- The error that reports a failure of a directory. -/
def failureError (tree : SourceTree) (failure : Failure) : Error :=
  .unreadable (tree.pathOf failure.path) failure.reason

/-- The declarations in the files of a tree that have the extension. -/
def declarations (mode : ScanMode) (extension : String) (tree : SourceTree) :
    Except Error (List Declaration) :=
  match mode, tree.failures with
  | .strict, failure :: _ => .error (failureError tree failure)
  | _, _ => declarationsIn mode tree (tree.files extension)

end SchemaSync.Entity
