/-
File names: the stem and the extension of a name, and the module that a file
stands for by its place in a tree.
-/
namespace SchemaSync.Directory

/--
The stem and the extension of a file name. The last dot parts them; a name without a dot, or with
its only dot at the front, is all stem.
-/
def splitName (name : String) : String × Option String :=
  let reversed := name.toList.reverse
  match reversed.dropWhile (· ≠ '.') with
  | '.' :: c :: before =>
    (String.ofList (c :: before).reverse,
      some (String.ofList (reversed.takeWhile (· ≠ '.')).reverse))
  | _ => (name, none)

/-- A file name in front of its extension. -/
def stem (name : String) : String :=
  (splitName name).1

/-- Whether a file name has this extension. -/
def hasExtension (extension name : String) : Bool :=
  (splitName name).2 = some extension

/-- The stems of files that stand for the module of their directory. -/
def directoryStems : List String :=
  ["mod", "lib", "main"]

/-- The module that a file stands for: its directories and its own stem. -/
def modulePath : List String → List String
  | [] => []
  | [name] => if stem name ∈ directoryStems then [] else [stem name]
  | directory :: path => directory :: modulePath path

end SchemaSync.Directory
