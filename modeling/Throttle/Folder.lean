import Throttle.Error

/-!
# Working folders

The folder a program runs in, as data: each name is a file with its text or a
subfolder. Reading a name that is missing, or that is a folder, fails the way the
operating system reports it.
-/

namespace Throttle

/-- What a name in a folder is. -/
inductive Entry where
  | file (text : String)
  | folder
deriving DecidableEq, Inhabited

/-- A folder's entries by name. -/
structure Folder where
  entries : List (String × Entry)
deriving Inhabited

namespace Folder

/-- The folder with nothing in it. -/
def empty : Folder := ⟨[]⟩

/-- Whether `name` is a file. -/
def isFile (f : Folder) (name : String) : Bool :=
  match f.entries.lookup name with
  | some (.file _) => true
  | _ => false

/-- The text of the file `name`. -/
def read (f : Folder) (name : String) : Except IoFault String :=
  match f.entries.lookup name with
  | some (.file text) => .ok text
  | some .folder => .error .isDirectory
  | none => .error .notFound

end Folder

end Throttle
