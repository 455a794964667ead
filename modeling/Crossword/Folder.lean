import Crossword.Error

/-!
# Folders

Files held in memory: a folder with named files and folders in it, at any depth. Paths are followed
from this folder as a file system does, one name at a time, with `.` for the same folder, `..` for
the one above and a slash at the end for a folder; this holds for a path that is read and for one
at which something is added. Of the folders around it nothing is known but what was added there.
-/

namespace Crossword

/-- What a path in a folder stands for. -/
inductive FolderEntry where
  | file (bytes : ByteArray)
  | folder

/-- A way from the folder where paths begin: the names on it, the innermost first. A way out of
that folder begins with a `..` for each folder that it leaves, one from the top with `/`. -/
abbrev Trail := List String

/-- The trail of the folder above; the top has none above it. -/
def Trail.above : Trail → Trail
  | [] => [".."]
  | name :: trail =>
    if name = "/" then [name]
    else if name = ".." then ".." :: name :: trail
    else trail

/-- The entries of a folder by their trails; of several with one trail the latest, which is first,
counts. -/
structure Folder where
  entries : List (Trail × FolderEntry)

/-- A place that the steps of a path can reach. -/
inductive Place where
  | folder (trail : Trail)
  | file (bytes : ByteArray)

namespace Folder

/-- The greatest length of a name, in bytes. -/
def maxName : Nat := 255

/-- The greatest length of a path, in bytes. -/
def maxPath : Nat := 4095

/-- Holds of the names that stay in the same folder. -/
def staysHere (name : String) : Bool := name = "" || name = "."

/-- The folder without entries. -/
def empty : Folder := ⟨[]⟩

/-- Puts an entry at the end of a trail, in place of the one that was there. -/
def put (f : Folder) (trail : Trail) (entry : FolderEntry) : Folder :=
  ⟨(trail, entry) :: f.entries⟩

/-- Follows one step of a path; only a folder can be gone on from. -/
def step (f : Folder) : Place → String → Except SystemFault Place
  | .file _, _ => .error .notADirectory
  | .folder trail, name =>
    if staysHere name then .ok (.folder trail)
    else if name.utf8ByteSize > maxName then .error .nameTooLong
    else if name = ".." then .ok (.folder (Trail.above trail))
    else
      match f.entries.lookup (name :: trail) with
      | some (.file bytes) => .ok (.file bytes)
      | some .folder => .ok (.folder (name :: trail))
      | none => .error .notFound

/-- Follows the steps of a path. -/
def walk (f : Folder) (place : Place) : List String → Except SystemFault Place
  | [] => .ok place
  | name :: rest => do
    let place ← f.step place name
    f.walk place rest

/-- Follows the steps of a path and makes the folders on it that are missing. -/
def walkMaking (f : Folder) (place : Place) : List String → Except SystemFault (Folder × Place)
  | [] => .ok (f, place)
  | name :: rest =>
    match place, f.step place name with
    | .folder trail, .error .notFound =>
      (f.put (name :: trail) .folder).walkMaking (.folder (name :: trail)) rest
    | _, .error fault => .error fault
    | _, .ok next => f.walkMaking next rest

/-- Where a path begins: a slash in front takes it to the top. -/
def origin (path : String) : Place := .folder (if path.startsWith "/" then ["/"] else [])

/-- The steps of a path. -/
def stepsOf (path : String) : Except FileFault (List String) :=
  if path.contains '\x00' then .error .nulInPath
  else if path = "" then .error (.system .notFound)
  else if path.utf8ByteSize > maxPath then .error (.system .nameTooLong)
  else .ok (path.splitOn "/")

/-- The bytes of the file at a path. -/
def read (f : Folder) (path : String) : Except FileFault ByteArray := do
  let names ← stepsOf path
  match f.walk (origin path) names with
  | .error fault => .error (.system fault)
  | .ok (.file bytes) => .ok bytes
  | .ok (.folder _) => .error (.system .isADirectory)

/-- Makes the folder at a path, with those on the way to it. -/
def addFolder (f : Folder) (path : String) : Except FileFault Folder := do
  let names ← stepsOf path
  match f.walkMaking (origin path) names with
  | .error fault => .error (.system fault)
  | .ok (_, .file _) => .error (.system .notADirectory)
  | .ok (f, .folder _) => .ok f

/-- Puts a file at a path, in place of the file that was there, and makes the folders on the way to
it. -/
def addFile (f : Folder) (path : String) (bytes : ByteArray) : Except FileFault Folder := do
  let names ← stepsOf path
  let name := names.getLastD ""
  match f.walkMaking (origin path) names.dropLast with
  | .error fault => .error (.system fault)
  | .ok (_, .file _) => .error (.system .notADirectory)
  | .ok (f, .folder trail) =>
    match f.step (.folder trail) name with
    | .ok (.folder _) => .error (.system .isADirectory)
    | .ok (.file _) | .error .notFound => .ok (f.put (name :: trail) (.file bytes))
    | .error fault => .error (.system fault)

end Folder

end Crossword
