import AsmExplorer.Files.Walk
import AsmExplorer.Text.Octets

/-!
# Looking for programs

Where the program is that a name stands for. A name with a slash is a path; any other name is looked
for in the directories of a search path, in which an empty entry is the current directory.
-/

namespace AsmExplorer

namespace Lookup

/-- The file at a path, if it can be executed. -/
def executableAt (fs : FileSystem) (base : Location) (t : Text) : Except FileError Node := do
  let l ← fs.locate base ⟨Octets.toText t⟩
  match fs.node? l with
  | some n => if FileSystem.isExecutable n then return n else throw .permissionDenied
  | none => throw .notFound

/-- The paths that a name may stand for. -/
def candidates (searchPath name : Text) : List Text :=
  (searchPath.splitOn ':').map fun directory =>
    if directory.isEmpty then name else directory ++ '/' :: name

/-- Whether a search goes on with the next directory after an error. -/
def isPassedOver (e : FileError) : Bool :=
  e == .notFound || e == .notDirectory || e == .permissionDenied

/-- The first of some paths at which there is a program. A file that cannot be executed is passed over,
and told of only if there is no program. -/
def first (fs : FileSystem) (base : Location) (refused : Bool) : List Text → Except FileError Text
  | [] => .error (if refused then .permissionDenied else .notFound)
  | t :: ts =>
    match executableAt fs base t with
    | .ok _ => .ok t
    | .error e =>
      if isPassedOver e then first fs base (refused || e == .permissionDenied) ts else .error e

/-- The path of the program that a name stands for. -/
def find (fs : FileSystem) (base : Location) (searchPath name : Text) : Except FileError Text :=
  if name.isEmpty then .error .notFound
  else if name.contains '/' then (executableAt fs base name).map fun _ => name
  else if FileSystem.nameLimit < name.length then .error .nameTooLong
  else first fs base false (candidates searchPath name)

end Lookup

end AsmExplorer
