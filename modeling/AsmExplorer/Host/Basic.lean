import AsmExplorer.Failure
import AsmExplorer.Files.Access

/-!
# The host

What a request finds around it: the files, the current directory, the directories in which programs
are looked for, and the user's own directory.
-/

namespace AsmExplorer

/-- The surroundings of a request. -/
structure Host where
  files : FileSystem
  /-- The current directory. -/
  directory : Location
  /-- The directories in which a program with a bare name is looked for, between colons. -/
  searchPath : Text
  /-- The path of the user's own directory. -/
  home : Text
  deriving Inhabited

namespace Host

def currentDirectory (h : Host) : Path :=
  h.directory.toPath

/-- The canonical path of a file, or the lexical normal form of a path that leads nowhere. -/
def canonicalPath (h : Host) (p : Path) : Path :=
  h.files.canonicalPath h.directory p

def isDirectory (h : Host) (p : Path) : Bool :=
  h.files.isDirectory h.directory p

def pathExists (h : Host) (p : Path) : Bool :=
  h.files.pathExists h.directory p

def readText (h : Host) (p : Path) : Except FileError Text :=
  h.files.readText h.directory p

def stamp? (h : Host) (p : Path) : Option FileSystem.Stamp :=
  h.files.stamp? h.directory p

def names (h : Host) (p : Path) : List Text :=
  match h.files.locate h.directory p with
  | .ok l => if h.files.hasDirectory l then h.files.names l else []
  | .error _ => []

end Host

end AsmExplorer
