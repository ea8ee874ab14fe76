import AsmExplorer.Files.Walk
import AsmExplorer.Path.Normalize

/-!
# Reading and writing files

What programs do with files by their paths: reading, writing, making directories and links, removing,
and asking for the canonical path. Relative paths start at a given base.
-/

namespace AsmExplorer

namespace FileSystem

/-- What is read from a node. -/
def contents : Node → Except FileError Bytes
  | .directory => .error .isDirectory
  | .file bytes _ => .ok bytes
  | _ => .ok []

def read (fs : FileSystem) (base : Location) (p : Path) : Except FileError Bytes := do
  let l ← fs.locate base p
  match fs.node? l with
  | some n => contents n
  | none => .error .notFound

def readText (fs : FileSystem) (base : Location) (p : Path) : Except FileError Text := do
  let bytes ← fs.read base p
  match Utf8.decode? bytes with
  | some t => .ok t
  | none => .error .notText

/-- The canonical path of a file: the one path to it that is absolute and free of links. -/
def canonical (fs : FileSystem) (base : Location) (p : Path) : Except FileError Path :=
  (fs.resolve base p).map Location.toPath

/-- The canonical path if there is a file, and otherwise the path in lexical normal form. -/
def canonicalPath (fs : FileSystem) (base : Location) (p : Path) : Path :=
  match fs.canonical base p with
  | .ok q => q
  | .error _ => p.normalize

/-- When the file at a path was last changed and how many bytes it has. -/
structure Stamp where
  modified : Nat
  size : Nat
  deriving DecidableEq, Repr

/-- The size that is told of a directory. -/
def directorySize : Nat := 4096

def sizeOf : Node → Nat
  | .directory => directorySize
  | .file bytes _ => bytes.length
  | _ => 0

def stamp? (fs : FileSystem) (base : Location) (p : Path) : Option Stamp :=
  match fs.locate base p with
  | .ok l => (fs.nodes.get? l).map fun (n, modified) => ⟨modified, sizeOf n⟩
  | .error _ => none

/-- The tree with bytes in place of those of a file, or behind them. -/
def store (fs : FileSystem) (l : Location) (behind : Bool) (bytes : Bytes) :
    Except FileError FileSystem :=
  match fs.node? l with
  | some .directory => .error .isDirectory
  | some (.file old executable) =>
    .ok (fs.put l (.file (if behind then old ++ bytes else bytes) executable))
  | some (.device _) => .ok fs
  | some (.program _) => .error .permissionDenied
  | some (.link _) => .error .tooManyLinks
  | none => .ok (fs.put l (.file bytes false))

/-- The location at which a path can be written. -/
def locateForWriting (fs : FileSystem) (base : Location) (p : Path) : Except FileError Location :=
  match fs.walkPath true base p with
  | .found l => .ok l
  | .vacant l => .ok l
  | .failed e => .error e

/-- Writes a file in a directory that is there. -/
def write (fs : FileSystem) (base : Location) (p : Path) (bytes : Bytes) :
    Except FileError FileSystem := do
  let l ← fs.locateForWriting base p
  fs.store l false bytes

/-- The location of a path whose missing directories are made first. -/
def prepare (fs : FileSystem) (base : Location) (p : Path) : FileSystem × Location :=
  let segments := (p.text.splitOn '/').filter fun s => s ≠ [] ∧ s ≠ ['.']
  segments.dropLast.foldl
    (fun (fs, l) s =>
      match walk fs none true linkLimit l [s] with
      | .found k => (fs, k)
      | .vacant k => (fs.put k .directory, k)
      | .failed _ => (fs, l))
    (fs, startOf base p.text) |> fun (fs, l) => (fs, l ++ segments.getLast?.toList)

/-- Puts a node at a path, making the directories that are missing. A file is written through a link
at the end of the path; anything else replaces what is there. -/
def install (fs : FileSystem) (base : Location) (p : Path) (n : Node) : FileSystem :=
  let (fs, l) := fs.prepare base p
  match n with
  | .file .. =>
    match fs.locateForWriting [] l.toPath with
    | .ok k => fs.put k n
    | .error _ => fs
  | .directory =>
    if (fs.node? l).isSome then fs else fs.put l n
  | _ => fs.put l n

/-- Removes what is at a path: a file, a link, or a directory with all that is in it. -/
def remove (fs : FileSystem) (base : Location) (p : Path) : FileSystem :=
  match fs.walkPath false base p with
  | .found l => fs.delete l
  | _ => fs

/-- Sets the time of the last change to a number of seconds. -/
def setModified (fs : FileSystem) (base : Location) (p : Path) (seconds : Nat) : FileSystem :=
  match fs.locate base p with
  | .ok l =>
    match fs.node? l with
    | some n => { fs with nodes := fs.nodes.insert l (n, seconds * 1000000000) }
    | none => fs
  | .error _ => fs

end FileSystem

end AsmExplorer
