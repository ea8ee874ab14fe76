import AsmExplorer.Files.Basic

/-!
# Finding files

A path is walked name by name from a start. Each step leaves from a directory; an empty name or `.`
stays, `..` goes up, and a link is replaced by what it holds. At most forty links are followed.
Where the last name is missing, the walk tells where it would be. A path that is opened has a limited
length; one that is resolved has not, but the locations on its way have.
-/

namespace AsmExplorer

/-- Where a walk ends. -/
inductive Walk where
  /-- There is a node. -/
  | found (l : Location)
  /-- Only the last name is missing. -/
  | vacant (l : Location)
  | failed (e : FileError)
  deriving DecidableEq, Repr

namespace FileSystem

/-- The greatest number of bytes in a name. -/
def nameLimit : Nat := 255

/-- The greatest number of bytes in a path. -/
def pathLimit : Nat := 4095

/-- The greatest number of links that a walk follows. -/
def linkLimit : Nat := 40

/-- The number of bytes in the path of a location. -/
def pathSize (l : Location) : Nat :=
  (Utf8.encode (l.flatMap ('/' :: ·))).length

/-- Walks names up to the first link that is to be followed. A link at the end of the path is
followed only if asked for. Locations whose paths have more bytes than the limit, if there is one, are
not reached. -/
def walkNames (fs : FileSystem) (limit : Option Nat) (followLast : Bool)
    (onLink : Location → Text → List Text → Walk) (l : Location) : List Text → Walk
  | [] => .found l
  | name :: rest =>
    if ¬ fs.hasDirectory l then .failed .notDirectory
    else if name = [] ∨ name = ['.'] then walkNames fs limit followLast onLink l rest
    else if name = ['.', '.'] then walkNames fs limit followLast onLink l.dropLast rest
    else if nameLimit < (Utf8.encode name).length then .failed .nameTooLong
    else if limit.any fun n => n < pathSize (l ++ [name]) then .failed .nameTooLong
    else
      match fs.node? (l ++ [name]) with
      | none => if rest = [] then .vacant (l ++ [name]) else .failed .notFound
      | some (.link target) =>
        if rest = [] ∧ ¬ followLast then .found (l ++ [name]) else onLink l target rest
      | some _ => walkNames fs limit followLast onLink (l ++ [name]) rest

/-- Where a path starts from: the root, or a given location for a relative one. -/
def startOf (base : Location) (path : Text) : Location :=
  if path.head? = some '/' then [] else base

/-- Walks names, following no more than the given number of links. -/
def walk (fs : FileSystem) (limit : Option Nat) (followLast : Bool) :
    Nat → Location → List Text → Walk
  | 0 => walkNames fs limit followLast fun _ _ _ => .failed .tooManyLinks
  | n + 1 => walkNames fs limit followLast fun l target rest =>
      walk fs limit followLast n (startOf l target) (target.splitOn '/' ++ rest)

def walkPath (fs : FileSystem) (followLast : Bool) (base : Location) (p : Path) : Walk :=
  if p.text = [] then .failed .notFound
  else if '\x00' ∈ p.text then .failed .zeroInPath
  else if pathLimit < (Utf8.encode p.text).length then .failed .nameTooLong
  else walk fs none followLast linkLimit (startOf base p.text) (p.text.splitOn '/')

def locate (fs : FileSystem) (base : Location) (p : Path) : Except FileError Location :=
  match fs.walkPath true base p with
  | .found l => .ok l
  | .vacant _ => .error .notFound
  | .failed e => .error e

/-- The location that a path resolves to. Unlike a path that is opened, it may have any length. -/
def resolve (fs : FileSystem) (base : Location) (p : Path) : Except FileError Location :=
  if p.text = [] then .error .notFound
  else if '\x00' ∈ p.text then .error .zeroInPath
  else
    match walk fs (some pathLimit) true linkLimit (startOf base p.text) (p.text.splitOn '/') with
    | .found l => .ok l
    | .vacant _ => .error .notFound
    | .failed e => .error e

def nodeAt? (fs : FileSystem) (base : Location) (p : Path) : Option Node :=
  match fs.locate base p with
  | .ok l => fs.node? l
  | .error _ => none

def pathExists (fs : FileSystem) (base : Location) (p : Path) : Bool :=
  (fs.nodeAt? base p).isSome

def isDirectory (fs : FileSystem) (base : Location) (p : Path) : Bool :=
  fs.nodeAt? base p == some .directory

def isExecutable : Node → Bool
  | .file _ executable => executable
  | .program _ => true
  | _ => false

end FileSystem

end AsmExplorer
