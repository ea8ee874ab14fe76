import AsmExplorer.Data.Table
import AsmExplorer.Path.Basic
import AsmExplorer.Text.Utf8

/-!
# Files

The tree of files that programs work on. A location is the list of names on the way from the root,
free of links; a node at a location is a directory, a file, a link, a program of the system or a
device. Every change leaves a stamp of its own on the node that it touches.
-/

namespace AsmExplorer

/-- A place in the tree of files: the names on the way from the root. -/
abbrev Location := List Text

inductive Device where
  /-- Takes everything and gives nothing. -/
  | sink
  /-- Takes everything and gives zero bytes without end. -/
  | zeros
  /-- Gives zero bytes without end and has no room for others. -/
  | full
  /-- What a program that opens it has under a number already. -/
  | stream (number : Nat)
  /-- The terminal of a program; no program has one. -/
  | terminal
  deriving DecidableEq, Repr

inductive Node where
  | directory
  | file (bytes : Bytes) (executable : Bool)
  /-- A symbolic link to the path that it holds. -/
  | link (target : Text)
  /-- A program that comes with the system, by its name. -/
  | program (name : Text)
  | device (d : Device)
  deriving DecidableEq, Repr

/-- A tree of files: the node at each location together with the time of its last change. -/
structure FileSystem where
  nodes : Table Location (Node × Nat)
  /-- The time of the next change, in nanoseconds. -/
  now : Nat

/-- Why an access to a file, a stream or a program fails. -/
inductive FileError where
  | notPermitted
  | notFound
  | noProcess
  | interrupted
  | noDevice
  | listTooLong
  | badFormat
  | badDescriptor
  | permissionDenied
  | alreadyExists
  | notDirectory
  | isDirectory
  | invalidArgument
  | tooManyOpen
  | noSpace
  | illegalSeek
  | brokenPipe
  | nameTooLong
  | tooManyLinks
  /-- A path holds a zero byte. -/
  | zeroInPath
  /-- A word of a command holds a zero byte. -/
  | zeroInCommand
  /-- Bytes that are to be a text are not UTF-8. -/
  | notText
  deriving DecidableEq, Repr

/-- What the system calls an error, and the number it gives to it if it is one of its own. -/
def FileError.describe : FileError → Text × Option Nat
  | .notPermitted => ("Operation not permitted".toList, some 1)
  | .notFound => ("No such file or directory".toList, some 2)
  | .noProcess => ("No such process".toList, some 3)
  | .interrupted => ("Interrupted system call".toList, some 4)
  | .noDevice => ("No such device or address".toList, some 6)
  | .listTooLong => ("Argument list too long".toList, some 7)
  | .badFormat => ("Exec format error".toList, some 8)
  | .badDescriptor => ("Bad file descriptor".toList, some 9)
  | .permissionDenied => ("Permission denied".toList, some 13)
  | .alreadyExists => ("File exists".toList, some 17)
  | .notDirectory => ("Not a directory".toList, some 20)
  | .isDirectory => ("Is a directory".toList, some 21)
  | .invalidArgument => ("Invalid argument".toList, some 22)
  | .tooManyOpen => ("Too many open files".toList, some 24)
  | .noSpace => ("No space left on device".toList, some 28)
  | .illegalSeek => ("Illegal seek".toList, some 29)
  | .brokenPipe => ("Broken pipe".toList, some 32)
  | .nameTooLong => ("File name too long".toList, some 36)
  | .tooManyLinks => ("Too many levels of symbolic links".toList, some 40)
  | .zeroInPath => ("file name contained an unexpected NUL byte".toList, none)
  | .zeroInCommand => ("nul byte found in provided data".toList, none)
  | .notText => ("stream did not contain valid UTF-8".toList, none)

/-- What programs of the system write about an error. -/
def FileError.text (e : FileError) : Text :=
  e.describe.1

/-- What is told of an error: its name, and its number if it has one. -/
def FileError.message (e : FileError) : Text :=
  match e.describe with
  | (t, some n) => t ++ " (os error ".toList ++ Nat.toDigits 10 n ++ [')']
  | (t, none) => t

namespace Location

def toPath (l : Location) : Path :=
  ⟨'/' :: Text.join ['/'] l⟩

end Location

namespace FileSystem

def empty : FileSystem :=
  ⟨Table.empty.insert [] (.directory, 0), 2000000000000000000⟩

instance : Inhabited FileSystem := ⟨empty⟩

def later (fs : FileSystem) (nanos : Nat) : FileSystem :=
  { fs with now := fs.now + nanos }

def node? (fs : FileSystem) (l : Location) : Option Node :=
  (fs.nodes.get? l).map Prod.fst

def hasDirectory (fs : FileSystem) (l : Location) : Bool :=
  fs.node? l == some .directory

/-- The tree with a node set at a location and stamped with the time. A new node also changes the
directory that it is in. -/
def put (fs : FileSystem) (l : Location) (n : Node) : FileSystem :=
  let nodes :=
    if (fs.node? l).isSome ∨ ¬ fs.hasDirectory l.dropLast then fs.nodes
    else fs.nodes.insert l.dropLast (.directory, fs.now)
  ⟨nodes.insert l (n, fs.now), fs.now + 1⟩

/-- The tree without the node at a location and all that is below it. -/
def delete (fs : FileSystem) (l : Location) : FileSystem :=
  let nodes := (fs.nodes.keys.filter l.isPrefixOf).foldl Table.erase fs.nodes
  if fs.hasDirectory l.dropLast then ⟨nodes.insert l.dropLast (.directory, fs.now), fs.now + 1⟩
  else ⟨nodes, fs.now + 1⟩

def names (fs : FileSystem) (l : Location) : List Text :=
  (fs.nodes.keys.filter fun k => k ≠ [] ∧ k.dropLast = l).filterMap List.getLast?

end FileSystem

end AsmExplorer
