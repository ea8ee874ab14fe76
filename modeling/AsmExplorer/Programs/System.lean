import AsmExplorer.Process.Lookup
import AsmExplorer.Programs.Copy
import AsmExplorer.Programs.Edit.Run
import AsmExplorer.Programs.Head
import AsmExplorer.Programs.Sleep
import AsmExplorer.Programs.Translate
import AsmExplorer.Shell.Startup

/-!
# Programs of the system

The programs and devices that come with the system, and the start of programs and scripts. A script
names the program that runs it in its first line; such a program can be a script, too, but only some
times in a row.
-/

namespace AsmExplorer

namespace Programs

/-- The program of the system that has a name. -/
def system? (launch : Launch) (name : Text) : Option (Start → Program Status) :=
  match String.ofList name with
  | "cat" => some cat
  | "false" => some (endWith 1)
  | "head" => some head
  | "sed" => some sed
  | "sh" => some (Shell.program launch)
  | "sleep" => some sleep
  | "tr" => some tr
  | "true" => some (endWith 0)
  | _ => none

def names : List Text :=
  ["cat".toList, "false".toList, "head".toList, "sed".toList, "sh".toList, "sleep".toList,
    "tr".toList, "true".toList]

/-- The location of the programs of the system. -/
def location : Location := ["usr".toList, "bin".toList]

/-- The devices of the system, by their names. -/
def devices : List (List Text × Device) :=
  [(["null".toList], .sink), (["zero".toList], .zeros), (["full".toList], .full),
   (["stdin".toList], .stream 0), (["stdout".toList], .stream 1), (["stderr".toList], .stream 2),
   (["tty".toList], .terminal)] ++
  (List.range 10).map fun n => (["fd".toList, Text.ofNat n], .stream n)

/-- The tree with the programs of the system and the devices in it. -/
def install (fs : FileSystem) : FileSystem :=
  let put (fs : FileSystem) (l : Location) (n : Node) : FileSystem := fs.install [] l.toPath n
  let fs := names.foldl (fun fs name => put fs (location ++ [name]) (.program name)) fs
  let fs := put fs ["bin".toList] (.link "usr/bin".toList)
  devices.foldl (fun fs d => put fs ("dev".toList :: d.1) (.device d.2)) fs

end Programs

namespace Launch

/-- The words in the first line of a script: the program that runs it, and its argument if there is
one. -/
def interpreter? (bytes : Bytes) : Option (Text × List Text) :=
  match Octets.ofBytes (bytes.take 255) with
  | '#' :: '!' :: t =>
    let isGap (c : Char) : Bool := c == ' ' || c == '\t'
    let line := Text.trim isGap (t.takeWhile (· ≠ '\n'))
    let program := line.takeWhile fun c => !isGap c
    let argument := (line.drop program.length).dropWhile isGap
    if program = [] then none
    else some (program, if argument = [] then [] else [argument])
  | _ => none

/-- How many files are looked at until there is a program that is no script. -/
def scriptLimit : Nat := 6

/-- Starts the program at a path, which only so many scripts may be in front of. -/
def startAt (launch : Launch) (fs : FileSystem) : Nat → Text → Start → Except FileError Process
  | 0, _, _ => .error .tooManyLinks
  | n + 1, path, s => do
    match ← Lookup.executableAt fs s.directory path with
    | .program name =>
      match Programs.system? launch name with
      | some program => return (program s).run
      | none => throw .badFormat
    | .file bytes _ =>
      match interpreter? bytes with
      | some (program, argument) =>
        startAt launch fs n program
          { s with program := program, arguments := argument ++ path :: s.arguments }
      | none => throw .badFormat
    | _ => throw .permissionDenied

/-- How deep programs that become one another are nested at most. -/
def depth : Nat := 1000

/-- Starts a program, programs being nested up to the given depth. -/
def nested : Nat → Launch
  | 0, _, _, _ => .error .tooManyLinks
  | n + 1, fs, path, s => startAt (nested n) fs scriptLimit path s

/-- Starts the program at a path. -/
def ofSystem : Launch :=
  nested depth

/-- Starts the program that goes by its name, which is looked for in the directories of a search path. -/
def byName (fs : FileSystem) (searchPath : Text) (s : Start) : Except FileError Process := do
  if (s.program :: s.arguments).any (·.contains '\x00') then throw .zeroInCommand
  let path ← Lookup.find fs s.directory searchPath s.program
  ofSystem fs path s

end Launch

end AsmExplorer
