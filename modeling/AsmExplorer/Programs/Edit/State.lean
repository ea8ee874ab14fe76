import AsmExplorer.Programs.Edit.Input
import AsmExplorer.Programs.Edit.Script

/-!
# The editor at work

What the editor holds while it works: the line, the text that is held aside, the files that it reads
and the outputs that it writes. Where a line had no end, its end is written only when more follows.
-/

namespace AsmExplorer.Programs.Edit

/-- How the editor works. -/
structure Manner where
  quiet : Bool := false
  extended : Bool := false
  /-- Whether each file counts its own lines. -/
  separate : Bool := false
  /-- Whether files are changed, and what the names of their copies are made with. -/
  inPlace : Option Text := none
  /-- Whether only what all such editors do is done. -/
  strict : Bool := false
  /-- Whether no more is read than is needed, and all is written at once. -/
  unbuffered : Bool := false
  lineEnd : Char := '\n'
  /-- The width of listed lines. -/
  width : Nat := 70

/-- Where in its lines a command is. -/
inductive Range where
  /-- The lines have not begun yet. -/
  | before
  /-- Between the lines, up to a number if that is known. -/
  | inside (last : Option Nat)
  /-- The lines have ended; they begin again unless they begin with a number. -/
  | behind
  deriving DecidableEq

/-- What is written at the end of a cycle. -/
inductive Addition where
  | text (t : Text)
  | file (name : Text)

/-- Where text is written. -/
inductive Sink where
  | main
  | named (name : Text)
  deriving DecidableEq

/-- An output: its stream, and whether the end of a line is still missing. -/
structure Output where
  number : Nat
  lacksEnd : Bool := false

structure Editor where
  start : Start
  manner : Manner
  commands : Array Command
  line : Text := []
  /-- Whether the line had an end. -/
  isComplete : Bool := true
  aside : Text := []
  isAsideComplete : Bool := true
  /-- The number of the line. -/
  number : Nat := 0
  substituted : Bool := false
  ranges : Array Range
  files : List Text
  input : Option Input := none
  /-- The name of the file that was opened last. -/
  name : Text := ['-']
  /-- Whether the next file counts its lines from the start. -/
  restarts : Bool := false
  additions : List Addition := []
  readers : List (Text × Option Input) := []
  outputs : List (Text × Output) := []
  /-- Whether the end of a line is still missing in the main output. -/
  lacksEnd : Bool := false
  /-- What is held back before it is written. -/
  held : Bytes := []
  /-- What a file that is changed will hold, piece by piece, the last one first. -/
  changed : List Bytes := []
  code : Nat := 0
  /-- The last expression that was matched. -/
  lastSearch : Option Matcher := none

namespace Editor

/-- The number of bytes that are read at once. -/
def piece (e : Editor) : Nat :=
  if e.manner.unbuffered then 1 else Input.piece

/-- Writes what is held back. -/
def flush (e : Editor) : Program Editor := do
  match ← Program.put 1 e.held with
  | .ok _ => return { e with held := [] }
  | .error f =>
    fail e.start ("couldn't flush stdout: ".toList ++ f.text) 4

/-- Writes what is held back, says what is wrong, and ends. -/
def abort {α : Type} (e : Editor) (message : Text) (code : Nat) : Program α := do
  complain e.start message
  let _ ← Program.put 1 e.held
  Program.leave (.code code)

/-- Writes bytes to the output, which holds some back. -/
def writeOut (e : Editor) (bytes : Bytes) : Program Editor := do
  match ← spool 1 e.held bytes with
  | .ok held =>
    let e := { e with held := held }
    if e.manner.unbuffered then e.flush else return e
  | .error f =>
    fail e.start ("couldn't write ".toList ++ Text.ofNat bytes.length ++
      (if bytes.length = 1 then " item" else " items").toList ++ " to stdout: ".toList ++ f.text) 4

def writeTo (e : Editor) (number : Nat) (name : Text) (bytes : Bytes) : Program Editor := do
  match ← Program.put number bytes with
  | .ok _ => return e
  | .error f => e.abort ("couldn't flush ".toList ++ name ++ ": ".toList ++ f.text) 4

/-- The end of a line. -/
def ending (e : Editor) : Text :=
  [e.manner.lineEnd]

/-- Writes text, behind an end of a line that is still missing. Whether such an end is missing then is
given. -/
def write (e : Editor) (o : Sink) (t : Text) (lacksEnd : Bool) : Program Editor :=
  match o with
  | .main =>
    let bytes := Octets.toBytes ((if e.lacksEnd then e.ending else []) ++ t)
    let e := { e with lacksEnd := lacksEnd }
    if e.manner.inPlace.isSome then pure { e with changed := bytes :: e.changed } else e.writeOut bytes
  | .named name =>
    match e.outputs.lookup name with
    | none => pure e
    | some out =>
      let bytes := Octets.toBytes ((if out.lacksEnd then e.ending else []) ++ t)
      let outputs := e.outputs.map fun p =>
        if p.1 = name then (name, { out with lacksEnd := lacksEnd }) else p
      let e := { e with outputs := outputs }
      if out.number = 1 then e.writeOut bytes else e.writeTo out.number name bytes

/-- Writes a line, with its end unless it had none. -/
def writeLine (e : Editor) (o : Sink) (t : Text) (isComplete : Bool) : Program Editor :=
  e.write o (if isComplete then t ++ e.ending else t) (!isComplete)

def print (e : Editor) (o : Sink) : Program Editor :=
  e.writeLine o e.line e.isComplete

/-- Puts what has been written in place of the file that is being changed. -/
def replaceFile (e : Editor) (suffix name : Text) : Program Unit := do
  let bytes := e.changed.reverse.flatten
  let own := (name.reverse.takeWhile (· ≠ '/')).reverse
  let copy :=
    if suffix.contains '*' then suffix.flatMap fun c => if c = '*' then own else [c]
    else own ++ suffix
  let backup := if copy.contains '/' then copy else name.take (name.length - own.length) ++ copy
  let base := e.start.directory
  Program.ask (.change fun fs =>
    match fs.walkPath false base ⟨Octets.toText name⟩ with
    | .found l =>
      let old := fs.nodeAt? base ⟨Octets.toText name⟩
      let executable := old.any FileSystem.isExecutable
      let fs := match suffix, fs.walkPath false base ⟨Octets.toText backup⟩, fs.node? l with
        | _ :: _, .found k, some n => fs.put k n
        | _ :: _, .vacant k, some n => fs.put k n
        | _, _, _ => fs
      fs.put l (.file bytes executable)
    | _ => fs)

/-- Is done with the file that is being read. -/
def closeInput (e : Editor) : Program Editor :=
  match e.input with
  | none => pure e
  | some i => do
    let e := { e with input := none, restarts := e.manner.separate }
    match e.manner.inPlace with
    | none =>
      if i.number ≠ 0 then
        let _ ← Program.ask (.close i.number)
      return e
    | some suffix =>
      let _ ← Program.ask (.close i.number)
      e.replaceFile suffix i.name
      return { e with changed := [], lacksEnd := false }

/-- The name under which a file is told of. -/
def told (name : Text) : Text :=
  if name = ['-'] then "stdin".toList else name

/-- Says what is wrong with a file and goes on without it. -/
def refuse (e : Editor) (message : Text) (code : Nat) : Program Editor := do
  complain e.start message
  return { e with code := code }

/-- Opens the file of a name, which is noted. -/
def openInput (before : Editor) (name : Text) : Program Editor := do
  let e : Editor := { before with name := name }
  if name = ['-'] ∧ e.manner.inPlace.isNone then
    match ← Program.ask (.inspect 0) with
    | none => e.abort "couldn't attach to stdin: Bad file descriptor".toList 4
    | some _ => return { e with input := some { name := name, number := 0 } }
  else
    match ← Program.ask (.openFile e.start.directory name .reading) with
    | .error f => e.refuse ("can't read ".toList ++ name ++ ": ".toList ++ f.text) 2
    | .ok number =>
      let next : Editor := { e with input := some { name := name, number := number } }
      if e.manner.inPlace.isNone then return next
      match ← Program.ask (.inspect number) with
      | some (.file l) =>
        let fs ← Program.ask .files
        if fs.hasDirectory l then
          e.refuse ("couldn't edit ".toList ++ name ++ ": not a regular file".toList) 4
        else return next
      | _ => e.refuse ("couldn't edit ".toList ++ name ++ ": not a regular file".toList) 4

/-- Takes a line of the file that is being read. -/
def takeLine (e : Editor) (i : Input) : Program (Editor × Option Input.Line) := do
  match ← i.takeLine e.piece e.manner.lineEnd with
  | .error f => e.abort ("read error on ".toList ++ told i.name ++ ": ".toList ++ f.text) 4
  | .ok (i, line) => return ({ e with input := some i }, line)

/-- Where commands are in their lines before the first one. -/
def firstRanges (commands : Array Command) : Array Range :=
  commands.map fun c => match c.start with
    | some (.line 0) => .inside none
    | _ => .before

def nextFile (e : Editor) (name : Text) (files : List Text) : Program Editor := do
  let e :=
    if e.restarts then
      { e with
        number := 0, ranges := firstRanges e.commands, restarts := false
        aside := [], readers := [] }
    else e
  { e with files := files }.openInput name

/-- Takes the next line, also of one of the next files. -/
def takeAny : Nat → Editor → Program (Editor × Option Input.Line)
  | 0, _ => Program.stuck
  | fuel + 1, e =>
    match e.input with
    | none =>
      match e.files with
      | [] => pure (e, none)
      | name :: files => do takeAny fuel (← e.nextFile name files)
    | some i => do
      match ← e.takeLine i with
      | (e, some line) => return (e, some line)
      | (e, none) => takeAny fuel (← e.closeInput)

/-- Whether there is nothing more to read, in this file or in those behind it. -/
def isOver : Nat → Editor → Program (Editor × Bool)
  | 0, _ => Program.stuck
  | fuel + 1, e => do
    let behind (e : Editor) : Program (Editor × Bool) :=
      if e.manner.separate then pure (e, true)
      else
        match e.files with
        | [] => pure (e, true)
        | name :: files => do
          let e ← e.closeInput
          isOver fuel (← e.nextFile name files)
    match e.input with
    | none => behind e
    | some i =>
      match ← i.fill e.piece with
      | .error f => e.abort ("read error on ".toList ++ told i.name ++ ": ".toList ++ f.text) 4
      | .ok i =>
        let e := { e with input := some i }
        if i.waiting = [] then behind e else return (e, false)

def isLast (e : Editor) : Program (Editor × Bool) :=
  isOver Program.limit e

/-- The content of a file that is added, if it can be read. -/
def contents (e : Editor) (name : Text) : Program (Editor × Bytes) := do
  let all (number : Nat) : Program Bytes := do
    match ← Program.readToEnd number Input.piece Program.limit [] with
    | .ok bytes => return bytes
    | .error f => e.abort ("read error on ".toList ++ name ++ ": ".toList ++ f.text) 4
  if name = "/dev/stdin".toList then
    match e.input with
    | some i =>
      if i.number = 0 then
        let bytes ← all 0
        return ({ e with input := some { i with waiting := [], isAtEnd := true } },
          Octets.toBytes i.waiting ++ bytes)
      else return (e, ← all 0)
    | none => return (e, ← all 0)
  else
    match ← Program.ask (.openFile e.start.directory name .reading) with
    | .error _ => return (e, [])
    | .ok number =>
      let bytes ← all number
      let _ ← Program.ask (.close number)
      return (e, bytes)

/-- Writes what is added at the end of a cycle. -/
def writeAdditions (e : Editor) : Program Editor := do
  let e ← e.additions.foldlM
    (fun (e : Editor) a => do
      match a with
      | .text t => e.write .main t false
      | .file name =>
        let (e, bytes) ← e.contents name
        e.write .main (Octets.ofBytes bytes) false)
    { e with additions := [] }
  return e

/-- Reads the next line, behind the present one or in its place. Whether there is one is told. -/
def advance (e : Editor) (appends : Bool) : Program (Editor × Bool) := do
  let e ← e.writeAdditions
  match ← takeAny Program.limit { e with substituted := false } with
  | (e, none) => return (e, false)
  | (e, some (t, isComplete)) =>
    let line := if appends then e.line ++ e.manner.lineEnd :: t else t
    return ({ e with line := line, isComplete := isComplete, number := e.number + 1 }, true)

/-- Takes a line of a file that is read beside the others. -/
def takeBeside (e : Editor) (name : Text) : Program (Editor × Option Input.Line) := do
  let set (e : Editor) (i : Option Input) : Editor :=
    { e with readers := (name, i) :: e.readers.filter fun r => r.1 ≠ name }
  let take (e : Editor) (i : Input) : Program (Editor × Option Input.Line) := do
    match ← i.takeLine e.piece e.manner.lineEnd with
    | .error f => e.abort ("read error on ".toList ++ told i.name ++ ": ".toList ++ f.text) 4
    | .ok (i, line) => return (set e (some i), line)
  match e.readers.lookup name with
  | some none => return (e, none)
  | some (some i) => take e i
  | none =>
    if name = "/dev/stdin".toList then take e { name := name, number := 0 }
    else
      match ← Program.ask (.openFile e.start.directory name .reading) with
      | .error _ => return (set e none, none)
      | .ok number => take e { name := name, number := number }

end Editor

end AsmExplorer.Programs.Edit
