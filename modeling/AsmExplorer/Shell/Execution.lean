import AsmExplorer.Process.Start
import AsmExplorer.Shell.Builtin.Names
import AsmExplorer.Shell.Jobs

/-!
# Programs and subshells of a script

How a script becomes another program, and what a copy of it that runs commands on its own leaves
behind.
-/

namespace AsmExplorer.Shell

namespace Act

/-- The path of the program that runs a script which names none. -/
def scriptRunner : Text := "/bin/sh".toList

/-- The program at a path with its words, of which the first one is its name. A script that names no
program is run by the shell. -/
def programAt (launch : Launch) (fs : FileSystem) (s : State) (path : Text) (words : List Text) :
    Except FileError Process :=
  let start (name : Text) (arguments : List Text) : Start :=
    { program := name, arguments := arguments, directory := s.directory,
      environment := s.environment, mask := s.mask }
  match launch fs path (start (words.headD []) (words.drop 1)) with
  | .error .badFormat => launch fs scriptRunner (start scriptRunner (path :: words.drop 1))
  | r => r

/-- The first program among some paths. An error other than that there is nothing is kept. -/
def firstProgram (launch : Launch) (fs : FileSystem) (s : State) (words : List Text)
    (e : FileError) : List Text → Except FileError Process
  | [] => .error e
  | path :: paths =>
    match programAt launch fs s path words with
    | .ok p => .ok p
    | .error .notFound => firstProgram launch fs s words e paths
    | .error .notDirectory => firstProgram launch fs s words e paths
    | .error f => firstProgram launch fs s words f paths

/-- The status that a program leaves which cannot be started. -/
def failureStatus : FileError → Nat
  | .notFound => 127
  | .notDirectory => 127
  | .nameTooLong => 127
  | .tooManyLinks => 127
  | _ => 126

/-- What is said about a program that cannot be started. -/
def failureText : FileError → Text
  | .notFound => "not found".toList
  | .notDirectory => "not found".toList
  | e => e.text

/-- Becomes the program that the first word names, or gives the reason why that cannot be. The paths
from a given one on are tried. -/
def become (launch : Launch) (searchPath : Text) (first : Option Text) (words : List Text) :
    Act FileError := do
  let s ← state
  let fs ← files
  let name := words.headD []
  let paths :=
    if name.contains '/' then [name]
    else
      let all := Lookup.candidates searchPath name
      match first with
      | some path => all.dropWhile (· ≠ path)
      | none => all
  match firstProgram launch fs s words .notFound paths with
  | .ok p => fun _ _ => .call .become fun _ => p
  | .error e => return e

/-- Becomes a program; if that cannot be, the script ends. -/
def replace {α : Type} (launch : Launch) (searchPath : Text) (first : Option Text)
    (words : List Text) : Act α := do
  let e ← become launch searchPath first words
  setStatus (failureStatus e)
  complain (words.headD [] ++ ": ".toList ++ failureText e)
  throw .exit

def runProgram (launch : Launch) (searchPath : Text) (first : Option Text) (words : List Text) :
    Act Nat := do
  let id ← spawn do
    let e ← become launch searchPath first words
    complain (words.headD [] ++ ": ".toList ++ failureText e)
    leave (.code (failureStatus e))
  finishJob (← addJob [id])

/-- Leaves behind what belongs to the script of which this is a copy: its jobs, what it does on signals,
and what it keeps streams for. -/
def enterSubshell : Act Unit := do
  let s ← state
  let caught := s.traps.filter fun t => !t.2.isEmpty
  for (signal, _) in caught do
    if signal ≠ 0 ∧ ¬ s.deafTo.contains signal then
      let _ : Unit ← ask (.arrange signal .byDefault)
  modify fun s =>
    { s with
      level := s.level + 1
      jobs := []
      traps := s.traps.filter fun t => t.2.isEmpty
      arrived := []
      redirections := []
      statusBefore := none }

/-- Makes a copy of the script that is not waited for deaf to some signals, and takes its input away if
it is the first program of its job. -/
def enterBackground (isFirst : Bool) : Act Unit := do
  for signal in [Signal.interrupt, Signal.quit] do
    let _ : Unit ← ask (.arrange signal .ignored)
  modify fun s => { s with deafTo := Signal.interrupt :: Signal.quit :: s.deafTo }
  if isFirst then
    let _ : Bool ← ask (.close 0)
    match ← ask (.openFile [] "/dev/null".toList .reading) with
    | .ok 0 => pure ()
    | _ => fail "Can't open /dev/null".toList

/-- Leads a stream to where another one does, which is then closed. -/
def moveStream (source target : Nat) : Act Unit := do
  if source ≠ target then
    let _ : Bool ← ask (.assign source target)
    let _ : Bool ← ask (.close source)

/-- Reads a stream to its end; the pieces read before come in reverse. -/
def readAll (number : Nat) : Nat → List Bytes → Act Bytes
  | 0, _ => stuck
  | n + 1, pieces => do
    match ← ask (.read number 4096) with
    | .error .interrupted =>
      noteSignals
      readAll number n pieces
    | .error _ => return pieces.reverse.flatten
    | .ok [] => return pieces.reverse.flatten
    | .ok bytes => readAll number n (bytes :: pieces)

end Act

end AsmExplorer.Shell
