import AsmExplorer.Compile.Markers
import AsmExplorer.Compile.Options
import AsmExplorer.Machine.Outside
import AsmExplorer.Programs.System

/-!
# Compiler and demangler

A compilation runs two programs side by side: what the compiler writes is passed on to the demangler,
and what the demangler writes is the output. When both have ended and nobody writes any more, the
statuses decide: that of the compiler first, then that of the demangler. The output is freed of marker
lines.
-/

namespace AsmExplorer

/-- What a compilation has brought forth when both programs have ended. -/
structure Capture where
  compilerStatus : Status
  compilerStderr : Text
  demanglerStatus : Status
  demanglerStderr : Text
  output : Bytes
  deriving DecidableEq, Repr

/-- The programs of a compilation at work, and what is read of them, as openings. -/
structure Crew where
  compiler : Nat
  demangler : Nat
  /-- The program that passes on what the compiler writes. -/
  forwarder : Nat
  compilerStderr : Nat
  demanglerStderr : Nat
  output : Nat
  deriving DecidableEq, Repr

namespace Toolchain

/-- What is reported as the status of a program that could not start. -/
def notStarted : Text := "could not start".toList

def startFailure (program : Text) (e : FileError) : Failure :=
  .compileFailed program notStarted e.message

/-- The directory in which a compiler is started: the one it was recorded with, if that is there, and
otherwise the current one. -/
def workingDirectory (host : Host) (recorded : Path) : Location :=
  if host.isDirectory recorded then
    ((host.files.locate host.directory recorded).toOption).getD host.directory
  else host.directory

def environment (host : Host) : List (Text × Text) :=
  [("PATH".toList, Octets.ofText host.searchPath), ("HOME".toList, Octets.ofText host.home)]

def start (host : Host) (directory : Location) (program : Text) (arguments : List Text) :
    Except Failure Process :=
  let s : Start :=
    { program := Octets.ofText program, arguments := arguments.map Octets.ofText,
      directory := directory, environment := environment host }
  match Launch.byName host.files (Octets.ofText host.searchPath) s with
  | .ok p => .ok p
  | .error e => .error (startFailure program e)

def startCompiler (host : Host) (c : CompileCommand) (recorded : Path) : Except Failure Process :=
  start host (workingDirectory host recorded) c.program c.arguments

def startDemangler (host : Host) (demangler : Path) : Except Failure Process :=
  start host host.directory demangler.text []

/-- The number of bytes that are passed on at once. -/
def forwardSize : Nat := 8192

/-- What passes on the output of a compiler until nobody reads it. -/
def forwarder : Process :=
  Process.forward forwardSize Program.limit

/-- Lets a compiler and a demangler work side by side. The compiler has no input; the error outputs and
what the demangler writes are caught. -/
def drive (m : Machine) (compiler demangler : Process) : Machine × Crew :=
  let (m, nothing) := m.addNothing
  let (m, compilerOut, compilerIn) := m.addPipe (some Machine.pipeCapacity)
  let (m, compilerErrors, compilerStderr) := m.addPipe none
  let (m, demanglerOut, demanglerIn) := m.addPipe (some Machine.pipeCapacity)
  let (m, output, demanglerStdout) := m.addPipe none
  let (m, demanglerErrors, demanglerStderr) := m.addPipe none
  let (m, compiler) := m.enter compiler [(0, nothing), (1, compilerIn), (2, compilerStderr)] []
  let (m, demangler) :=
    m.enter demangler [(0, demanglerOut), (1, demanglerStdout), (2, demanglerStderr)] []
  let (m, forwarder) :=
    m.enter forwarder [(0, compilerOut), (1, demanglerIn)] [(Signal.pipe, .ignored)]
  (m, { compiler := compiler, demangler := demangler, forwarder := forwarder,
        compilerStderr := compilerErrors, demanglerStderr := demanglerErrors, output := output })

end Toolchain

namespace Crew

/-- The statuses of both programs, once nothing more can come from them. -/
def statuses? (c : Crew) (m : Machine) : Option (Status × Status) :=
  if m.isRunning c.forwarder then none
  else if [c.compilerStderr, c.demanglerStderr, c.output].all m.isClosed then
    match m.status? c.compiler, m.status? c.demangler with
    | some a, some b => some (a, b)
    | _, _ => none
  else none

/-- What a compilation has brought forth, if it is over. -/
def capture? (c : Crew) (m : Machine) : Option Capture :=
  (c.statuses? m).map fun (a, b) =>
    { compilerStatus := a, compilerStderr := Utf8.decodeLossy (m.caught c.compilerStderr),
      demanglerStatus := b, demanglerStderr := Utf8.decodeLossy (m.caught c.demanglerStderr),
      output := m.caught c.output }

/-- Ends a compilation: nothing is read any more, and the two programs are killed if they still run. -/
def dismiss (c : Crew) (m : Machine) : Machine :=
  let m := m.finish c.forwarder (.code 0)
  let m := [c.compilerStderr, c.demanglerStderr, c.output].foldl Machine.release m
  let m := (m.signal c.compiler Signal.kill).signal c.demangler Signal.kill
  m.forget [c.compiler, c.demangler, c.forwarder]

end Crew

/-- The text that a compilation gives: its output without marker lines. -/
def Capture.text (c : Capture) : Text :=
  stripMarkerLines (Utf8.decodeLossy c.output)

/-- What a compilation comes to, given whether it has been cancelled meanwhile. A program that failed
is told of first. -/
def Capture.conclude (c : Capture) (program demangler : Text) (cancelled : Bool) :
    Except Failure Text :=
  if !c.compilerStatus.isSuccess then
    .error (.compileFailed program c.compilerStatus.report c.compilerStderr)
  else if !c.demanglerStatus.isSuccess then
    .error (.compileFailed demangler c.demanglerStatus.report c.demanglerStderr)
  else if cancelled then .error .cancelled
  else .ok c.text

end AsmExplorer
