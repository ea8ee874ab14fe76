import AsmExplorer.Files.Access
import AsmExplorer.Process.Status

/-!
# Programs in execution

A program in execution is given by what it does next: it ends, it makes a child, or it calls the
system and goes on with the answer. Such a program takes finitely many steps in every surrounding; one
that would go on for ever gets stuck instead. Programs are put together from pieces that are told what
to go on with (`Program`).
-/

namespace AsmExplorer

/-- What a file is opened for. -/
structure OpenMode where
  readable : Bool := false
  writable : Bool := false
  /-- A file that is missing is made. -/
  creates : Bool := false
  /-- A file that is there is emptied. -/
  empties : Bool := false
  /-- All bytes go behind those that are there. -/
  appends : Bool := false
  /-- A file that is there is an error. -/
  exclusive : Bool := false
  deriving DecidableEq, Repr

namespace OpenMode

def reading : OpenMode := { readable := true }

/-- For writing from the start. -/
def writing : OpenMode := { writable := true, creates := true, empties := true }

/-- For writing at the end. -/
def appending : OpenMode := { writable := true, creates := true, appends := true }

def both : OpenMode := { readable := true, writable := true, creates := true }

end OpenMode

/-- What a program has arranged for a signal. -/
inductive Disposition where
  | byDefault
  | ignored
  | caught
  deriving DecidableEq, Repr

/-- What a program learns about its children. -/
inductive ChildReport where
  | ended (id : Nat) (status : Status)
  /-- All children go on. -/
  | going
  /-- There are no such children. -/
  | childless
  /-- A signal has arrived meanwhile. -/
  | interrupted
  deriving DecidableEq, Repr

/-- What kind of thing a stream leads to. -/
inductive StreamKind where
  | file (l : Location)
  | pipe
  | device (d : Device)
  deriving DecidableEq, Repr

/-- What a program asks of the system. Streams are known by number. -/
inductive Call where
  /-- Nothing, after some work. -/
  | pause (work : Nat)
  | files
  | change (f : FileSystem → FileSystem)
  /-- Opens a file under the least free number. -/
  | openFile (base : Location) (path : Text) (mode : OpenMode)
  | close (number : Nat)
  /-- Gives a stream a second number: the least free one from a given one on. -/
  | duplicate (number least : Nat) (closesOnStart : Bool)
  /-- Gives a stream a second number, which then leads nowhere else. -/
  | assign (number target : Nat)
  /-- Makes a pipe: the numbers for reading and for writing. -/
  | makePipe
  /-- Reads at most so many bytes, and none only at the end. -/
  | read (number limit : Nat)
  | write (number : Nat) (bytes : Bytes)
  /-- Moves to another place, seen from the present one. -/
  | move (number : Nat) (distance : Int)
  | inspect (number : Nat)
  /-- Asks for a child that has ended, or for any one, and may wait for it. -/
  | await (child : Option Nat) (waits : Bool)
  /-- Waits for a time, and tells whether it has passed. -/
  | sleep (nanos : Nat)
  | send (target signal : Nat)
  | arrange (signal : Nat) (d : Disposition)
  | arrangement (signal : Nat)
  /-- Takes the signals that are caught and have arrived. -/
  | arrived
  /-- The numbers of the program and of its parent. -/
  | identity
  | clock
  /-- Becomes another program: streams that close on a start are closed, and no signal is caught. -/
  | become

/-- What the answer to a call tells. -/
def Call.Reply : Call → Type
  | .pause _ => Unit
  | .files => FileSystem
  | .change _ => Unit
  | .openFile .. => Except FileError Nat
  | .close _ => Bool
  | .duplicate .. => Except FileError Nat
  | .assign .. => Bool
  | .makePipe => Nat × Nat
  | .read .. => Except FileError Bytes
  | .write .. => Except FileError Unit
  | .move .. => Bool
  | .inspect _ => Option StreamKind
  | .await .. => ChildReport
  | .sleep _ => Bool
  | .send .. => Except FileError Unit
  | .arrange .. => Unit
  | .arrangement _ => Disposition
  | .arrived => List Nat
  | .identity => Nat × Nat
  | .clock => Nat
  | .become => Unit

/-- A program in execution. -/
inductive Process where
  | ended (status : Status)
  /-- Never does anything again. -/
  | stuck
  /-- Makes a child and goes on with its number. -/
  | fork (child : Process) (next : Nat → Process)
  | call (c : Call) (next : c.Reply → Process)

instance : Inhabited Process := ⟨.stuck⟩

/-- A piece of a program that gives a result to what comes behind it. -/
def Program (α : Type) : Type := (α → Process) → Process

namespace Program

variable {α β : Type}

/-- The one piece followed by the other. -/
@[inline] def bind (p : Program α) (f : α → Program β) : Program β :=
  fun next => p fun a => f a next

instance : Monad Program where
  pure a := fun next => next a
  bind := bind

@[inline] def ask (c : Call) : Program c.Reply :=
  fun next => .call c next

def leave (status : Status) : Program α :=
  fun _ => .ended status

def stuck : Program α :=
  fun _ => .stuck

def spawn (child : Process) : Program Nat :=
  fun next => .fork child next

/-- The program that a piece is, ending with the status that it gives. -/
def run (p : Program Status) : Process :=
  p .ended

def put (number : Nat) (bytes : Bytes) : Program (Except FileError Unit) :=
  if bytes = [] then pure (.ok ()) else ask (.write number bytes)

/-- Reads a stream to its end, piece by piece; the pieces read before come in reverse. -/
def readToEnd (number size : Nat) : Nat → List Bytes → Program (Except FileError Bytes)
  | 0, _ => stuck
  | fuel + 1, pieces => do
    match ← ask (.read number size) with
    | .error e => return .error e
    | .ok [] => return .ok pieces.reverse.flatten
    | .ok bytes => readToEnd number size fuel (bytes :: pieces)

/-- More steps than any program takes. -/
def limit : Nat := Nat.pow 2 60

end Program

namespace Process

/-- Passes what it reads on, piece by piece, until the end or until nobody reads. -/
def forward (size : Nat) : Nat → Process
  | 0 => .stuck
  | fuel + 1 =>
    .call (.read 0 size) fun
      | .ok (b :: bytes) =>
        .call (.write 1 (b :: bytes)) fun
          | .ok _ => forward size fuel
          | .error _ => .ended (.code 0)
      | _ => .ended (.code 0)

end Process

end AsmExplorer
