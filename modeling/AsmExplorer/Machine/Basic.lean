import AsmExplorer.Process.Basic

/-!
# The machine

Files, pipes and the programs that work on them at the same time. A stream of a program has a number
and leads to an opening: a file, a device or the end of a pipe, with the place that has been reached.
Programs that come from one another share openings. Time stands still while programs work and moves on
when all of them wait.
-/

namespace AsmExplorer

/-- Bytes on their way from a writer to a reader. -/
structure Queue where
  front : Bytes := []
  /-- The pieces behind the front, the last one first. -/
  back : List Bytes := []
  size : Nat := 0

namespace Queue

def put (q : Queue) (bytes : Bytes) : Queue :=
  { q with back := bytes :: q.back, size := q.size + bytes.length }

/-- Takes bytes from the front, at most so many. -/
def take (q : Queue) (limit : Nat) : Bytes × Queue :=
  let (front, back) := if q.front = [] then (q.back.reverse.flatten, []) else (q.front, q.back)
  let taken := front.take limit
  (taken, ⟨front.drop limit, back, q.size - taken.length⟩)

def toBytes (q : Queue) : Bytes :=
  q.front ++ q.back.reverse.flatten

end Queue

/-- A pipe: the bytes in it and the openings of its two ends. -/
structure Pipe where
  queue : Queue := {}
  readers : Nat := 1
  writers : Nat := 1
  /-- How many bytes fit into it, if that is limited. -/
  capacity : Option Nat

/-- What an opening leads to. -/
inductive Target where
  | file (l : Location)
  | device (d : Device)
  | source (pipe : Nat)
  | sink (pipe : Nat)
  deriving DecidableEq, Repr

/-- Something opened, and how many streams lead to it. -/
structure Opening where
  target : Target
  readable : Bool
  writable : Bool
  appends : Bool := false
  place : Nat := 0
  uses : Nat := 1
  deriving Repr

/-- A stream of a program: the number of its opening. -/
structure Stream where
  opening : Nat
  closesOnStart : Bool := false
  deriving DecidableEq, Repr

/-- A program with all that belongs to it. -/
structure Task where
  id : Nat
  parent : Nat
  program : Process
  streams : List (Nat × Stream) := []
  dispositions : List (Nat × Disposition) := []
  /-- The signals that are caught and have arrived, the last one first. -/
  arrived : List Nat := []
  /-- The signals that wait until the program is continued. -/
  held : List Nat := []
  stopped : Bool := false
  /-- When its sleep is over. -/
  wakes : Option Nat := none
  /-- The work that it has done since the clock last moved. -/
  work : Nat := 0

/-- The end of a program of which its parent has not yet been told. -/
structure Ended where
  parent : Nat
  id : Nat
  status : Status
  deriving DecidableEq, Repr

/-- Files, programs and what is between them. -/
structure Machine where
  files : FileSystem
  /-- The time in nanoseconds. -/
  clock : Nat := 0
  tasks : List Task := []
  openings : List (Nat × Opening) := []
  pipes : List (Nat × Pipe) := []
  /-- The programs that have ended, the first one first. -/
  ended : List Ended := []
  /-- The next number of a program, an opening or a pipe. -/
  next : Nat := 1000
  /-- The work that all programs may still do. -/
  strength : Nat := 0

namespace Machine

/-- The machine without programs. -/
def ofFiles (files : FileSystem) : Machine :=
  { files := files }

instance : Inhabited Machine := ⟨ofFiles default⟩

/-- The value at a number, changed. -/
def adjust {α : Type} (f : α → α) (n : Nat) : List (Nat × α) → List (Nat × α)
  | [] => []
  | (k, a) :: rest => if k = n then (k, f a) :: rest else (k, a) :: adjust f n rest

/-- The pairs without the first one with a number. -/
def discard {α : Type} (n : Nat) : List (Nat × α) → List (Nat × α)
  | [] => []
  | (k, a) :: rest => if k = n then rest else (k, a) :: discard n rest

def opening? (m : Machine) (n : Nat) : Option Opening :=
  m.openings.lookup n

def pipe? (m : Machine) (n : Nat) : Option Pipe :=
  m.pipes.lookup n

def changeOpening (m : Machine) (n : Nat) (f : Opening → Opening) : Machine :=
  { m with openings := adjust f n m.openings }

def changePipe (m : Machine) (n : Nat) (f : Pipe → Pipe) : Machine :=
  { m with pipes := adjust f n m.pipes }

/-- The machine with something opened, and its number. -/
def addOpening (m : Machine) (o : Opening) : Machine × Nat :=
  ({ m with openings := (m.next, o) :: m.openings, next := m.next + 1 }, m.next)

/-- One more stream leads to an opening. -/
def retain (m : Machine) (n : Nat) : Machine :=
  m.changeOpening n fun o => { o with uses := o.uses + 1 }

/-- A pipe of which nobody knows any more is dropped. -/
def dropPipe (m : Machine) (n : Nat) : Machine :=
  match m.pipe? n with
  | some p => if p.readers = 0 ∧ p.writers = 0 then { m with pipes := discard n m.pipes } else m
  | none => m

/-- An opening is closed. -/
def closeOpening (m : Machine) (n : Nat) (target : Target) : Machine :=
  let m := { m with openings := discard n m.openings }
  match target with
  | .source p => (m.changePipe p fun p => { p with readers := p.readers - 1 }).dropPipe p
  | .sink p => (m.changePipe p fun p => { p with writers := p.writers - 1 }).dropPipe p
  | _ => m

/-- One stream less leads to an opening, which is closed with its last stream. -/
def release (m : Machine) (n : Nat) : Machine :=
  match m.opening? n with
  | some o =>
    if o.uses ≤ 1 then m.closeOpening n o.target
    else m.changeOpening n fun o => { o with uses := o.uses - 1 }
  | none => m

/-- A new pipe, and the numbers of the openings for reading and for writing. -/
def addPipe (m : Machine) (capacity : Option Nat) : Machine × Nat × Nat :=
  let pipe := m.next
  let m := { m with pipes := (pipe, { capacity := capacity }) :: m.pipes, next := m.next + 1 }
  let (m, source) := m.addOpening { target := .source pipe, readable := true, writable := false }
  let (m, sink) := m.addOpening { target := .sink pipe, readable := false, writable := true }
  (m, source, sink)

/-- The number of bytes that a pipe between programs holds. -/
def pipeCapacity : Nat := 65536

/-- The number of bytes that go into a pipe together. -/
def pipeAtom : Nat := 4096

end Machine

namespace Task

def stream? (t : Task) (n : Nat) : Option Stream :=
  t.streams.lookup n

/-- The least number from a given one on that no stream has. -/
def freeNumber (t : Task) (least : Nat) : Nat :=
  let rec go : Nat → Nat → Nat
    | 0, n => n
    | fuel + 1, n => if (t.stream? n).isSome then go fuel (n + 1) else n
  go (t.streams.length + 1) least

def setStream (t : Task) (n : Nat) (s : Stream) : Task :=
  { t with streams := (n, s) :: Machine.discard n t.streams }

/-- What is arranged for a signal. -/
def disposition (t : Task) (signal : Nat) : Disposition :=
  (t.dispositions.lookup signal).getD .byDefault

end Task

end AsmExplorer
