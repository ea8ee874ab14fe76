import AsmExplorer.Machine.Schedule

/-!
# The machine from outside

Programs that are started from outside, pipes that are read from outside, and the passing of time.
-/

namespace AsmExplorer

namespace Machine

/-- Starts a program whose streams lead to openings, and gives its number. -/
def enter (m : Machine) (p : Process) (streams : List (Nat × Nat))
    (dispositions : List (Nat × Disposition)) : Machine × Nat :=
  let task : Task :=
    { id := m.next, parent := outside, program := p
      streams := streams.map fun (number, opening) => (number, { opening := opening })
      dispositions := dispositions }
  ({ m with tasks := m.tasks ++ [task], next := m.next + 1 }, m.next)

/-- Something that gives nothing, opened. -/
def addNothing (m : Machine) : Machine × Nat :=
  m.addOpening { target := .device .sink, readable := true, writable := false }

def pipeOf? (m : Machine) (opening : Nat) : Option Pipe :=
  match (m.opening? opening).map Opening.target with
  | some (.source p) => m.pipe? p
  | some (.sink p) => m.pipe? p
  | _ => none

/-- The bytes in the pipe that an opening leads to. -/
def caught (m : Machine) (opening : Nat) : Bytes :=
  ((m.pipeOf? opening).map fun p => p.queue.toBytes).getD []

/-- Whether nobody can write to the pipe that an opening leads to. -/
def isClosed (m : Machine) (opening : Nat) : Bool :=
  (m.pipeOf? opening).all fun p => p.writers == 0

/-- Whether a program that was started from outside is running. -/
def isRunning (m : Machine) (id : Nat) : Bool :=
  (m.task? id).isSome

/-- Forgets how programs that were started from outside have ended. -/
def forget (m : Machine) (ids : List Nat) : Machine :=
  { m with ended := m.ended.filter fun e => !(e.parent == outside && ids.contains e.id) }

/-- When the next sleep of a program is over. -/
def nextWake? (m : Machine) : Option Nat :=
  ((m.tasks.filterMap Task.wakes).filter fun time => m.clock < time).min?

/-- The machine with time enough for some work. -/
def strengthen (m : Machine) (work : Nat) : Machine :=
  { m with strength := max m.strength work }

/-- The work that there is always time for when the clock has moved. -/
def leastStrength : Nat := 4000

def moveTo (m : Machine) (time : Nat) : Machine :=
  let m := m.strengthen leastStrength
  { m with
    files := m.files.later (time - m.clock)
    clock := max m.clock time
    tasks := m.tasks.map fun t => { t with work := 0 } }

end Machine

end AsmExplorer
