import AsmExplorer.Machine.Basic

/-!
# Signals and ends

What becomes of a program that a signal arrives at, and of one that ends. The streams of a program that
has ended are closed, its children belong to nobody any more, and its end is kept until its parent asks
for it.
-/

namespace AsmExplorer

namespace Task

/-- The program with a caught signal noted. -/
def note (t : Task) (signal : Nat) : Task :=
  if t.arrived.contains signal then t else { t with arrived := signal :: t.arrived }

/-- What a signal comes to that arrives at a program: the program as it is then, or none if the signal
has ended it. -/
def take (t : Task) (signal : Nat) : Option Task :=
  if signal = 0 then some t
  else if signal = Signal.kill then none
  else if signal = Signal.stop then some { t with stopped := true }
  else
    match t.disposition signal with
    | .ignored => some t
    | .caught => some (t.note signal)
    | .byDefault =>
      match Signal.defaultEffect signal with
      | .none => some t
      | .continues => some t
      | .stops => some { t with stopped := true }
      | .ends => none

/-- What signals come to one after the other: the program, or the signal that has ended it. -/
def takeAll (t : Task) : List Nat → Except Nat Task
  | [] => .ok t
  | s :: rest =>
    match t.take s with
    | some t => takeAll t rest
    | none => .error s

/-- What a signal comes to, also at a program that is stopped: there it waits, unless it kills the
program or lets it go on. -/
def receive (t : Task) (signal : Nat) : Except Nat Task :=
  if signal = Signal.resume then
    takeAll { t with stopped := false, held := [] } (t.held ++ [signal])
  else if t.stopped ∧ signal ≠ Signal.kill then .ok { t with held := t.held ++ [signal] }
  else takeAll t [signal]

end Task

namespace Machine

/-- The number of the parent of programs whose parents have ended. -/
def nobody : Nat := 1

/-- The number of the parent of programs that are started from outside. -/
def outside : Nat := 0

def task? (m : Machine) (id : Nat) : Option Task :=
  m.tasks.find? fun t => t.id == id

def setTask (m : Machine) (t : Task) : Machine :=
  { m with tasks := m.tasks.map fun u => if u.id = t.id then t else u }

/-- The end of a program that no longer runs. -/
def bury (m : Machine) (t : Task) (status : Status) : Machine :=
  let m := t.streams.foldl (fun m s => m.release s.2.opening) m
  let parentLives := t.parent = outside ∨ (m.task? t.parent).isSome
  let orphaned := m.tasks.map fun u => if u.parent = t.id then { u with parent := nobody } else u
  let told := orphaned.map fun u =>
    if u.id = t.parent ∧ u.disposition Signal.child = .caught then u.note Signal.child else u
  let ended := m.ended.filter fun e => e.parent ≠ t.id
  { m with
    tasks := told
    ended := if parentLives then ended ++ [⟨t.parent, t.id, status⟩] else ended }

def finish (m : Machine) (id : Nat) (status : Status) : Machine :=
  match m.task? id with
  | some t => { m with tasks := m.tasks.filter fun u => u.id ≠ id }.bury t status
  | none => m

def signal (m : Machine) (id signal : Nat) : Machine :=
  match m.task? id with
  | some t =>
    match t.receive signal with
    | .ok t => m.setTask t
    | .error s => m.finish id (.signal s)
  | none => m

/-- Whether a number belongs to a program, which may have ended untold. -/
def isKnown (m : Machine) (id : Nat) : Bool :=
  (m.task? id).isSome || m.ended.any fun e => e.id == id

/-- How a program that was started from outside has ended. -/
def status? (m : Machine) (id : Nat) : Option Status :=
  (m.ended.find? fun e => e.parent == outside && e.id == id).map Ended.status

/-- What a program learns about its children, and the machine when it has learnt it. -/
def report (m : Machine) (parent : Nat) (child : Option Nat) : Machine × ChildReport :=
  let isMeant (id : Nat) : Bool := child.all fun c => c == id
  match m.ended.find? fun e => e.parent == parent && isMeant e.id with
  | some e => ({ m with ended := m.ended.erase e }, .ended e.id e.status)
  | none =>
    if m.tasks.any fun u => u.parent == parent && isMeant u.id then (m, .going)
    else (m, .childless)

end Machine

end AsmExplorer
