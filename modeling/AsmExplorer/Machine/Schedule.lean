import AsmExplorer.Machine.Streams

/-!
# Taking turns

Programs take turns. A program goes on until it waits, ends, or has had its share; a program that has
done too much work since the clock last moved waits until it moves again. When nobody can go on, the
machine is at rest.
-/

namespace AsmExplorer

namespace Machine

/-- The work that a call takes. -/
def effort : Call → Nat
  | .pause work => work
  | .files => 0
  | .read _ _ => 2
  | .write _ bytes => 2 + bytes.length / 32
  | .openFile .. => 8
  | .await .. => 2
  | .sleep _ => 10
  | _ => 1

/-- The work that making a child takes. -/
def forkEffort : Nat := 40

/-- What a call of a program comes to. -/
def perform (m : Machine) (t : Task) (p : Process) : (c : Call) → (c.Reply → Process) → Turn
  | .pause _, next => .goes m t (next ())
  | .files, next => .goes m t (next m.files)
  | .change f, next => .goes { m with files := f m.files } t (next ())
  | .openFile base path mode, next =>
    let (m, t, r) := m.openFile t base path mode
    .goes m t (next r)
  | .close number, next =>
    let (m, t, r) := m.closeStream t number
    .goes m t (next r)
  | .duplicate number least closesOnStart, next =>
    let (m, t, r) := m.duplicate t number least closesOnStart
    .goes m t (next r)
  | .assign number target, next =>
    let (m, t, r) := m.assign t number target
    .goes m t (next r)
  | .makePipe, next =>
    let (m, source, sink) := m.addPipe (some pipeCapacity)
    let a := t.freeNumber 0
    let t := t.setStream a { opening := source }
    let b := t.freeNumber 0
    .goes m (t.setStream b { opening := sink }) (next (a, b))
  | .read number limit, next => m.read t number limit p next
  | .write number bytes, next => m.write t number bytes p next
  | .move number distance, next =>
    let (m, r) := m.move t number distance
    .goes m t (next r)
  | .inspect number, next => .goes m t (next (m.inspect t number))
  | .await child waits, next =>
    match m.report t.id child with
    | (m, .going) =>
      if t.arrived ≠ [] then .goes m t (next .interrupted)
      else if waits then .waits m t p
      else .goes m t (next .going)
    | (m, r) => .goes m t (next r)
  | .sleep nanos, next =>
    match t.wakes with
    | none =>
      if nanos = 0 then .goes m t (next true)
      else .waits m { t with wakes := some (m.clock + nanos) } p
    | some time =>
      if time ≤ m.clock then .goes m { t with wakes := none } (next true)
      else if t.arrived ≠ [] then .goes m { t with wakes := none } (next false)
      else .waits m t p
  | .send target signal, next =>
    if target = t.id then
      match t.receive signal with
      | .ok t => if t.stopped then .waits m t (next (.ok ())) else .goes m t (next (.ok ()))
      | .error s => .ends m t (.signal s)
    else if m.isKnown target ∨ target = nobody ∨ target = outside then
      .goes (m.signal target signal) t (next (.ok ()))
    else .goes m t (next (.error .noProcess))
  | .arrange signal d, next =>
    .goes m { t with dispositions := (signal, d) :: discard signal t.dispositions } (next ())
  | .arrangement signal, next => .goes m t (next (t.disposition signal))
  | .arrived, next => .goes m { t with arrived := [] } (next t.arrived.reverse)
  | .identity, next => .goes m t (next (t.id, t.parent))
  | .clock, next => .goes m t (next m.clock)
  | .become, next =>
    let (closing, staying) := t.streams.partition fun s => s.2.closesOnStart
    let m := closing.foldl (fun m s => m.release s.2.opening) m
    .goes m
      { t with
        streams := staying
        dispositions := t.dispositions.filter fun d => d.2 = .ignored
        arrived := [] }
      (next ())

def child (t : Task) (id : Nat) (p : Process) : Task :=
  { t with id := id, parent := t.id, program := p, arrived := [], held := [], wakes := none, work := 0 }

/-- Puts a program back among those that run. -/
def park (m : Machine) (t : Task) (p : Process) : Machine :=
  m.setTask { t with program := p }

/-- Lets a program go on for a number of calls, and tells whether it has done anything. -/
def advance (patience : Nat) : Nat → Bool → Machine → Task → Process → Machine × Bool
  | 0, busy, m, t, p => (m.park t p, busy)
  | calls + 1, busy, m, t, p =>
    if patience ≤ t.work ∨ m.strength = 0 then (m.park t p, busy)
    else
      match p with
      | .ended status =>
        ({ m with tasks := m.tasks.filter fun u => u.id ≠ t.id }.bury t status, true)
      | .stuck => (m.park t p, busy)
      | .fork c next =>
        let id := m.next
        let m := t.streams.foldl (fun m s => m.retain s.2.opening) m
        let m := { m with
          tasks := m.tasks ++ [child t id c]
          next := id + 1
          strength := m.strength - forkEffort }
        advance patience calls true m { t with work := t.work + forkEffort } (next id)
      | .call c next =>
        let work := effort c
        let t := { t with work := t.work + work }
        match perform { m with strength := m.strength - work } t (.call c next) c next with
        | .goes m t p => advance patience calls true m t p
        | .waits m t p => (m.park t p, busy)
        | .ends m t status =>
          ({ m with tasks := m.tasks.filter fun u => u.id ≠ t.id }.bury t status, true)

/-- The number of calls that a program makes before others have their turn. -/
def share : Nat := 2000

/-- Lets a running program take its turn, and tells whether it has done anything. -/
def turn (patience : Nat) (m : Machine) (id : Nat) : Machine × Bool :=
  match m.task? id with
  | some t => if t.stopped then (m, false) else m.advance patience share false t t.program
  | none => (m, false)

/-- Lets each running program take its turn, and tells whether one has done anything. -/
def round (patience : Nat) (m : Machine) : Machine × Bool :=
  (m.tasks.map Task.id).foldl
    (fun (m, busy) id =>
      let (m, b) := m.turn patience id
      (m, busy || b))
    (m, false)

/-- Lets programs take turns until nobody can go on, or a condition holds. -/
def settle (patience : Nat) (isOver : Machine → Bool) : Nat → Machine → Machine
  | 0, m => m
  | fuel + 1, m =>
    if isOver m then m
    else
      match m.round patience with
      | (m, true) => settle patience isOver fuel m
      | (m, false) => m

end Machine

end AsmExplorer
