import AsmExplorer.Machine.Signals
import AsmExplorer.Text.Octets

/-!
# Streams

Opening, reading and writing. A reader of an empty pipe waits as long as there is a writer; a writer
waits as long as there is a reader and no room. Without a reader, writing is an error and a signal.
-/

namespace AsmExplorer

/-- What a call comes to. -/
inductive Turn where
  /-- The program goes on. -/
  | goes (m : Machine) (t : Task) (p : Process)
  /-- The program waits, and then calls again. -/
  | waits (m : Machine) (t : Task) (p : Process)
  | ends (m : Machine) (t : Task) (status : Status)

namespace Machine

/-- A node as something opened. -/
def openNode (m : Machine) (l : Location) (mode : OpenMode) (n : Node) :
    Except FileError (Machine × Opening) :=
  let opening (target : Target) : Opening :=
    { target := target, readable := mode.readable, writable := mode.writable, appends := mode.appends }
  match n with
  | .directory => if mode.writable then .error .isDirectory else .ok (m, opening (.file l))
  | .file _ executable =>
    if mode.exclusive then .error .alreadyExists
    else if mode.empties then
      .ok ({ m with files := m.files.put l (.file [] executable) }, opening (.file l))
    else .ok (m, opening (.file l))
  | .program _ => if mode.writable then .error .permissionDenied else .ok (m, opening (.file l))
  | .device .terminal => .error .noDevice
  | .device d => .ok (m, opening (.device d))
  | .link _ => .error .tooManyLinks

/-- What a stream of a program leads to, opened once more. -/
def reopen (m : Machine) (t : Task) (number : Nat) (mode : OpenMode) :
    Except FileError (Machine × Opening) :=
  match (t.stream? number).bind fun s => m.opening? s.opening with
  | none => .error .notFound
  | some o =>
    let opening (target : Target) : Opening :=
      { target := target, readable := mode.readable, writable := mode.writable, appends := mode.appends }
    let pipe (p : Nat) : Machine × Opening :=
      if mode.writable then
        (m.changePipe p fun q => { q with writers := q.writers + 1 }, opening (.sink p))
      else (m.changePipe p fun q => { q with readers := q.readers + 1 }, opening (.source p))
    match o.target with
    | .file l =>
      match m.files.node? l with
      | some n => m.openNode l mode n
      | none => .error .notFound
    | .device d => .ok (m, opening (.device d))
    | .source p => .ok (pipe p)
    | .sink p => .ok (pipe p)

/-- What a path leads to, opened. -/
def openPath (m : Machine) (t : Task) (base : Location) (path : Text) (mode : OpenMode) :
    Except FileError (Machine × Opening) :=
  match m.files.walkPath true base ⟨Octets.toText path⟩ with
  | .failed e => .error e
  | .vacant l =>
    if mode.creates then
      .ok ({ m with files := m.files.put l (.file [] false) },
        { target := .file l, readable := mode.readable, writable := mode.writable,
          appends := mode.appends })
    else .error .notFound
  | .found l =>
    match m.files.node? l with
    | some (.device (.stream n)) => m.reopen t n mode
    | some n => m.openNode l mode n
    | none => .error .notFound

/-- Opens a path under the least free number. -/
def openFile (m : Machine) (t : Task) (base : Location) (path : Text) (mode : OpenMode) :
    Machine × Task × Except FileError Nat :=
  match m.openPath t base path mode with
  | .error e => (m, t, .error e)
  | .ok (m, o) =>
    let (m, id) := m.addOpening o
    let number := t.freeNumber 0
    (m, t.setStream number { opening := id }, .ok number)

def closeStream (m : Machine) (t : Task) (number : Nat) : Machine × Task × Bool :=
  match t.stream? number with
  | some s => (m.release s.opening, { t with streams := discard number t.streams }, true)
  | none => (m, t, false)

/-- The greatest number of streams of a program. -/
def streamLimit : Nat := 1024

/-- Gives a stream a second number. -/
def duplicate (m : Machine) (t : Task) (number least : Nat) (closesOnStart : Bool) :
    Machine × Task × Except FileError Nat :=
  match t.stream? number with
  | none => (m, t, .error .badDescriptor)
  | some s =>
    let target := t.freeNumber least
    if streamLimit ≤ target then (m, t, .error .invalidArgument)
    else (m.retain s.opening, t.setStream target ⟨s.opening, closesOnStart⟩, .ok target)

/-- Gives a stream a second number, which then leads nowhere else. -/
def assign (m : Machine) (t : Task) (number target : Nat) : Machine × Task × Bool :=
  match t.stream? number with
  | none => (m, t, false)
  | some s =>
    if number = target then (m, t, true)
    else
      let (m, t, _) := (m.retain s.opening).closeStream t target
      (m, t.setStream target { opening := s.opening }, true)

/-- The opening that a stream leads to, with its number. -/
def openingOf? (m : Machine) (t : Task) (number : Nat) : Option (Nat × Opening) :=
  (t.stream? number).bind fun s => (m.opening? s.opening).map (s.opening, ·)

def read (m : Machine) (t : Task) (number limit : Nat) (p : Process)
    (next : Except FileError Bytes → Process) : Turn :=
  match m.openingOf? t number with
  | none => .goes m t (next (.error .badDescriptor))
  | some (id, o) =>
    if !o.readable then .goes m t (next (.error .badDescriptor))
    else
      match o.target with
      | .file l =>
        match m.files.node? l with
        | some .directory => .goes m t (next (.error .isDirectory))
        | some (.file bytes _) =>
          let taken := (bytes.drop o.place).take limit
          .goes (m.changeOpening id fun o => { o with place := o.place + taken.length }) t
            (next (.ok taken))
        | _ => .goes m t (next (.ok []))
      | .device .sink => .goes m t (next (.ok []))
      | .device _ => .goes m t (next (.ok (List.replicate limit 0)))
      | .sink _ => .goes m t (next (.error .badDescriptor))
      | .source pipe =>
        match m.pipe? pipe with
        | none => .goes m t (next (.ok []))
        | some q =>
          if q.queue.size = 0 then
            if q.writers = 0 then .goes m t (next (.ok []))
            else if t.arrived ≠ [] then .goes m t (next (.error .interrupted))
            else .waits m t p
          else
            let (bytes, queue) := q.queue.take limit
            .goes (m.changePipe pipe fun q => { q with queue := queue }) t (next (.ok bytes))

/-- Bytes put over others from a place on. -/
def overwrite (old : Bytes) (place : Nat) (bytes : Bytes) : Bytes :=
  old.take place ++ List.replicate (place - old.length) 0 ++ bytes ++ old.drop (place + bytes.length)

def writeFile (m : Machine) (id : Nat) (o : Opening) (l : Location) (bytes : Bytes) : Machine :=
  match m.files.node? l with
  | some (.file old executable) =>
    let place := if o.appends then old.length else o.place
    { m with files := m.files.put l (.file (overwrite old place bytes) executable) }.changeOpening id
      fun o => { o with place := place + bytes.length }
  | _ => m

/-- Writes to a pipe, as much as there is room for. -/
def writePipe (m : Machine) (t : Task) (number pipe : Nat) (q : Pipe) (bytes : Bytes) (p : Process)
    (next : Except FileError Unit → Process) : Turn :=
  let put (bytes : Bytes) : Machine := m.changePipe pipe fun q => { q with queue := q.queue.put bytes }
  if q.readers = 0 then
    match t.take Signal.pipe with
    | some t => .goes m t (next (.error .brokenPipe))
    | none => .ends m t (.signal Signal.pipe)
  else
    match q.capacity with
    | none => .goes (put bytes) t (next (.ok ()))
    | some capacity =>
      let room := capacity - q.queue.size
      let size := bytes.length
      if size ≤ room then .goes (put bytes) t (next (.ok ()))
      else if t.arrived ≠ [] then .goes m t (next (.error .interrupted))
      else if room = 0 ∨ size ≤ pipeAtom then .waits m t p
      else .goes (put (bytes.take room)) t (.call (.write number (bytes.drop room)) next)

def write (m : Machine) (t : Task) (number : Nat) (bytes : Bytes) (p : Process)
    (next : Except FileError Unit → Process) : Turn :=
  match m.openingOf? t number with
  | none => .goes m t (next (.error .badDescriptor))
  | some (id, o) =>
    if !o.writable then .goes m t (next (.error .badDescriptor))
    else
      match o.target with
      | .file l => .goes (m.writeFile id o l bytes) t (next (.ok ()))
      | .device .full => .goes m t (next (.error .noSpace))
      | .device _ => .goes m t (next (.ok ()))
      | .source _ => .goes m t (next (.error .badDescriptor))
      | .sink pipe =>
        match m.pipe? pipe with
        | none => .goes m t (next (.error .brokenPipe))
        | some q => m.writePipe t number pipe q bytes p next

/-- Moves to another place in a file, and tells whether that is possible. -/
def move (m : Machine) (t : Task) (number : Nat) (distance : Int) : Machine × Bool :=
  match m.openingOf? t number with
  | some (id, o) =>
    match o.target with
    | .file _ =>
      let place : Int := o.place + distance
      if place < 0 then (m, false)
      else (m.changeOpening id fun o => { o with place := place.toNat }, true)
    | _ => (m, false)
  | none => (m, false)

/-- What a stream leads to. -/
def inspect (m : Machine) (t : Task) (number : Nat) : Option StreamKind :=
  (m.openingOf? t number).map fun (_, o) =>
    match o.target with
    | .file l => .file l
    | .device d => .device d
    | .source _ => .pipe
    | .sink _ => .pipe

end Machine

end AsmExplorer
