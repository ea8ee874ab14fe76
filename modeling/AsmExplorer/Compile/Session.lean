import AsmExplorer.Compile.Pipeline

/-!
# Sessions

Compilations that go on at the same time on one machine. Time stands still while programs work and moves
on when all of them wait. A compilation that is told to stop ends at once; one that has not ended before
its deadline has timed out.
-/

namespace AsmExplorer

/-- A compilation that goes on. -/
structure Flight where
  /-- The number by which the compilation is asked for. -/
  ticket : Nat
  run : Run
  deadline : Nat
  crew : Crew

/-- The machine, its surroundings, and compilations. -/
structure Session where
  machine : Machine
  directory : Location
  searchPath : Text
  home : Text
  pipeline : Pipeline
  flights : List Flight := []
  /-- What the compilations that have ended came to. -/
  results : List (Nat × Except Failure Text) := []
  /-- The number of the next compilation. -/
  tickets : Nat := 0

namespace Session

def ofPipeline (host : Host) (p : Pipeline) : Session :=
  { machine := .ofFiles host.files, directory := host.directory, searchPath := host.searchPath,
    home := host.home, pipeline := p }

def host (s : Session) : Host :=
  { files := s.machine.files, directory := s.directory, searchPath := s.searchPath, home := s.home }

/-- What a compilation has come to, if it has ended. -/
def result? (s : Session) (ticket : Nat) : Option (Except Failure Text) :=
  s.results.lookup ticket

def withFiles (s : Session) (files : FileSystem) : Session :=
  { s with machine := { s.machine with files := files } }

/-- The number of nanoseconds in so many milliseconds. -/
def nanos (millis : Nat) : Nat := millis * 1000000

/-- Takes note of what a compilation has come to, which gives its place back. -/
def settle (s : Session) (ticket : Nat) (run : Run) (r : Except Failure Text) : Session :=
  { s with pipeline := s.pipeline.finish run, results := (ticket, r) :: s.results }

/-- Ends a compilation that goes on. -/
def land (s : Session) (f : Flight) (r : Except Failure Text) : Session :=
  { s with
    machine := f.crew.dismiss s.machine
    flights := s.flights.filter fun g => g.ticket ≠ f.ticket }.settle f.ticket f.run r

/-- Ends the compilations whose programs have ended. -/
def harvest (s : Session) : Session :=
  s.flights.foldl (fun s f =>
    match f.crew.capture? s.machine with
    | some c => s.land f (s.pipeline.conclude f.run c)
    | none => s) s

/-- Ends the compilations that have been told to stop. -/
def reap (s : Session) : Session :=
  (s.flights.filter fun f => s.pipeline.isStopped f.run).foldl (fun s f => s.land f (.error .cancelled)) s

/-- Ends the compilations whose deadline has come. -/
def expire (s : Session) : Session :=
  (s.flights.filter fun f => f.deadline ≤ s.machine.clock).foldl
    (fun s f => s.land f (.error (.timedOut s.pipeline.options.timeout))) s

/-- When something happens next: a sleep is over or a deadline comes. -/
def nextEvent? (s : Session) : Option Nat :=
  (s.machine.nextWake?.toList ++ s.flights.map Flight.deadline).min?

/-- The most work that a program does while the clock stands still. -/
def greatestPatience : Nat := 400000

/-- The work that a program can always do while the clock stands still. -/
def leastPatience : Nat := 2000

/-- The work of which a program is capable until something happens: a unit takes a thousand
nanoseconds. -/
def patience (s : Session) : Nat :=
  match s.nextEvent? with
  | some time => max leastPatience (min greatestPatience ((time - s.machine.clock) / 1000))
  | none => greatestPatience

/-- More turns than programs take while the clock stands still. -/
def turnLimit : Nat := Nat.pow 2 60

/-- Lets programs go on until all of them wait, or a compilation is over. -/
def proceed (s : Session) : Session :=
  let isOver (m : Machine) : Bool := s.flights.any fun f => (f.crew.statuses? m).isSome
  { s with machine := s.machine.settle s.patience isOver turnLimit }.harvest

/-- The work for which there is time when a compilation begins. -/
def workPerFlight : Nat := 1000000

def spawn (s : Session) (i : Invocation) (given : List Text) : Session × Nat :=
  let ticket := s.tickets
  let (p, run) := s.pipeline.begin s.host i given
  let s := { s with pipeline := p, tickets := ticket + 1 }.reap
  match p.start s.host run i.directory with
  | .error e => (s.settle ticket run (.error e), ticket)
  | .ok (compiler, demangler) =>
    let (machine, crew) := Toolchain.drive (s.machine.strengthen workPerFlight) compiler demangler
    let f : Flight :=
      { ticket := ticket, run := run, crew := crew,
        deadline := machine.clock + nanos p.options.timeout }
    ({ s with machine := machine, flights := s.flights ++ [f] }.expire.proceed, ticket)

/-- Lets time pass up to an event. -/
def moveTo (s : Session) (time : Nat) : Session :=
  { s with machine := s.machine.moveTo time }.expire

/-- Lets programs go on and time pass, no further than the limit, until a condition holds. -/
def runUntil (isOver : Session → Bool) (limit : Option Nat) : Nat → Session → Session
  | 0, s => s
  | n + 1, s =>
    if isOver s then s
    else
      let t := s.proceed
      if isOver t then t
      else if t.flights.length < s.flights.length then runUntil isOver limit n t
      else
        match t.nextEvent?.filter fun time => limit.all fun l => time ≤ l with
        | some time => runUntil isOver limit n (t.moveTo time)
        | none =>
          match limit with
          | some time => t.moveTo time
          | none => t

/-- More events than sleeping programs bring about. -/
def eventLimit : Nat := Nat.pow 2 60

/-- Waits until a compilation has ended. One of which nothing is known counts as cancelled. -/
def wait (s : Session) (ticket : Nat) : Session × Except Failure Text :=
  let s := s.runUntil (fun s => (s.result? ticket).isSome) none eventLimit
  (s, (s.result? ticket).getD (.error .cancelled))

/-- Waits until a path leads anywhere, and tells whether it does; at most so many milliseconds. -/
def waitForFile (s : Session) (p : Path) (millis : Nat) : Session × Bool :=
  let limit := s.machine.clock + nanos millis
  let s := s.runUntil (fun s => s.host.pathExists p) (some limit) eventLimit
  (s, s.host.pathExists p)

/-- Compiles: the text without marker lines, or why there is none. -/
def compile (s : Session) (i : Invocation) (given : List Text) : Session × Except Failure Text :=
  let (s, ticket) := s.spawn i given
  s.wait ticket

def cancel (s : Session) (source : Path) : Session × Bool :=
  let (p, found) := s.pipeline.cancel source
  ({ s with pipeline := p }.reap, found)

def cancelAll (s : Session) : Session :=
  { s with pipeline := s.pipeline.cancelAll }.reap

def demanglerFor (s : Session) (compiler : Text) : Session × Path :=
  let (p, path) := s.pipeline.demanglerFor s.host compiler
  ({ s with pipeline := p }, path)

end Session

end AsmExplorer
