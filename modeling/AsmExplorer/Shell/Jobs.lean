import AsmExplorer.Shell.State

/-!
# Jobs

Programs that a script has started together, and waiting for them. Jobs are numbered from one on; the
last one that was started comes first.
-/

namespace AsmExplorer.Shell

namespace Job

/-- The status of a job that has ended, which is that of its last program. -/
def status (j : Job) : Nat :=
  match j.members.getLast? with
  | some (_, some status) => status.asCode
  | _ => 0

def hasMember (j : Job) (id : Nat) : Bool :=
  j.members.any fun m => m.1 == id

/-- The job with the end of a program noted. -/
def noteEnd (j : Job) (id : Nat) (status : Status) : Job :=
  let members := j.members.map fun m => if m.1 = id then (id, some status) else m
  let j := { j with members := members }
  if j.isDone then { j with hasChanged := true } else j

/-- How the state of a job is told. -/
def stateText (j : Job) : Text :=
  if !j.isDone then "Running".toList
  else
    match j.members.getLast? with
    | some (_, some (.signal n)) => Signal.description n
    | some (_, some (.code 0)) => "Done".toList
    | some (_, some (.code n)) => "Done(".toList ++ Text.ofNat n ++ [')']
    | _ => "Running".toList

end Job

namespace Act

def jobWith? (number : Nat) : Act (Option Job) := do
  return (← state).jobs.find? fun j => j.number == number

def changeJob (number : Nat) (f : Job → Job) : Act Unit :=
  modify fun s => { s with jobs := s.jobs.map fun j => if j.number = number then f j else j }

def dropJob (number : Nat) : Act Unit :=
  modify fun s => { s with jobs := s.jobs.filter fun j => j.number ≠ number }

/-- The least number from a given one on that no job needs. -/
def freeNumber (jobs : List Job) : Nat → Nat → Nat
  | 0, n => n
  | fuel + 1, n => if jobs.any fun j => j.number == n then freeNumber jobs fuel (n + 1) else n

/-- Makes a job of programs, and gives its number. A job of which the end is known is forgotten if its
number is the next one. -/
def addJob (ids : List Nat) : Act Nat := do
  let s ← state
  let needed := s.jobs.filter fun j => !(j.isDone && j.isKnown)
  let number := freeNumber needed (needed.length + 1) 1
  dropJob number
  let job : Job := { number := number, members := ids.map fun id => (id, none) }
  modify fun s => { s with jobs := job :: s.jobs }
  return number

/-- Takes note of the end of a child. -/
def noteEnd (id : Nat) (status : Status) : Act Unit :=
  modify fun s =>
    { s with jobs := s.jobs.map fun j => if j.hasMember id then j.noteEnd id status else j }

/-- Tells of a program that a signal has ended. -/
def announce (status : Status) : Act Unit :=
  match status with
  | .code _ => pure ()
  | .signal n =>
    if n = Signal.interrupt ∨ n = Signal.pipe then pure ()
    else do
      let _ ← say 2 (Signal.description n ++ ['\n'])

/-- Waits until a job has ended, and tells whether it has. With `yields`, a signal for which something is
to be done ends the waiting. -/
def awaitJob (yields : Bool) (number : Nat) : Nat → Act Bool
  | 0 => stuck
  | n + 1 => do
    match ← jobWith? number with
    | none => return true
    | some j =>
      if j.isDone then return true
      match ← ask (.await none true) with
      | .ended id status =>
        noteEnd id status
        if j.hasMember id then announce status
        awaitJob yields number n
      | .interrupted =>
        noteSignals
        if yields then return false else awaitJob yields number n
      | _ => return true

/-- Waits for a job, forgets it and gives its status. -/
def finishJob (number : Nat) : Act Nat := do
  let _ ← awaitJob false number Program.limit
  match ← jobWith? number with
  | some j =>
    dropJob number
    return j.status
  | none => return 0

/-- The status of a command that a signal has interrupted. -/
def interruptedStatus : Act Nat := do
  return 128 + (← state).arrived.getLastD 0

/-- Waits until all jobs have ended, and gives the status of doing so. -/
def awaitAll : Nat → Act Nat
  | 0 => stuck
  | n + 1 => do
    let s ← state
    let ended := s.jobs.takeWhile Job.isDone
    for j in ended do
      changeJob j.number fun j => { j with isKnown := true }
    if ended.length = s.jobs.length then return 0
    match ← ask (.await none true) with
    | .ended id status =>
      noteEnd id status
      awaitAll n
    | .interrupted =>
      noteSignals
      interruptedStatus
    | _ => return 0

/-- Takes note of the children that have ended. -/
def noteEnds : Nat → Act Unit
  | 0 => stuck
  | n + 1 => do
    match ← ask (.await none false) with
    | .ended id status =>
      noteEnd id status
      noteEnds n
    | _ => pure ()

/-- The job that a word names; without a word, the present one. -/
def namedJob (word : Option Text) (needsControl : Bool) : Act Job := do
  let s ← state
  let name := word.getD "(null)".toList
  let found (j : Option Job) (complaint : Text) : Act Job :=
    match j with
    | some j =>
      if needsControl then
        fail ("job ".toList ++ name ++ " not created under job control".toList)
      else pure j
    | none => fail complaint
  let current := found s.jobs.head? "No current job".toList
  let unknown := "No such job: ".toList ++ name
  match word with
  | none => current
  | some ['%'] => current
  | some ['%', '+'] => current
  | some ['%', '%'] => current
  | some ['%', '-'] => found (s.jobs.drop 1).head? "No previous job".toList
  | some ('%' :: digits) =>
    match if digits.isEmpty then none else Text.decimal? (Nat.pow 2 31) digits with
    | some n => found (s.jobs.find? fun j => j.number == n) unknown
    | none => fail unknown
  | some _ => fail unknown

/-- What is told of a job in a list. -/
inductive JobView where
  | plain
  | ids
  | withIds
  deriving DecidableEq

/-- The lines that tell of a job. -/
def jobText (s : State) (view : JobView) (j : Job) : Text :=
  let sign :=
    if s.jobs.head?.any fun k => k.number == j.number then '+'
    else if (s.jobs.drop 1).head?.any fun k => k.number == j.number then '-'
    else ' '
  let number := '[' :: Text.ofNat j.number ++ [']', ' ', sign, ' ']
  let padded (t : Text) : Text := t ++ List.replicate (max 1 (33 - t.length)) ' '
  let ids := j.members.map fun m => Text.ofNat m.1
  match view with
  | .ids => ids.headD [] ++ ['\n']
  | .plain =>
    padded (number ++ j.stateText) ++ (List.replicate (j.members.length - 1) " | ".toList).flatten ++
      ['\n']
  | .withIds =>
    let rest := (ids.drop 1).flatMap fun id =>
      " |\n".toList ++ padded (List.replicate number.length ' ' ++ id ++ [' '])
    padded (number ++ ids.headD [] ++ ' ' :: j.stateText) ++ rest ++ ['\n']

/-- Tells of jobs. Those that have ended are forgotten. -/
def showJobs (view : JobView) : List Job → Act Text
  | [] => pure []
  | j :: js => do
    let s ← state
    let t := jobText s view j
    if j.isDone && view != .ids then dropJob j.number
    else changeJob j.number fun j => { j with hasChanged := false }
    return t ++ (← showJobs view js)

end Act

end AsmExplorer.Shell
