import AsmExplorer.Shell.Builtin.Arguments
import AsmExplorer.Shell.Jobs

/-!
# Commands about signals and jobs

Commands that send signals, set what is done on them, and tell of jobs or wait for them.
-/

namespace AsmExplorer.Shell.Builtin

/-- What a signal is called; signal zero is the end of the script. -/
def signalName (n : Nat) : Text :=
  let first := Signal.firstRealTime
  if n = 0 then "EXIT".toList
  else if n = first then "RTMIN".toList
  else if n = Signal.last then "RTMAX".toList
  else if first < n ∧ n ≤ first + 15 then "RTMIN+".toList ++ Text.ofNat (n - first)
  else if first < n ∧ n < Signal.last then "RTMAX-".toList ++ Text.ofNat (Signal.last - n)
  else if n = 16 then Text.ofNat n
  else (Signal.name? n).getD (Text.ofNat n)

/-- The number of a signal that digits spell. -/
def signalNumber? (word : Text) : Option Nat :=
  if word.isEmpty ∨ ¬ word.all Char.isDigit then none
  else (Text.decimal? (Nat.pow 2 31) word).filter fun n => n ≤ Signal.last

/-- The number of the signal that a word spells or names, from a given one on. -/
def signal? (least : Nat) (word : Text) : Option Nat :=
  match signalNumber? word with
  | some n => some n
  | none =>
    let upper := word.map Char.toUpper
    (List.range' least (Signal.last + 1 - least)).find? fun n => signalName n == upper

/-- How to send signals. -/
def killUsage : Text :=
  "Usage: kill [-s sigspec | -signum | -sigspec] [pid | job]... or\nkill -l [exitstatus]".toList

def listSignals (words : List Text) : Act Nat := do
  match words with
  | [] =>
    let names := (List.range' 1 Signal.last).map signalName
    Act.print ((['0'] :: names).flatMap fun name => name ++ ['\n']) 0
  | word :: _ =>
    let status ← Act.number word
    let n := if 128 < status then status - 128 else status
    if 0 < n ∧ n ≤ Signal.last then Act.print (signalName n ++ ['\n']) 0
    else Act.fail ("invalid signal number or exit status: ".toList ++ word)

/-- Sends a signal to programs, and gives the status of doing so. -/
def sendTo (signal status : Nat) : List Text → Act Nat
  | [] => pure status
  | target :: targets => do
    let outcome : Except FileError Unit ← do
      match target with
      | '%' :: _ =>
        let _ ← Act.namedJob (some target) false
        pure (.error .noProcess)
      | '-' :: digits =>
        let _ ← Act.number digits
        pure (.error .noProcess)
      | digits => Act.ask (.send (← Act.number digits) signal)
    match outcome with
    | .ok _ => sendTo signal status targets
    | .error e =>
      Act.complain (e.text ++ ['\n'])
      sendTo signal 1 targets

/-- Sends a signal to programs, or tells the names of signals. -/
def kill (arguments : List Text) : Act Nat := do
  let send (signal : Nat) (targets : List Text) : Act Nat :=
    if targets.isEmpty then Act.fail killUsage else sendTo signal 0 targets
  match arguments with
  | [] => Act.fail killUsage
  | ('-' :: name) :: rest =>
    match signal? 1 name with
    | some n => send n rest
    | none =>
      let a ← Arguments.read "ls:" arguments
      let chosen ← match (a.options.filter fun o => o.1 == 's').getLast? with
        | none => pure none
        | some (_, name) =>
          match signal? 1 name with
          | some n => pure (some n)
          | none => Act.fail ("invalid signal number or name: ".toList ++ name)
      if a.has 'l' then
        if chosen.isSome && !a.words.isEmpty then Act.fail killUsage else listSignals a.words
      else send (chosen.getD Signal.terminate) a.words
  | targets => send Signal.terminate targets

/-- Arranges what is to be done on a signal, unless it has been ignored from the start. -/
def arrange (signal : Nat) (action : Option Text) : Act Unit := do
  let s ← Act.state
  let isNew := (s.traps.lookup signal).isNone
  let others := s.traps.filter fun t => t.1 ≠ signal
  let traps := match action with
    | none => others
    | some action => (signal, action) :: others
  Act.modify fun s => { s with traps := traps }
  if signal = 0 ∨ s.deafTo.contains signal then pure ()
  else
    let before : Disposition ← Act.ask (.arrangement signal)
    if isNew && before == .ignored then
      Act.modify fun s => { s with deafTo := signal :: s.deafTo }
    else
      Act.ask (.arrange signal (match action with
        | none => .byDefault
        | some [] => .ignored
        | some _ => .caught))

/-- Arranges what is to be done on signals, and gives the status of doing so. -/
def arrangeAll (action : Option Text) : List Text → Act Nat
  | [] => pure 0
  | name :: names => do
    match signal? 0 name with
    | some n =>
      arrange n action
      arrangeAll action names
    | none =>
      let _ ← Act.say 2 ("trap: ".toList ++ name ++ ": bad trap\n".toList)
      return 1

/-- Sets what is done on signals, or tells it. -/
def trap (arguments : List Text) : Act Nat := do
  let a ← Arguments.read "" arguments
  match a.words with
  | [] =>
    let s ← Act.state
    let line (n : Nat) : Text :=
      match s.traps.lookup n with
      | some action => "trap -- ".toList ++ quote action ++ ' ' :: signalName n ++ ['\n']
      | none => []
    Act.print ((List.range (Signal.last + 1)).flatMap line) 0
  | word :: names =>
    if names.isEmpty ∨ (signalNumber? word).isSome then arrangeAll none a.words
    else arrangeAll (if word = ['-'] then none else some word) names

/-- Waits for the jobs that words name, and gives the status of the last one. -/
def waitFor (status : Nat) : List Text → Act Nat
  | [] => pure status
  | word :: words => do
    let job ← match word with
      | '%' :: _ => do
        let j ← Act.namedJob (some word) false
        pure (some j)
      | digits => do
        let id ← Act.number digits
        let s ← Act.state
        pure (s.jobs.find? fun j => (j.members.getLast?.map Prod.fst) == some id)
    match job with
    | none => waitFor 127 words
    | some j =>
      if ← Act.awaitJob true j.number Program.limit then
        Act.changeJob j.number fun j => { j with isKnown := true }
        let ended ← Act.jobWith? j.number
        waitFor ((ended.map Job.status).getD 0) words
      else Act.interruptedStatus

/-- Waits for jobs, without words for all of them. -/
def wait (arguments : List Text) : Act Nat := do
  let a ← Arguments.read "" arguments
  if a.words.isEmpty then Act.awaitAll Program.limit else waitFor 127 a.words

def namedJobs (needsControl : Bool) : List Text → Act (List Job)
  | [] => pure []
  | word :: words => do
    let j ← Act.namedJob (some word) needsControl
    return j :: (← namedJobs needsControl words)

/-- Tells of jobs. -/
def jobs (arguments : List Text) : Act Nat := do
  let a ← Arguments.read "lp" arguments
  let view : Act.JobView := match a.options.getLast? with
    | some ('l', _) => .withIds
    | some _ => .ids
    | none => .plain
  if a.words.isEmpty then
    Act.noteEnds Program.limit
    let s ← Act.state
    Act.print (← Act.showJobs view s.jobs) 0
  else Act.print (← Act.showJobs view (← namedJobs false a.words)) 0

/-- Would let jobs go on, which only scripts under the control of a terminal can. -/
def continueJobs (arguments : List Text) : Act Nat := do
  let a ← Arguments.read "" arguments
  match a.words with
  | [] =>
    let _ ← Act.namedJob none true
    return 0
  | words =>
    let _ ← namedJobs true words
    return 0

end AsmExplorer.Shell.Builtin
