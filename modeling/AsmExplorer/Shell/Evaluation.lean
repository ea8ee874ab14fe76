import AsmExplorer.Shell.Execution
import AsmExplorer.Shell.Resolution

/-!
# Evaluation

Running commands one after the other. A command gives a status, which the script keeps; a script may
stop at the first failure that is not tested. The last command of a copy of the script, behind which
nothing comes, takes the place of the copy.
-/

namespace AsmExplorer.Shell

/-- In what circumstances a command is run. -/
structure Mode where
  /-- Whether the status is tested, so that a failure ends nothing. -/
  isTested : Bool := false
  /-- Whether nothing comes behind the command. -/
  isLast : Bool := false

namespace State

/-- The reading of a text with what the script knows. -/
def resume (s : State) (r : Reading) : Reading :=
  { r with aliases := s.aliases, documents := [], nextDocument := s.nextDocument }

/-- The state in which a text has been read up to a place. -/
def takeReading (s : State) (r : Reading) : State :=
  { s with
    documents := r.documents ++ s.documents
    nextDocument := r.nextDocument
    readLine := r.line }

/-- The skip that is left when a loop has ended or a round of it is over, and whether the loop goes on. -/
def leaveLoop (s : State) : State × Bool :=
  match s.skip with
  | .nothing => (s, true)
  | .back _ => (s, false)
  | .leave n => if n ≤ 1 then ({ s with skip := .nothing }, false) else ({ s with skip := .leave (n - 1) }, false)
  | .again n =>
    if n ≤ 1 then ({ s with skip := .nothing }, true) else ({ s with skip := .again (n - 1) }, false)

end State

namespace Act

/-- Stops at what is wrong in a script. -/
def failReading {α : Type} (fault : SyntaxFault) : Act α := do
  modify fun s => { s with readLine := fault.line, line := fault.line }
  fail ("Syntax error: ".toList ++ fault.message)

/-- Does something in between and then goes on at the same line. -/
def keepingLine {α : Type} (a : Act α) : Act α := do
  let line := (← state).readLine
  let r ← outcome a
  modify fun s => { s with readLine := line }
  resume r

def isSkipping : Act Bool := do
  return (← state).skip != .nothing

/-- The path of a file of commands. A name without a slash is looked for in the directories of the search
path. -/
def commandFile (name : Text) : Act Text := do
  if name.contains '/' then return name
  let s ← state
  let fs ← files
  let isThere (path : Text) : Bool :=
    match fs.nodeAt? s.directory ⟨Octets.toText path⟩ with
    | some (.file ..) => true
    | some (.program _) => true
    | _ => false
  match (Lookup.candidates s.searchPath name).find? isThere with
  | some path => return path
  | none => fail (name ++ ": not found".toList)

/-- Opens a file of commands under a number that programs do not see. -/
def openScript (path : Text) : Act Nat := do
  let number ← Redirect.openForInput path
  match ← ask (.duplicate number Redirect.firstKept true) with
  | .ok kept =>
    let _ : Bool ← ask (.close number)
    return kept
  | .error _ => return number

/-- Reads more of a script; nothing is left at the end. -/
def readMore (number : Nat) : Nat → Act Text
  | 0 => stuck
  | n + 1 => do
    match ← ask (.read number 8192) with
    | .ok bytes => return Octets.ofBytes bytes
    | .error .interrupted =>
      noteSignals
      readMore number n
    | .error _ => return []

/-- Shows the lines that have been read, if that is asked for. -/
def showLines (before after : Reading) : Act Unit := do
  if (← state).options.shows then
    let _ ← say 2 (before.rest.take (before.rest.length - after.rest.length))

/-- Ends the redirections and scopes of a command. -/
def endCommand (hasRedirects lasts : Bool) (redirections scopes : Nat) : Act Unit := do
  if hasRedirects then Redirect.finish lasts
  let s ← state
  if redirections < s.redirections.length then Redirect.unwind redirections
  if scopes < s.scopes.length then endScopes scopes

/-- Becomes a program. -/
def exec (launch : Launch) (arguments : List Text) : Act Nat := do
  let a ← Arguments.read "" arguments
  if a.words.isEmpty then return 0
  let s ← state
  replace launch s.searchPath none a.words

end Act

open Act

mutual

/-- Runs a command and gives the status of the script then. -/
def run (launch : Launch) (m : Mode) (c : Command) : Nat → Act Nat
  | 0 => stuck
  | n + 1 => do
    let s ← state
    if s.options.onlyReads then conclude launch m false none n
    else
      if s.hasTraps then runTraps launch n
      match c with
      | .simple line assignments words redirects =>
        let status ← simple launch m line assignments words redirects n
        conclude launch m true (some status) n
      | .pipeline parts isBackground =>
        let status ← pipeline launch m parts isBackground n
        conclude launch m true (some status) n
      | .negation c =>
        let status ← run launch { isTested := true } c n
        conclude launch m false (some (if status = 0 then 1 else 0)) n
      | .both first second =>
        let status ← run launch { isTested := true } first n
        if status ≠ 0 ∨ (← isSkipping) then conclude launch m false none n
        else
          let status ← run launch m second n
          conclude launch m false (some status) n
      | .either first second =>
        let status ← run launch { isTested := true } first n
        if status = 0 ∨ (← isSkipping) then conclude launch m false none n
        else
          let status ← run launch m second n
          conclude launch m false (some status) n
      | .sequence first second =>
        let _ ← run launch { isTested := m.isTested } first n
        if ← isSkipping then conclude launch m false none n
        else
          let status ← run launch m second n
          conclude launch m false (some status) n
      | .background body redirects =>
        let settled ← Redirect.settleAll (fun b => substitute launch b n) redirects
        let id ← spawn do
          enterSubshell
          enterBackground true
          subshell launch {} settled body n
        let _ ← addJob [id]
        modify fun s => { s with background := some id }
        conclude launch m true (some 0) n
      | .subshell line body redirects =>
        modify fun s => { s with line := line }
        let settled ← Redirect.settleAll (fun b => substitute launch b n) redirects
        let s ← state
        if m.isLast && !s.hasTraps then
          Redirect.performAll (fun b => substitute launch b n) false settled
          let status ← run launch m body n
          conclude launch m true (some status) n
        else
          let id ← spawn do
            enterSubshell
            subshell launch m settled body n
          let status ← finishJob (← addJob [id])
          conclude launch m true (some status) n
      | .redirected line body redirects =>
        modify fun s => { s with line := line }
        let settled ← Redirect.settleAll (fun b => substitute launch b n) redirects
        let isDone ← Redirect.begin (fun b => substitute launch b n) settled
        let status ← if isDone then run launch { isTested := m.isTested } body n else pure 2
        if !redirects.isEmpty then Redirect.finish false
        conclude launch m (!isDone) (some status) n
      | .branch test yes no =>
        let status ← run launch { isTested := true } test n
        if ← isSkipping then conclude launch m false none n
        else
          match if status = 0 then some yes else no with
          | some c =>
            let status ← run launch m c n
            conclude launch m false (some status) n
          | none => conclude launch m false (some 0) n
      | .loop success test body =>
        modify fun s => { s with loops := s.loops + 1 }
        let status ← loop launch m success test body 0 n
        modify fun s => { s with loops := s.loops - 1 }
        conclude launch m false (some status) n
      | .each line name words body =>
        modify fun s => { s with line := line }
        let fields ← Resolved.expandRest (fun b => substitute launch b n) false words
        modify fun s => { s with loops := s.loops + 1 }
        let status ← each launch m name body 0 n fields
        modify fun s => { s with loops := s.loops - 1 }
        conclude launch m false (some status) n
      | .choose line word cases =>
        modify fun s => { s with line := line }
        let t ← Word.expand (fun b => substitute launch b n) { hasTilde := true } word
        match ← chosen launch t n cases with
        | some (some c) =>
          let status ← run launch m c n
          conclude launch m false (some status) n
        | _ => conclude launch m false (some 0) n
      | .define _ name body =>
        modify fun s => { s with functions := State.put name body s.functions }
        conclude launch m false (some 0) n
termination_by structural fuel => fuel

/-- Ends a command. A failure that counts ends a script that stops on errors, and behind the last command
nothing comes. -/
def conclude (launch : Launch) (m : Mode) (counts : Bool) (status : Option Nat) : Nat → Act Nat
  | 0 => stuck
  | n + 1 => do
    match status with
    | some k => setStatus k
    | none => pure ()
    let s ← state
    if s.hasTraps then runTraps launch n
    if s.options.stopsOnError && counts && !m.isTested && status.getD 0 != 0 then throw .exit
    else if m.isLast then throw .exit
    else return (← state).status
termination_by structural fuel => fuel

/-- Does what is to be done on the signals that have arrived. -/
def runTraps (launch : Launch) : Nat → Act Unit
  | 0 => stuck
  | n + 1 => do
    noteSignals
    let s ← state
    if s.arrived.isEmpty then pure ()
    else
      let status := s.statusBefore.getD s.status
      modify fun s => { s with statusBefore := some status }
      runEachTrap launch status n
      modify fun t => { t with statusBefore := s.statusBefore }
termination_by structural fuel => fuel

/-- Does what is to be done on each signal that has arrived. -/
def runEachTrap (launch : Launch) (status : Nat) : Nat → Act Unit
  | 0 => stuck
  | n + 1 => do
    let s ← state
    match s.arrived.min? with
    | none => pure ()
    | some signal =>
      if s.skip != .nothing then pure ()
      else
        modify fun s => { s with arrived := s.arrived.filter fun k => k ≠ signal }
        match s.traps.lookup signal with
        | none => runEachTrap launch status n
        | some action =>
          let _ ← text launch {} action n
          let s ← state
          if s.skip != .back true then setStatus status
          runEachTrap launch status n
termination_by structural fuel => fuel

/-- Runs a copy of the script to its end. -/
def subshell (launch : Launch) (m : Mode) (redirects : List Redirect.Settled) (body : Command) :
    Nat → Act Unit
  | 0 => stuck
  | n + 1 => do
    let _ ← outcome do
      Redirect.performAll (fun b => substitute launch b n) false redirects
      run launch { m with isLast := true } body n
    finish launch n
termination_by structural fuel => fuel

/-- Ends the script, after what is to be done at the end. -/
def finish (launch : Launch) : Nat → Act Unit
  | 0 => stuck
  | n + 1 => do
    Redirect.unwind 0
    let s ← state
    match s.traps.lookup 0 with
    | none => leave (.code (s.status % 256))
    | some action =>
      modify fun s =>
        { s with
          traps := s.traps.filter fun t => t.1 ≠ 0
          skip := .nothing
          loops := 0
          statusBefore := some s.status }
      match ← outcome (text launch {} action n) with
      | .ok _ => leave (.code (s.status % 256))
      | .error _ => leave (.code ((← state).status % 256))
termination_by structural fuel => fuel

/-- What a command writes, which is run by a copy of the script. -/
def substitute (launch : Launch) (body : Option Command) : Nat → Act Text
  | 0 => stuck
  | n + 1 => do
    match body with
    | none => return []
    | some c =>
      let (source, sink) : Nat × Nat ← ask .makePipe
      let id ← spawn do
        enterSubshell
        let _ : Bool ← ask (.close source)
        moveStream sink 1
        subshell launch {} [] c n
      let _ : Bool ← ask (.close sink)
      let job ← addJob [id]
      let bytes ← readAll source Program.limit []
      let _ : Bool ← ask (.close source)
      let status ← finishJob job
      modify fun s => { s with substituted := status }
      return (Octets.ofBytes bytes).filter (· ≠ '\x00')
termination_by structural fuel => fuel

def pipeline (launch : Launch) (m : Mode) (parts : List Command) (isBackground : Bool) :
    Nat → Act Nat
  | 0 => stuck
  | n + 1 => do
    let ids ← members launch m isBackground none [] n parts
    let job ← addJob ids
    if isBackground then
      modify fun s => { s with background := ids.getLast? }
      return 0
    else finishJob job
termination_by structural fuel => fuel

/-- Starts the parts of a pipeline: the number of the stream that the next one reads, the numbers of the
programs before in reverse. -/
def members (launch : Launch) (m : Mode) (isBackground : Bool) (input : Option Nat)
    (reversed : List Nat) : Nat → List Command → Act (List Nat)
  | 0, _ => stuck
  | _ + 1, [] => pure reversed.reverse
  | n + 1, c :: rest => do
    let pipe : Option (Nat × Nat) ← do
      if rest.isEmpty then pure none
      else
        let ends : Nat × Nat ← ask .makePipe
        pure (some ends)
    let id ← spawn do
      enterSubshell
      if isBackground then enterBackground reversed.isEmpty
      match pipe with
      | some (source, _) =>
        let _ : Bool ← ask (.close source)
      | none => pure ()
      match input with
      | some source => moveStream source 0
      | none => pure ()
      match pipe with
      | some (_, sink) => moveStream sink 1
      | none => pure ()
      subshell launch { isTested := m.isTested } [] c n
    match input with
    | some source =>
      let _ : Bool ← ask (.close source)
    | none => pure ()
    match pipe with
    | some (_, sink) =>
      let _ : Bool ← ask (.close sink)
    | none => pure ()
    members launch m isBackground (pipe.map Prod.fst) (id :: reversed) n rest
termination_by structural fuel => fuel

/-- Repeats a body. -/
def loop (launch : Launch) (m : Mode) (success : Bool) (test body : Command) (status : Nat) :
    Nat → Act Nat
  | 0 => stuck
  | n + 1 => do
    let k ← run launch { isTested := true } test n
    let (s, goesOn) := (← state).leaveLoop
    if s.skip != .nothing || !goesOn then
      modify fun _ => s
      return if s.skip == .back true then k else status
    else
      let isSkipped := (← state).skip != .nothing
      modify fun _ => s
      if isSkipped then loop launch m success test body status n
      else if (k == 0) != success then return status
      else
        let status ← run launch { isTested := m.isTested } body n
        let (s, goesOn) := (← state).leaveLoop
        modify fun _ => s
        if goesOn then loop launch m success test body status n else return status
termination_by structural fuel => fuel

/-- Runs a body for each of some fields. -/
def each (launch : Launch) (m : Mode) (name : Text) (body : Command) (status : Nat) :
    Nat → List Text → Act Nat
  | 0, _ => stuck
  | _ + 1, [] => pure status
  | n + 1, field :: fields => do
    assign name field
    let status ← run launch { isTested := m.isTested } body n
    let (s, goesOn) := (← state).leaveLoop
    modify fun _ => s
    if goesOn then each launch m name body status n fields else return status
termination_by structural fuel => fuel

/-- The body of the first case of which a pattern fits. -/
def chosen (launch : Launch) (t : Text) :
    Nat → List (List Word × Option Command) → Act (Option (Option Command))
  | 0, _ => stuck
  | _ + 1, [] => pure none
  | n + 1, (patterns, body) :: cases => do
    if ← isSkipping then return none
    else if ← fitsAny launch t n patterns then
      return if ← isSkipping then none else some body
    else chosen launch t n cases
termination_by structural fuel => fuel

def fitsAny (launch : Launch) (t : Text) : Nat → List Word → Act Bool
  | 0, _ => stuck
  | _ + 1, [] => pure false
  | n + 1, w :: ws => do
    let pattern ← Word.pattern (fun b => substitute launch b n) w
    if Pattern.accepts pattern t then return true else fitsAny launch t n ws
termination_by structural fuel => fuel

def simple (launch : Launch) (m : Mode) (line : Nat) (assignments words : List Word)
    (redirects : List Redirect) : Nat → Act Nat
  | 0 => stuck
  | n + 1 => do
    modify fun s => { s with line := line, substituted := 0 }
    let _ : Unit ← ask (.pause 1)
    let r ← Resolved.ofWords (fun b => substitute launch b n) words
    let s ← state
    if r.isLocal then modify fun s => { s with scopes := [] :: s.scopes }
    let settled ← Redirect.settleAll (fun b => substitute launch b n) redirects
    let isDone ← Redirect.begin (fun b => substitute launch b n) settled
    let status ←
      if !isDone then do
        setStatus 2
        if r.isSpecial = some true then throw .fault
        pure 2
      else do
        if redirects.isEmpty then modify fun s => { s with traceStream := 2 }
        else chooseTraceStream
        let assigned ← assignAll (fun b => substitute launch b n) r.isLocal
          (r.isExec && 1 < r.fields.length) assignments
        trace (fun b => substitute launch b n) (assigned ++ r.skipped ++ r.fields)
        perform launch m r n
    endCommand (!redirects.isEmpty) r.isExec s.redirections.length s.scopes.length
    return status
termination_by structural fuel => fuel

/-- Does what a simple command is for. -/
def perform (launch : Launch) (m : Mode) (r : Resolved) : Nat → Act Nat
  | 0 => stuck
  | n + 1 => do
    match r.runner with
    | .nothing => return (← state).substituted
    | .function body => invoke launch m body (r.fields.drop 1) n
    | .builtin name => builtin launch m name r n
    | .program =>
      let name := r.fields.headD []
      let searchPath ← searchPathOf r.isStandard
      let first : Except FileError (Option Text) ←
        if name.contains '/' then pure (.ok none)
        else do pure ((← lookUp searchPath name).map some)
      match first with
      | .error e =>
        complain (name ++ ": ".toList ++ failureText e)
        return 127
      | .ok first =>
        match first with
        | some path =>
          if !r.isStandard then modify fun s => { s with found := State.put name path s.found }
        | none => pure ()
        let s ← state
        if m.isLast && !s.hasTraps then replace launch searchPath first r.fields
        else runProgram launch searchPath first r.fields
termination_by structural fuel => fuel

def invoke (launch : Launch) (m : Mode) (body : Command) (arguments : List Text) : Nat → Act Nat
  | 0 => stuck
  | n + 1 => do
    let s ← state
    modify fun s =>
      { s with parameters := arguments, optionIndex := 1, optionOffset := none, loops := 0 }
    let r ← outcome (run launch { isTested := m.isTested } body n)
    modify fun t =>
      { t with
        parameters := s.parameters
        optionIndex := s.optionIndex
        optionOffset := s.optionOffset
        loops := s.loops
        skip := match t.skip with
          | .back _ => .nothing
          | k => k }
    resume r
termination_by structural fuel => fuel

/-- Runs a command of the shell itself. A fault in one that is not special only makes it fail. -/
def builtin (launch : Launch) (m : Mode) (name : Text) (r : Resolved) : Nat → Act Nat
  | 0 => stuck
  | n + 1 => do
    let before := (← state).command
    modify fun s => { s with command := some name }
    let arguments := r.fields.drop 1
    let result ← outcome do
      match Builtin.plain.lookup name with
      | some f => f arguments
      | none =>
        if name = "eval".toList then text launch { isTested := m.isTested } (Text.join [' '] arguments) n
        else if name = ['.'] then source launch arguments n
        else if name = "exec".toList then exec launch arguments
        else if name = "type".toList then Builtin.type Builtin.isKnown arguments
        else if name = "hash".toList then Builtin.hash Builtin.isKnown arguments
        else Builtin.command Builtin.isKnown arguments
    modify fun s => { s with command := before }
    match result with
    | .ok status => return status
    | .error .exit => throw .exit
    | .error .fault => if r.isSpecial = some true then throw .fault else return (← state).status
termination_by structural fuel => fuel

def text (launch : Launch) (m : Mode) (t : Text) : Nat → Act Nat
  | 0 => stuck
  | n + 1 => keepingLine (portions launch m { rest := t } 0 n)
termination_by structural fuel => fuel

/-- Runs the commands in what is left of a text. -/
def portions (launch : Launch) (m : Mode) (r : Reading) (status : Nat) : Nat → Act Nat
  | 0 => stuck
  | n + 1 => do
    match ((← state).resume r).portion with
    | .finished => return status
    | .failed fault => failReading fault
    | .command c r =>
      modify fun s => s.takeReading r
      let isLast := match r.last with
        | .endOfInput => m.isLast
        | _ => false
      match c with
      | none => portions launch m r status n
      | some c =>
        let status ← run launch { m with isLast := isLast } c n
        if ← isSkipping then return status
        else portions launch m r status n
termination_by structural fuel => fuel

def source (launch : Launch) (arguments : List Text) : Nat → Act Nat
  | 0 => stuck
  | n + 1 => do
    let a ← Arguments.read "" arguments
    match a.words with
    | [] => return 0
    | name :: _ =>
      let path ← commandFile name
      let number ← openScript path
      modify fun s => { s with command := some path }
      keepingLine do
        let r ← outcome (stream launch number false { rest := [] } 0 n)
        let _ : Bool ← ask (.close number)
        resume r
termination_by structural fuel => fuel

/-- Runs the commands that a stream brings. -/
def stream (launch : Launch) (number : Nat) (hasEnded : Bool) (r : Reading) (status : Nat) :
    Nat → Act Nat
  | 0 => stuck
  | n + 1 => do
    let before := (← state).resume r
    let portion := before.portion
    let isWhole := match portion with
      | .command _ r => !r.hasEnded
      | _ => false
    if !isWhole && !hasEnded then
      let more ← readMore number n
      stream launch number more.isEmpty { r with rest := r.rest ++ more } status n
    else
      match portion with
      | .finished => return status
      | .failed fault => failReading fault
      | .command c after =>
        showLines before after
        modify fun s => s.takeReading after
        let status ← match c with
          | none => pure status
          | some c => run launch {} c n
        let s ← state
        match s.skip with
        | .nothing => stream launch number hasEnded { after with hasEnded := false } status n
        | .back _ =>
          modify fun s => { s with skip := .nothing }
          return status
        | _ => return status
termination_by structural fuel => fuel

end

end AsmExplorer.Shell
