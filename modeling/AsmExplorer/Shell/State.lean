import AsmExplorer.Process.Start
import AsmExplorer.Shell.Token
import AsmExplorer.Text.Integer
import AsmExplorer.Text.Octets

/-!
# The state of a script in execution

Parameters, functions, options, jobs and the status of the last command; and actions, which change that
state while the program that executes the script goes on. An action can also leave: by a fault, or by
the end of the script.
-/

namespace AsmExplorer.Shell

structure Variable where
  value : Option Text := none
  /-- Whether programs are given the variable. -/
  isExported : Bool := false
  /-- Whether the variable keeps its value. -/
  isFixed : Bool := false
  deriving DecidableEq, Repr

/-- What is left out until a loop, a function or a file has ended. -/
inductive Skip where
  | nothing
  /-- All up to the end of so many loops. -/
  | leave (loops : Nat)
  /-- All up to the next round of a loop, the first ones of so many being ended. -/
  | again (loops : Nat)
  /-- All up to the end of a function or file, perhaps with a status that has been asked for. -/
  | back (hasStatus : Bool)
  deriving DecidableEq, Repr

/-- What a stream led to before a redirection. -/
inductive Saved where
  /-- Nothing. -/
  | closed
  /-- Nothing, as it does behind the redirection. -/
  | stillClosed
  /-- What a stream with a greater number now leads to. -/
  | moved (number : Nat)
  deriving DecidableEq, Repr

/-- Programs that have been started together, and how they have ended. -/
structure Job where
  number : Nat
  members : List (Nat × Option Status) := []
  /-- Whether the end of the job has been asked for. -/
  isKnown : Bool := false
  /-- Whether the job has stopped or ended since it was told of. -/
  hasChanged : Bool := false

/-- Whether all programs of a job have ended. -/
def Job.isDone (j : Job) : Bool :=
  j.members.all fun m => m.2.isSome

structure Options where
  stopsOnError : Bool := false
  keepsPatterns : Bool := false
  ignoresEnd : Bool := false
  isInteractive : Bool := false
  monitors : Bool := false
  onlyReads : Bool := false
  readsInput : Bool := false
  traces : Bool := false
  shows : Bool := false
  editsAsVi : Bool := false
  editsAsEmacs : Bool := false
  keepsFiles : Bool := false
  exportsAll : Bool := false
  notifies : Bool := false
  stopsOnUnset : Bool := false
  isPrivileged : Bool := false
  hasNoLog : Bool := false
  debugs : Bool := false
  deriving DecidableEq, Repr

namespace Options

/-- An option: its name, its letter, how to ask for it and how to set it. -/
structure Entry where
  name : String
  letter : Option Char
  get : Options → Bool
  set : Bool → Options → Options

def entries : List Entry :=
  [⟨"errexit", some 'e', stopsOnError, fun b o => { o with stopsOnError := b }⟩,
   ⟨"noglob", some 'f', keepsPatterns, fun b o => { o with keepsPatterns := b }⟩,
   ⟨"ignoreeof", some 'I', ignoresEnd, fun b o => { o with ignoresEnd := b }⟩,
   ⟨"interactive", some 'i', isInteractive, fun b o => { o with isInteractive := b }⟩,
   ⟨"monitor", some 'm', monitors, fun b o => { o with monitors := b }⟩,
   ⟨"noexec", some 'n', onlyReads, fun b o => { o with onlyReads := b }⟩,
   ⟨"stdin", some 's', readsInput, fun b o => { o with readsInput := b }⟩,
   ⟨"xtrace", some 'x', traces, fun b o => { o with traces := b }⟩,
   ⟨"verbose", some 'v', shows, fun b o => { o with shows := b }⟩,
   ⟨"vi", some 'V', editsAsVi, fun b o => { o with editsAsVi := b }⟩,
   ⟨"emacs", some 'E', editsAsEmacs, fun b o => { o with editsAsEmacs := b }⟩,
   ⟨"noclobber", some 'C', keepsFiles, fun b o => { o with keepsFiles := b }⟩,
   ⟨"allexport", some 'a', exportsAll, fun b o => { o with exportsAll := b }⟩,
   ⟨"notify", some 'b', notifies, fun b o => { o with notifies := b }⟩,
   ⟨"nounset", some 'u', stopsOnUnset, fun b o => { o with stopsOnUnset := b }⟩,
   ⟨"privileged", some 'p', isPrivileged, fun b o => { o with isPrivileged := b }⟩,
   ⟨"nolog", none, hasNoLog, fun b o => { o with hasNoLog := b }⟩,
   ⟨"debug", none, debugs, fun b o => { o with debugs := b }⟩]

/-- The options with the one of a letter set or not, if there is one. -/
def setLetter? (o : Options) (letter : Char) (on : Bool) : Option Options :=
  (entries.find? fun e => e.letter == some letter).map fun e =>
    let o := e.set on o
    if on && letter == 'V' then { o with editsAsEmacs := false }
    else if on && letter == 'E' then { o with editsAsVi := false }
    else o

/-- The options with the one of a name set or not, if there is one. -/
def setName? (o : Options) (name : Text) (on : Bool) : Option Options :=
  (entries.find? fun e => e.name.toList == name).map fun e => e.set on o

def letters (o : Options) : Text :=
  entries.reverse.filterMap fun e => if e.get o then e.letter else none

end Options

/-- A script in execution. -/
structure State where
  /-- The name of the script, which messages begin with. -/
  name : Text
  parameters : List Text := []
  bindings : List (Text × Variable) := []
  /-- What variables were before they became local, the innermost scope first. -/
  scopes : List (List (Text × Option Variable)) := []
  /-- The options that come back with the end of scopes. -/
  savedOptions : List (Nat × Options) := []
  functions : List (Text × Command) := []
  aliases : List (Text × Text) := []
  documents : List (Nat × Document) := []
  nextDocument : Nat := 0
  options : Options := {}
  directory : Location
  /-- The path of the current directory as it has been reached. -/
  path : Text
  /-- The permissions that new files do not get. -/
  mask : Nat := 18
  status : Nat := 0
  /-- The status of the last command whose output has been put into the current one. -/
  substituted : Nat := 0
  /-- The line that messages tell. -/
  line : Nat := 0
  /-- The line up to which the script has been read. -/
  readLine : Nat := 0
  /-- The command of the shell itself that messages tell. -/
  command : Option Text := none
  skip : Skip := .nothing
  /-- How many loops are being run. -/
  loops : Nat := 0
  /-- How many subshells this one is in. -/
  level : Nat := 0
  /-- What is done on a signal, or on signal zero at the end. -/
  traps : List (Nat × Text) := []
  /-- The signals that are ignored for good. -/
  deafTo : List Nat := []
  /-- The signals that have arrived and for which something is to be done. -/
  arrived : List Nat := []
  /-- The status from before what is done on a signal. -/
  statusBefore : Option Nat := none
  jobs : List Job := []
  /-- The number of the script, which is also that of its subshells. -/
  identity : Nat := 0
  parent : Nat := 0
  /-- The last program that was started and not waited for. -/
  background : Option Nat := none
  /-- What streams led to before redirections, the innermost ones first. -/
  redirections : List (List (Nat × Saved)) := []
  /-- The stream to which commands are traced. -/
  traceStream : Nat := 2
  isTracing : Bool := false
  /-- The number of the argument in which the next option is looked for, and how many of its characters
  have been taken. -/
  optionIndex : Nat := 1
  optionOffset : Option Nat := none
  /-- The programs that have been looked for, and where they were found. -/
  found : List (Text × Text) := []

/-- How commands are left before their end. -/
inductive Flow where
  /-- Something has gone wrong. -/
  | fault
  /-- The script ends. -/
  | exit
  deriving DecidableEq, Repr

/-- An action of a script. -/
def Act (α : Type) : Type := State → (Except Flow α → State → Process) → Process

namespace Act

variable {α β : Type}

/-- The one action followed by the other. -/
@[inline] def bind (a : Act α) (f : α → Act β) : Act β := fun s next =>
  a s fun r s =>
    match r with
    | .ok x => f x s next
    | .error e => next (.error e) s

instance : Monad Act where
  pure x := fun s next => next (.ok x) s
  bind := bind

@[inline] def state : Act State := fun s next => next (.ok s) s

@[inline] def modify (f : State → State) : Act Unit := fun s next => next (.ok ()) (f s)

def throw (e : Flow) : Act α := fun s next => next (.error e) s

/-- What an action comes to, leaving included. -/
def outcome (a : Act α) : Act (Except Flow α) := fun s next =>
  a s fun r s => next (.ok r) s

/-- Takes up what an action came to. -/
def resume : Except Flow α → Act α
  | .ok x => pure x
  | .error e => throw e

@[inline] def ask (c : Call) : Act c.Reply := fun s next => .call c fun r => next (.ok r) s

def leave (status : Status) : Act α := fun _ _ => .ended status

def stuck : Act α := fun _ _ => .stuck

/-- Makes a child that does an action and then ends, and gives the child's number. -/
def spawn (child : Act Unit) : Act Nat := fun s next =>
  .fork (child s fun _ s => .ended (.code (s.status % 256))) fun id => next (.ok id) s

def setStatus (n : Nat) : Act Unit := modify fun s => { s with status := n }

def files : Act FileSystem := ask .files

/-- Writes to a stream, and tells whether that could be done. -/
def say (number : Nat) (t : Text) : Act Bool := do
  if t.isEmpty then return true
  match ← ask (.write number (Octets.toBytes t)) with
  | .ok _ => return true
  | .error _ => return false

/-- Writes a message, which tells the script, the line and the command. -/
def complain (message : Text) : Act Unit := do
  let s ← state
  let command := match s.command with
    | some c => c ++ ": ".toList
    | none => []
  let _ ← say 2 (s.name ++ ": ".toList ++ Text.ofNat s.line ++ ": ".toList ++ command ++ message ++ ['\n'])

def fail (message : Text) : Act α := do
  setStatus 2
  complain message
  throw .fault

/-- Writes to the output what a command has to say. A failure is told of, and makes the status that
follows one of failure. -/
def print (t : Text) (status : Nat) : Act Nat := do
  if ← say 1 t then return status
  else
    let s ← state
    complain ((s.command.getD []) ++ ": I/O error".toList)
    return status ||| 1

def noteSignals : Act Unit := do
  let signals : List Nat ← ask .arrived
  modify fun s => { s with arrived := s.arrived ++ signals }

end Act

namespace State

def binding? (s : State) (name : Text) : Option Variable :=
  s.bindings.lookup name

def value? (s : State) (name : Text) : Option Text :=
  (s.binding? name).bind Variable.value

/-- The pairs with a value in place of the one of a name, or behind them. -/
def put {α : Type} (name : Text) (value : α) : List (Text × α) → List (Text × α)
  | [] => [(name, value)]
  | (n, a) :: rest => if n = name then (n, value) :: rest else (n, a) :: put name value rest

def setVariable (s : State) (name : Text) (v : Variable) : State :=
  { s with bindings := put name v s.bindings }

def forget (s : State) (name : Text) : State :=
  { s with bindings := s.bindings.filter fun v => v.1 ≠ name }

/-- The characters at which values are split. -/
def separators (s : State) : Text :=
  (s.value? "IFS".toList).getD [' ', '\t', '\n']

/-- The directories in which programs are looked for. -/
def searchPath (s : State) : Text :=
  (s.value? "PATH".toList).getD []

def environment (s : State) : List (Text × Text) :=
  s.bindings.filterMap fun (name, v) =>
    if v.isExported then v.value.map fun value => (name, value) else none

/-- Whether something is done on signals or at the end. -/
def hasTraps (s : State) : Bool :=
  s.traps.any fun t => !t.2.isEmpty

end State

namespace Act

def number (t : Text) : Act Nat :=
  match if t.isEmpty then none else Text.decimal? (Nat.pow 2 31) t with
  | some n => pure n
  | none => fail ("Illegal number: ".toList ++ t)

/-- Lets a variable that means something to the script have its effect. -/
def takeEffect (name : Text) (value : Option Text) : Act Unit := do
  if name = "OPTIND".toList then
    let n ← number (value.getD [])
    modify fun s => { s with optionIndex := max n 1, optionOffset := none }
  else if name = "PATH".toList then modify fun s => { s with found := [] }

/-- Sets a variable; `none` leaves it without a value. -/
def setVariable (name : Text) (value : Option Text) (isExported isFixed : Bool) : Act Unit := do
  let s ← state
  match s.binding? name with
  | some v =>
    if v.isFixed then fail (name ++ ": is read only".toList)
    else
      takeEffect name value
      modify fun s => s.setVariable name
        { value := value
          isExported := v.isExported || isExported || s.options.exportsAll
          isFixed := isFixed }
  | none =>
    if value.isSome || isExported || isFixed then
      modify fun s => s.setVariable name
        { value := value, isExported := isExported || s.options.exportsAll, isFixed := isFixed }

def assign (name value : Text) : Act Unit :=
  setVariable name (some value) false false

/-- Fails if a text is no name. -/
def checkName (name : Text) : Act Unit :=
  if Name.isGood name then pure ()
  else fail (name.takeWhile (· ≠ '=') ++ ": bad variable name".toList)

/-- Assigns a value to the variable that a word names. -/
def assignNamed (name value : Text) : Act Unit := do
  checkName name
  assign name value

/-- Forgets a variable. Some variables keep whether programs are given them. -/
def forget (name : Text) : Act Unit := do
  checkName name
  let s ← state
  match s.binding? name with
  | none => pure ()
  | some v =>
    if v.isFixed then fail (name ++ ": is read only".toList)
    else
      takeEffect name none
      if lasting.contains name then modify fun s => s.setVariable name { v with value := none }
      else modify fun s => s.forget name
where
  /-- The variables that are never quite forgotten. -/
  lasting : List Text :=
    ["IFS".toList, "OPTIND".toList, "PATH".toList, "PS1".toList, "PS2".toList, "PS4".toList,
      "MAIL".toList, "MAILPATH".toList]

/-- Makes a variable local to the innermost scope, perhaps with a value. -/
def makeLocal (name : Text) (value : Option Text) (isExported : Bool) : Act Unit := do
  let s ← state
  match s.scopes with
  | [] => pure ()
  | _ =>
    let before := s.binding? name
    match before, value with
    | some _, none => pure ()
    | _, value => setVariable name value isExported false
    modify fun s =>
      match s.scopes with
      | scope :: scopes => { s with scopes := ((name, before) :: scope) :: scopes }
      | [] => s

/-- The state in which a variable is what it was before. -/
def bringBack (s : State) (name : Text) (before : Option Variable) : State :=
  let s := match before with
    | some v => s.setVariable name v
    | none => s.forget name
  if name = "OPTIND".toList then
    let index := before.bind fun v => v.value.bind (Text.decimal? (Nat.pow 2 31))
    { s with optionIndex := max (index.getD 1) 1, optionOffset := none }
  else if name = "PATH".toList then { s with found := [] }
  else s

/-- Ends scopes until there are only so many. -/
def endScopes (count : Nat) : Act Unit :=
  modify fun s =>
    if s.scopes.length ≤ count then s
    else
      let ending := s.scopes.take (s.scopes.length - count)
      let s := ending.flatten.foldl (fun s v => bringBack s v.1 v.2)
        { s with scopes := s.scopes.drop ending.length }
      let (gone, staying) := s.savedOptions.partition fun saved => count < saved.1
      match gone.getLast? with
      | some saved => { s with savedOptions := staying, options := saved.2 }
      | none => { s with savedOptions := staying }

end Act

end AsmExplorer.Shell
