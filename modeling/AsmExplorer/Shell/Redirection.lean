import AsmExplorer.Shell.Expansion

/-!
# Redirection

Leading streams elsewhere. What a stream led to before is kept under a number from ten on, where
programs do not see it, and comes back at the end of the command.
-/

namespace AsmExplorer.Shell

namespace Redirect

/-- A redirection of which the words have been expanded. -/
inductive Settled where
  | file (stream : Nat) (direction : Direction) (path : Text)
  | copy (stream : Nat) (source : Option Nat)
  | document (stream : Nat) (number : Nat)

/-- Expands the words of a redirection. -/
def settle (substitute : Option Command → Act Text) : Redirect → Act Settled
  | .file stream direction target => do
    return .file stream direction (← Word.expand substitute { hasTilde := true } target)
  | .copy stream source => pure (.copy stream source)
  | .document stream number => pure (.document stream number)
  | .copyNamed stream source => do
    match ← Word.expand substitute { hasTilde := true } source with
    | ['-'] => return .copy stream none
    | [c] => if c.isDigit then return .copy stream (some (c.toNat - '0'.toNat)) else refuse
    | _ => refuse
where
  /-- Tells that a word spells no stream. -/
  refuse : Act Settled := do
    Act.modify fun s => { s with line := s.readLine }
    Act.fail "Syntax error: Bad fd number".toList

/-- Where a stream is to lead. -/
inductive Source where
  /-- Where it leads already. -/
  | same
  | nothing
  /-- Where another stream leads. -/
  | stream (number : Nat)
  /-- To what has been opened under a number. -/
  | opened (number : Nat)

/-- What is said about a file that could not be opened. -/
def message (verb missing : String) (path : Text) (e : FileError) : Text :=
  let reason := match e with
    | .notFound => missing.toList
    | .notDirectory => missing.toList
    | e => e.text
  "cannot ".toList ++ verb.toList ++ ' ' :: path ++ ": ".toList ++ reason

def openForInput (path : Text) : Act Nat := do
  let s ← Act.state
  match ← Act.ask (.openFile s.directory path .reading) with
  | .ok number => return number
  | .error e => Act.fail (message "open" "No such file" path e)

def openForOutput (path : Text) (mode : OpenMode) : Act Nat := do
  let s ← Act.state
  match ← Act.ask (.openFile s.directory path mode) with
  | .ok number => return number
  | .error e => Act.fail (message "create" "Directory nonexistent" path e)

/-- Opens a file for writing, unless it is a file that is there already. -/
def openNew (path : Text) : Act Nat := do
  let s ← Act.state
  let fs ← Act.files
  match fs.nodeAt? s.directory ⟨Octets.toText path⟩ with
  | none => openForOutput path { writable := true, creates := true, exclusive := true }
  | some (.file ..) => Act.fail (message "create" "Directory nonexistent" path .alreadyExists)
  | some (.program _) => Act.fail (message "create" "Directory nonexistent" path .alreadyExists)
  | some _ => openForOutput path { writable := true }

/-- The number of bytes of a document that go into a pipe at once. -/
def documentPiece : Nat := 4096

/-- Puts a text into a new pipe, with a program of its own if it is long. -/
def openText (t : Text) : Act Nat := do
  let (source, sink) : Nat × Nat ← Act.ask .makePipe
  if t.length ≤ documentPiece then
    let _ ← Act.say sink t
  else
    let _ ← Act.spawn do
      let _ : Bool ← Act.ask (.close source)
      for signal in [Signal.interrupt, Signal.quit, 1, 20] do
        let _ : Unit ← Act.ask (.arrange signal .ignored)
      let _ : Unit ← Act.ask (.arrange Signal.pipe .byDefault)
      let _ ← Act.say sink t
      Act.leave (.code 0)
  let _ : Bool ← Act.ask (.close sink)
  return source

def openDocument (substitute : Option Command → Act Text) (number : Nat) : Act Nat := do
  let s ← Act.state
  match s.documents.lookup number with
  | some (.literal t) => openText t
  | some (.expanded w) => openText (← w.expand substitute { isQuoted := true })
  | none => openText []

/-- The stream that a redirection is about. -/
def Settled.target : Settled → Nat
  | .file n _ _ => n
  | .copy n _ => n
  | .document n _ => n

/-- Opens what a redirection leads to. -/
def Settled.source (substitute : Option Command → Act Text) : Settled → Act Source
  | .file _ .input path => do return .opened (← openForInput path)
  | .file _ .both path => do return .opened (← openForOutput path .both)
  | .file _ .append path => do return .opened (← openForOutput path .appending)
  | .file _ .overwrite path => do return .opened (← openForOutput path .writing)
  | .file _ .output path => do
    let s ← Act.state
    if s.options.keepsFiles then return .opened (← openNew path)
    else return .opened (← openForOutput path .writing)
  | .copy stream (some source) => pure (if source = stream then .same else .stream source)
  | .copy _ none => pure .nothing
  | .document _ number => do return .opened (← openDocument substitute number)

/-- The least number under which streams are kept. -/
def firstKept : Nat := 10

/-- Keeps what a stream leads to under another number, and closes the stream. -/
def keep (stream : Nat) : Act Saved := do
  match ← Act.ask (.duplicate stream firstKept true) with
  | .ok number =>
    let _ : Bool ← Act.ask (.close stream)
    return .moved number
  | .error .badDescriptor => return .closed
  | .error e =>
    let _ : Bool ← Act.ask (.close stream)
    Act.fail (Text.ofNat stream ++ ": ".toList ++ e.text)

/-- Takes note of what a stream led to before the innermost redirections. -/
def note (stream : Nat) (saved : Saved) : Act Unit :=
  Act.modify fun s =>
    match s.redirections with
    | first :: rest => { s with redirections := ((stream, saved) :: first) :: rest }
    | [] => s

/-- Keeps what a stream led to, if that has not been done for the innermost redirections. -/
def save (stream : Nat) (source : Source) : Act Unit := do
  let s ← Act.state
  if ((s.redirections.headD []).lookup stream).isSome then pure ()
  else
    match source with
    | .opened number =>
      if number = stream then note stream .closed else note stream (← keep stream)
    | .nothing =>
      match ← keep stream with
      | .closed => note stream .stillClosed
      | saved => note stream saved
    | _ => note stream (← keep stream)

/-- Tells that a stream leads nowhere. -/
def refuseStream (number : Nat) : Act Unit :=
  Act.fail (Text.ofNat number ++ ": Bad file descriptor".toList)

def lead (stream : Nat) : Source → Act Unit
  | .same => pure ()
  | .nothing => do
    let _ : Bool ← Act.ask (.close stream)
  | .stream number => do
    let done : Bool ← Act.ask (.assign number stream)
    if done then pure () else refuseStream number
  | .opened number => do
    if number = stream then pure ()
    else
      let _ : Bool ← Act.ask (.assign number stream)
      let _ : Bool ← Act.ask (.close number)

/-- Does a redirection. With `saves`, what the stream led to before is kept. -/
def perform (substitute : Option Command → Act Text) (saves : Bool) (r : Settled) : Act Unit := do
  match ← r.source substitute with
  | .same => pure ()
  | source =>
    if saves then save r.target source
    lead r.target source

def performAll (substitute : Option Command → Act Text) (saves : Bool) : List Settled → Act Unit
  | [] => pure ()
  | r :: rs => do
    perform substitute saves r
    performAll substitute saves rs

def settleAll (substitute : Option Command → Act Text) : List Redirect → Act (List Settled)
  | [] => pure []
  | r :: rs => do
    let r ← r.settle substitute
    return r :: (← settleAll substitute rs)

/-- Does the redirections of a command, keeping what streams led to before, and tells whether that could
be done. -/
def begin (substitute : Option Command → Act Text) (rs : List Settled) : Act Bool := do
  if rs.isEmpty then return true
  Act.modify fun s => { s with redirections := [] :: s.redirections }
  match ← Act.outcome (performAll substitute true rs) with
  | .ok _ => return true
  | .error .fault => return false
  | .error .exit => Act.throw .exit

/-- Leads a stream to where it led before. If the redirection is to last, only what was kept is
closed. -/
def restore (lasts : Bool) (stream : Nat) : Saved → Act Unit
  | .stillClosed => pure ()
  | .closed => do
    if !lasts then
      let _ : Bool ← Act.ask (.close stream)
  | .moved number => do
    if !lasts then
      let _ : Bool ← Act.ask (.assign number stream)
    let _ : Bool ← Act.ask (.close number)

/-- Ends the innermost redirections. -/
def finish (lasts : Bool) : Act Unit := do
  let s ← Act.state
  match s.redirections with
  | [] => pure ()
  | saved :: rest =>
    Act.modify fun s => { s with redirections := rest }
    for (stream, saved) in saved do
      restore lasts stream saved

/-- Ends redirections until there are only so many. -/
def unwind (count : Nat) : Act Unit := do
  let s ← Act.state
  for _ in List.range (s.redirections.length - count) do
    finish false

end Redirect

end AsmExplorer.Shell
