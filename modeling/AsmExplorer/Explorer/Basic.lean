import AsmExplorer.Assembly.Document
import AsmExplorer.Compile.Session
import AsmExplorer.Database.Registry
import AsmExplorer.Explorer.Outputs

/-!
# Exploring source files

A request names a source file and perhaps a command. Its invocation comes from the compilation
database of the file; with a command given, the file need not be in a database. If neither the file
nor the command has changed since the last compilation, that one's text is the answer; otherwise the
file is compiled. A document is made from the text under the filter that is set.
-/

namespace AsmExplorer

/-- A compilation whose text is to be kept, and what it is made from. -/
structure Pending where
  ticket : Nat
  source : Path
  stamp : FileSystem.Stamp
  command : CompileCommand

/-- Settings, databases, compilations and last outputs. -/
structure Explorer where
  settings : Settings
  registry : Registry := .empty
  session : Session
  outputs : Outputs := Table.empty
  pending : List Pending := []

namespace Explorer

def ofSettings (host : Host) (settings : Settings) : Explorer :=
  { settings := settings, session := .ofPipeline host (.ofOptions (.ofSettings settings)) }

def host (e : Explorer) : Host :=
  e.session.host

def withFiles (e : Explorer) (files : FileSystem) : Explorer :=
  { e with session := e.session.withFiles files }

def databasePath (e : Explorer) (source : Path) : Path :=
  e.settings.databasePath e.host.currentDirectory source

def databaseFor (e : Explorer) (source : Path) : Explorer × Except Failure Nat :=
  let (r, out) := e.registry.getOrLoad e.host (e.databasePath source)
  ({ e with registry := r }, out)

/-- The invocation of a source file that has none in a database, for a given command. -/
def ownInvocation (source : Path) (executable : Text) : Invocation :=
  ⟨source, (source.parent?).getD ⟨[]⟩, executable, []⟩

/-- The invocation in a database for a source file, under its canonical path. -/
def invocationIn (e : Explorer) (id : Nat) (source : Path) : Except Failure Invocation :=
  match (e.registry.database? id).bind fun db => db.get? e.host source with
  | some i => .ok i
  | none => .error (.noCommand source)

/-- The invocation for a request, given what the databases tell about it. -/
def orOwn (source : Path) (given : List Text) : Except Failure Invocation → Except Failure Invocation
  | .error (.databaseNotFound p) =>
    match given with
    | executable :: _ => .ok (ownInvocation source executable)
    | [] => .error (.databaseNotFound p)
  | .error (.noCommand p) =>
    match given with
    | executable :: _ => .ok (ownInvocation source executable)
    | [] => .error (.noCommand p)
  | r => r

def invocationFor (e : Explorer) (source : Path) (given : List Text) :
    Explorer × Except Failure Invocation :=
  let canonical := e.host.canonicalPath source
  let (e, out) := e.databaseFor source
  (e, orOwn canonical given (out.bind fun id => e.invocationIn id canonical))

/-- The command given for a request, which without one is the command that is set. -/
def givenOr (e : Explorer) (given : List Text) : List Text :=
  if given = [] then e.settings.extraArguments else given

/-- Keeps the texts of compilations that have ended well. -/
def collect (e : Explorer) : Explorer :=
  let (ended, going) := e.pending.partition fun p => (e.session.result? p.ticket).isSome
  let outputs := ended.foldl (fun o p =>
    match e.session.result? p.ticket with
    | some (.ok t) => o.store p.source ⟨p.stamp, p.command, t⟩
    | _ => o) e.outputs
  { e with outputs := outputs, pending := going }

/-- What a request comes to at first: an answer, or a compilation. -/
inductive Reply where
  | answer (r : Except Failure Text)
  | compiling (ticket : Nat)

/-- Compiles for a request, and keeps the text if the source file was there before. -/
def run (e : Explorer) (i : Invocation) (given : List Text) (stamp : Option FileSystem.Stamp) :
    Explorer × Reply :=
  let command := e.session.pipeline.command i given
  let (session, ticket) := e.session.spawn i given
  let pending := match stamp with
    | some stamp => e.pending ++ [⟨ticket, i.source, stamp, command⟩]
    | none => e.pending
  ({ e with session := session, pending := pending }.collect, .compiling ticket)

/-- Answers a request from the last output, if that is up to date; an older compilation must then not
answer any more. -/
def reuse? (e : Explorer) (i : Invocation) (given : List Text)
    (stamp : Option FileSystem.Stamp) : Option (Explorer × Text) :=
  match stamp.bind fun stamp =>
      e.outputs.upToDate? i.source stamp (e.session.pipeline.command i given) with
  | some t => some ({ e with session := (e.session.cancel i.source).1 }.collect, t)
  | none => none

def request (e : Explorer) (source : Path) (given : List Text) : Explorer × Reply :=
  let given := e.givenOr given
  match e.invocationFor source given with
  | (e, .error failure) => (e, .answer (.error failure))
  | (e, .ok i) =>
    let stamp := e.host.stamp? i.source
    match e.reuse? i given stamp with
    | some (e, t) => (e, .answer (.ok t))
    | none => e.run i given stamp

def wait (e : Explorer) (ticket : Nat) : Explorer × Except Failure Text :=
  let (session, r) := e.session.wait ticket
  ({ e with session := session }.collect, r)

def compile (e : Explorer) (source : Path) (given : List Text) : Explorer × Except Failure Text :=
  match e.request source given with
  | (e, .answer r) => (e, r)
  | (e, .compiling ticket) => e.wait ticket

def document (e : Explorer) (source : Path) (t : Text) : Assembly.Document :=
  ⟨source, .ofSource e.settings.filter source t⟩

def explore (e : Explorer) (source : Path) (given : List Text) :
    Explorer × Except Failure Assembly.Document :=
  let (e, r) := e.compile source given
  (e, r.map (e.document source))

def invalidate (e : Explorer) (source : Path) : Explorer :=
  { e with outputs := e.outputs.forget (e.host.canonicalPath source) }

def cancel (e : Explorer) (source : Path) : Explorer × Bool :=
  let (session, found) := e.session.cancel (e.host.canonicalPath source)
  ({ e with session := session }.collect, found)

/-- Cancels all compilations and forgets all databases and outputs. -/
def shutdown (e : Explorer) : Explorer :=
  let e := { e with session := e.session.cancelAll }.collect
  { e with registry := e.registry.clear, outputs := Table.empty }

end Explorer

end AsmExplorer
