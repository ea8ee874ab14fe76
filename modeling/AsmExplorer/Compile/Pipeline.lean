import AsmExplorer.Compile.RunRegistry
import AsmExplorer.Compile.Toolchain
import AsmExplorer.Compile.ToolFinder

/-!
# Compilations

A compilation is a run for its source file: it begins before anything else, so that a later request
always wins. Then the demangler for the compiler is found and both programs are started. A run ends
with a text or a failure, and gives its place back.
-/

namespace AsmExplorer

/-- The options of compilations, what finds their demanglers, and their runs. -/
structure Pipeline where
  options : CompileOptions
  finder : ToolFinder
  runs : RunRegistry

structure Run where
  id : Nat
  source : Path
  command : CompileCommand
  demangler : Path
  deriving DecidableEq, Repr

namespace Pipeline

def ofOptions (options : CompileOptions) : Pipeline :=
  ⟨options, { tool := options.demangler }, .empty⟩

instance : Inhabited Pipeline := ⟨ofOptions {}⟩

def command (p : Pipeline) (i : Invocation) (given : List Text) : CompileCommand :=
  .ofInvocation p.options i given

/-- The demangler for a compiler: the one that is set, or else the one that is found. -/
def demanglerFor (p : Pipeline) (host : Host) (compiler : Text) : Pipeline × Path :=
  match p.options.demanglerPath with
  | some path => (p, path)
  | none =>
    let (finder, path) := p.finder.resolve host compiler
    ({ p with finder := finder }, path)

def begin (p : Pipeline) (host : Host) (i : Invocation) (given : List Text) : Pipeline × Run :=
  let command := p.command i given
  let (runs, id) := p.runs.begin i.source
  let (p, demangler) := { p with runs := runs }.demanglerFor host command.program
  (p, ⟨id, i.source, command, demangler⟩)

def isStopped (p : Pipeline) (run : Run) : Bool :=
  p.runs.isStopped run.id

/-- The programs of a run, compiler and demangler, unless it is to stop. -/
def start (p : Pipeline) (host : Host) (run : Run) (directory : Path) :
    Except Failure (Process × Process) :=
  if p.isStopped run then .error .cancelled
  else
    match Toolchain.startCompiler host run.command directory with
    | .error e => .error e
    | .ok compiler =>
      match Toolchain.startDemangler host run.demangler with
      | .error e => .error e
      | .ok demangler => .ok (compiler, demangler)

/-- What a run comes to when its programs have ended. -/
def conclude (p : Pipeline) (run : Run) (c : Capture) : Except Failure Text :=
  c.conclude run.command.program run.demangler.text (p.isStopped run)

/-- Ends a run: it gives its place back, unless a newer one has it. -/
def finish (p : Pipeline) (run : Run) : Pipeline :=
  { p with runs := p.runs.finish run.source run.id }

/-- Cancels the current run of a source file, and tells whether there was one. -/
def cancel (p : Pipeline) (source : Path) : Pipeline × Bool :=
  let (runs, found) := p.runs.cancel source
  ({ p with runs := runs }, found)

def cancelAll (p : Pipeline) : Pipeline :=
  { p with runs := p.runs.cancelAll }

def active (p : Pipeline) : Nat :=
  p.runs.active

end Pipeline

end AsmExplorer
