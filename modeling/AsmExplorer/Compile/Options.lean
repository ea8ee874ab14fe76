import AsmExplorer.Command.Words
import AsmExplorer.Database.Entry
import AsmExplorer.Settings

/-!
# Compile commands

How compilations are run, and the command of each one: the recorded command, or one given in its
place, then the source file, then the flags that make the compiler write to its standard output. A
command given in place of the recorded one is first freed of outputs of its own and of the source
file.
-/

namespace AsmExplorer

structure CompileOptions where
  /-- How long a compilation may take, in milliseconds. -/
  timeout : Nat := 30000
  /-- What follows the source file in a command. -/
  outputFlags : List Text := ["-g".toList, "-S".toList, "-o".toList, "-".toList]
  /-- The name of the demangler, which is looked for beside the compiler. -/
  demangler : Text := "c++filt".toList
  /-- The demangler itself; with one set, none is looked for. -/
  demanglerPath : Option Path := none
  deriving DecidableEq, Repr, Inhabited

structure CompileCommand where
  program : Text
  arguments : List Text
  deriving DecidableEq, Repr, Inhabited

namespace CompileOptions

def ofSettings (s : Settings) : CompileOptions where
  timeout := s.timeout * 1000
  outputFlags := s.outputFlags
  demangler := s.demangler
  demanglerPath := s.demanglerPath

end CompileOptions

namespace CompileCommand

/-- The arguments of a given command that stay: no outputs, and not the source file. -/
def keptArguments (source : Text) (arguments : List Text) : List Text :=
  (Command.dropOutputArguments arguments).filter (· ≠ source)

/-- The command before the source file and the flags are added. -/
def start (i : Invocation) (given : List Text) : CompileCommand :=
  match given with
  | program :: rest => ⟨program, keptArguments i.source.text rest⟩
  | [] => ⟨i.executable, i.arguments⟩

/-- The command of a compilation: the recorded one, unless another one is given. -/
def ofInvocation (options : CompileOptions) (i : Invocation) (given : List Text) : CompileCommand :=
  let c := start i given
  ⟨c.program, c.arguments ++ [i.source.text] ++ options.outputFlags⟩

end CompileCommand

end AsmExplorer
