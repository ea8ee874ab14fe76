import AsmExplorer.Compile.Options
import AsmExplorer.Host.Basic

/-!
# Last outputs

For each source file the text of its last successful compilation, with the command that gave it and
the stamp that the file had before. As long as neither changes, compiling again would be in vain.
-/

namespace AsmExplorer

/-- The text of a compilation, and what it was made from. -/
structure Output where
  stamp : FileSystem.Stamp
  command : CompileCommand
  text : Text
  deriving DecidableEq, Repr

abbrev Outputs := Table (List Component) Output

namespace Outputs

/-- The last output of a source file, if neither its stamp nor the command has changed. -/
def upToDate? (o : Outputs) (source : Path) (stamp : FileSystem.Stamp) (command : CompileCommand) :
    Option Text :=
  match o.get? source.key with
  | some last => if last.stamp = stamp ∧ last.command = command then some last.text else none
  | none => none

def store (o : Outputs) (source : Path) (output : Output) : Outputs :=
  o.insert source.key output

def forget (o : Outputs) (source : Path) : Outputs :=
  o.erase source.key

end Outputs

end AsmExplorer
