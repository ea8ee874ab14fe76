import AsmExplorer.Shell.Builtin.Leaving
import AsmExplorer.Shell.Builtin.Names
import AsmExplorer.Shell.Builtin.Output
import AsmExplorer.Shell.Builtin.Signals
import AsmExplorer.Shell.Builtin.Surroundings
import AsmExplorer.Shell.Builtin.Variables

/-!
# Commands of the shell itself

All commands for which no program is started, by name.
-/

namespace AsmExplorer.Shell.Builtin

/-- A command that only has a status. -/
def endWith (status : Nat) (_ : List Text) : Act Nat := pure status

/-- The commands that do not look at what names stand for. -/
def plain : List (Text × (List Text → Act Nat)) :=
  [(['['], bracket), ([':'], endWith 0), ("echo".toList, echo), ("printf".toList, printf),
   ("test".toList, test), ("true".toList, endWith 0), ("false".toList, endWith 1),
   ("read".toList, read), ("set".toList, set), ("shift".toList, shift),
   ("export".toList, declare false), ("readonly".toList, declare true),
   ("local".toList, makeLocal), ("unset".toList, unset), ("exit".toList, exit),
   ("return".toList, back), ("break".toList, leaveLoops false),
   ("continue".toList, leaveLoops true), ("cd".toList, cd), ("chdir".toList, cd),
   ("pwd".toList, pwd), ("getopts".toList, getopts), ("kill".toList, kill),
   ("trap".toList, trap), ("wait".toList, wait), ("jobs".toList, jobs),
   ("fg".toList, continueJobs), ("bg".toList, continueJobs), ("umask".toList, umask),
   ("ulimit".toList, ulimit), ("times".toList, times), ("alias".toList, setAliases),
   ("unalias".toList, dropAliases)]

/-- The commands that look at what names stand for, or run other commands. -/
def others : List Text :=
  ["eval".toList, ['.'], "exec".toList, "command".toList, "type".toList, "hash".toList]

/-- Whether a name is that of a command of the shell itself. -/
def isKnown (name : Text) : Bool :=
  plain.any (fun b => b.1 == name) || others.contains name

/-- The commands of which arguments may be assignments. -/
def assigning : List Text :=
  ["export".toList, "readonly".toList, "local".toList, "alias".toList]

end AsmExplorer.Shell.Builtin
