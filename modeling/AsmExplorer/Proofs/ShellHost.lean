import AsmExplorer.Settings
import Mathlib.Tactic.Lemma

/-!
# Hosts with a shell

Small hosts on which whole requests can be run: the programs `sh` and `cat` in the root directory,
and beside them some files. A compiler is a script that `sh` reads, the demangler is `cat`.
-/

namespace AsmExplorer.Proofs

/-- The tree with some nodes beside the programs. All have one time stamp, which no later change has. -/
def shellTree (nodes : List (String × Node)) : FileSystem :=
  let programs := ["sh", "cat"].map fun name => (name, Node.program name.toList)
  ⟨(programs ++ nodes).foldl (fun table entry => table.insert [entry.1.toList] (entry.2, 0))
    (Table.empty.insert [] (.directory, 0)), 1⟩

/-- A file that holds a text. -/
def textFile (t : String) : Node :=
  .file (Utf8.encode t.toList) false

/-- The host whose current directory and only directory of programs is the root. -/
def shellHost (nodes : List (String × Node)) : Host where
  files := shellTree nodes
  directory := []
  searchPath := "/".toList
  home := []

/-- Databases are in the root directory as well. -/
def shellSettings : Settings :=
  { compilationDirectory := "/".toList, demanglerPath := some (.ofString "cat") }

lemma eq_ok_of_toOption {ε α : Type} {r : Except ε α} {a : α} (h : r.toOption = some a) :
    r = .ok a := by
  cases r with
  | error e => exact absurd h (Option.some_ne_none a).symm
  | ok b => exact congrArg Except.ok (Option.some.inj h)

lemma exists_error_of_toOption {ε α : Type} {r : Except ε α} (h : r.toOption = none) :
    ∃ e, r = .error e := by
  cases r with
  | error e => exact ⟨e, rfl⟩
  | ok a => exact absurd h (Option.some_ne_none a)

end AsmExplorer.Proofs
