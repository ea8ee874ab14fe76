import AsmExplorer.Shell.Builtin.Arguments
import AsmExplorer.Shell.Condition
import AsmExplorer.Shell.Printing

/-!
# Commands that write or decide

Commands that write their arguments, and commands that decide a condition.
-/

namespace AsmExplorer.Shell.Builtin

def echo (arguments : List Text) : Act Nat :=
  Act.print (echoText arguments) 0

/-- Writes words by a format. What is wrong with them is told first. -/
def printf (arguments : List Text) : Act Nat := do
  let a ← Arguments.read "" arguments
  match a.words with
  | [] => Act.fail "usage: printf format [arg ...]".toList
  | format :: words =>
    let p := Printf.run format words
    for warning in p.warnings.reverse do
      Act.complain warning
    match p.failure with
    | some message =>
      Act.setStatus 2
      Act.complain message
      let _ ← Act.say 1 p.written.reverse.flatten
      Act.throw .fault
    | none => Act.print p.written.reverse.flatten (if p.warnings.isEmpty then 0 else 1)

/-- Decides a condition. -/
def test (words : List Text) : Act Nat := do
  let s ← Act.state
  let fs ← Act.files
  match Condition.decide ⟨fs, s.directory⟩ (words.length + 1) words with
  | .ok true => return 0
  | .ok false => return 1
  | .error message => Act.fail message

def bracket (words : List Text) : Act Nat :=
  if words.getLast? = some [']'] then test words.dropLast
  else Act.fail "missing ]".toList

end AsmExplorer.Shell.Builtin
