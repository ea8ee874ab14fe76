import AsmExplorer.Shell.State

/-!
# Commands that leave

Commands that end the script, a function, a file, or loops.
-/

namespace AsmExplorer.Shell.Builtin

/-- Ends the script. Without an argument, its status is that of the last command, or the one from before
what is being done on a signal. -/
def exit (arguments : List Text) : Act Nat := do
  let s ← Act.state
  let status ← match arguments with
    | [] => pure (s.statusBefore.getD s.status)
    | a :: _ => Act.number a
  Act.setStatus status
  Act.throw .exit

/-- Ends a function or a file. -/
def back (arguments : List Text) : Act Nat := do
  match arguments with
  | [] =>
    Act.modify fun s => { s with skip := .back false }
    return (← Act.state).status
  | a :: _ =>
    let status ← Act.number a
    Act.modify fun s => { s with skip := .back true }
    return status

/-- Leaves loops, or begins the next round of one. -/
def leaveLoops (goesOn : Bool) (arguments : List Text) : Act Nat := do
  let count ← match arguments with
    | [] => pure 1
    | a :: _ =>
      let n ← Act.number a
      if n = 0 then Act.fail ("Illegal number: ".toList ++ a) else pure n
  let s ← Act.state
  let count := min count s.loops
  if 0 < count then
    Act.modify fun s => { s with skip := if goesOn then .again count else .leave count }
  return 0

end AsmExplorer.Shell.Builtin
