import AsmExplorer.Programs.Options

/-!
# Lines of files

Reading files line by line. What is read of a file beyond the line that is asked for is kept, and can be
looked at.
-/

namespace AsmExplorer.Programs.Edit

/-- A file that is being read: its name, its stream, what has been read of it and not been taken, and
whether its end has been reached. -/
structure Input where
  name : Text
  number : Nat
  waiting : Text := []
  isAtEnd : Bool := false

namespace Input

/-- The number of bytes that are read at once. -/
def piece : Nat := 4096

/-- Sees to it that something is waiting, unless the file is at its end. -/
def fill (i : Input) (size : Nat) : Program (Except FileError Input) := do
  if i.waiting ≠ [] ∨ i.isAtEnd then return .ok i
  match ← Program.ask (.read i.number size) with
  | .error e => return .error e
  | .ok [] => return .ok { i with isAtEnd := true }
  | .ok bytes => return .ok { i with waiting := Octets.ofBytes bytes }

/-- A line, and whether its end is there. -/
abbrev Line := Text × Bool

/-- Takes a line, given the pieces of it that have been taken, the last one first. -/
def takePieces (size : Nat) (lineEnd : Char) :
    Nat → List Text → Input → Program (Except FileError (Input × Option Line))
  | 0, _, _ => Program.stuck
  | fuel + 1, pieces, i => do
    match ← i.fill size with
    | .error e => return .error e
    | .ok i =>
      if i.waiting = [] then
        return .ok (i, if pieces = [] then none else some (pieces.reverse.flatten, false))
      else
        let (t, rest) := i.waiting.span (· != lineEnd)
        match rest with
        | [] => takePieces size lineEnd fuel (t :: pieces) { i with waiting := [] }
        | _ :: rest =>
          return .ok ({ i with waiting := rest }, some ((t :: pieces).reverse.flatten, true))

def takeLine (i : Input) (size : Nat) (lineEnd : Char) :
    Program (Except FileError (Input × Option Line)) :=
  takePieces size lineEnd Program.limit [] i

/-- Gives back what has been read and not been taken, where that is possible. -/
def giveBack (i : Input) : Program Unit := do
  if i.waiting ≠ [] then
    let _ ← Program.ask (.move i.number (-i.waiting.length))

end Input

end AsmExplorer.Programs.Edit
