import AsmExplorer.Path.Basic
import AsmExplorer.Text.Numeral

/-!
# Failures

Why a request has no answer, by cause, and what the user is told. A run that was cancelled or
superseded is a failure too, but not one to report.
-/

namespace AsmExplorer

/-- The cause of a failure. -/
inductive Failure where
  /-- There is no compilation database at the path. -/
  | databaseNotFound (path : Path)
  /-- The compilation database has no command for the source file. -/
  | noCommand (source : Path)
  /-- The compilation database cannot be read as one. -/
  | malformedDatabase (path : Path)
  /-- The run was cancelled or superseded. -/
  | cancelled
  /-- A program could not start or did not succeed. -/
  | compileFailed (program status stderr : Text)
  /-- The run took longer than the given number of milliseconds. -/
  | timedOut (millis : Nat)
  /-- The settings cannot be read. -/
  | invalidSettings (reason : Text)
  /-- The host reported an error. -/
  | io (reason : Text)
  deriving DecidableEq, Repr

namespace Failure

/-- What a program wrote to its error stream, as it is added to a message. -/
def stderrSuffix (stderr : Text) : Text :=
  match Text.trimEnd isBlank stderr with
  | [] => []
  | trimmed => ":\n".toList ++ trimmed

/-- What the user is told. -/
def message : Failure → Text
  | .databaseNotFound path => "compilation database not found: ".toList ++ path.text
  | .noCommand source => "cannot find compilation command for ".toList ++ source.text
  | .malformedDatabase path => "malformed compilation database ".toList ++ path.text
  | .cancelled => "operation cancelled".toList
  | .compileFailed program status stderr =>
    program ++ " failed (".toList ++ status ++ ")".toList ++ stderrSuffix stderr
  | .timedOut millis =>
    "compilation timed out after ".toList ++ (secondsOfMillis millis).oneDecimal ++ "s".toList
  | .invalidSettings reason => "invalid settings: ".toList ++ reason
  | .io reason => "I/O error: ".toList ++ reason

/-- Whether the failure is a run that was cancelled or superseded. -/
def isCancelled : Failure → Bool
  | .cancelled => true
  | _ => false

/-- Whether a program failed or took too long. -/
def isCompileFailure : Failure → Bool
  | .compileFailed .. => true
  | .timedOut _ => true
  | _ => false

/-- What the failed program wrote to its error stream, if anything. -/
def stderr? : Failure → Option Text
  | .compileFailed _ _ stderr => if stderr = [] then none else some stderr
  | _ => none

end Failure

end AsmExplorer
