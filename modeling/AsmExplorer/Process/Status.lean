import AsmExplorer.Process.Signal

/-!
# How programs end

A program ends with a code, of which zero means success, or by a signal.
-/

namespace AsmExplorer

/-- How a program has ended. -/
inductive Status where
  | code (n : Nat)
  | signal (n : Nat)
  deriving DecidableEq, Repr

namespace Status

def isSuccess (s : Status) : Bool :=
  s == .code 0

/-- The signal of a program that writes where nobody reads. -/
def brokenPipe : Status := .signal Signal.pipe

def signalSuffix (n : Nat) : Text :=
  match Signal.name? n with
  | some name => " (SIG".toList ++ name ++ ")".toList
  | none => []

/-- How the end of a program is reported. -/
def report : Status → Text
  | .code n => "exit status: ".toList ++ Text.ofNat n
  | .signal n => "signal: ".toList ++ Text.ofNat n ++ signalSuffix n

/-- The code that the end of a program counts as in a script. -/
def asCode : Status → Nat
  | .code n => n
  | .signal n => 128 + n

end Status

end AsmExplorer
