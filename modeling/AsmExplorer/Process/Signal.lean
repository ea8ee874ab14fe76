import AsmExplorer.Text.Numeral

/-!
# Signals

Signals are known by number. The first thirty-one have names and descriptions of their own; the
others, the real-time signals, are named by their place among them.
-/

namespace AsmExplorer

namespace Signal

/-- The names of the first signals and what they are called in messages. -/
def table : List (Nat × String × String) :=
  [(1, "HUP", "Hangup"), (2, "INT", "Interrupt"), (3, "QUIT", "Quit"),
   (4, "ILL", "Illegal instruction"), (5, "TRAP", "Trace/breakpoint trap"),
   (6, "ABRT", "Aborted"), (7, "BUS", "Bus error"), (8, "FPE", "Floating point exception"),
   (9, "KILL", "Killed"), (10, "USR1", "User defined signal 1"),
   (11, "SEGV", "Segmentation fault"), (12, "USR2", "User defined signal 2"),
   (13, "PIPE", "Broken pipe"), (14, "ALRM", "Alarm clock"), (15, "TERM", "Terminated"),
   (16, "STKFLT", "Stack fault"), (17, "CHLD", "Child exited"), (18, "CONT", "Continued"),
   (19, "STOP", "Stopped (signal)"), (20, "TSTP", "Stopped"), (21, "TTIN", "Stopped (tty input)"),
   (22, "TTOU", "Stopped (tty output)"), (23, "URG", "Urgent I/O condition"),
   (24, "XCPU", "CPU time limit exceeded"), (25, "XFSZ", "File size limit exceeded"),
   (26, "VTALRM", "Virtual timer expired"), (27, "PROF", "Profiling timer expired"),
   (28, "WINCH", "Window changed"), (29, "IO", "I/O possible"), (30, "PWR", "Power failure"),
   (31, "SYS", "Bad system call")]

/-- The greatest number of a signal. -/
def last : Nat := 64

/-- The number of the first real-time signal that programs may use. -/
def firstRealTime : Nat := 34

def interrupt : Nat := 2
def quit : Nat := 3
def kill : Nat := 9
def pipe : Nat := 13
def terminate : Nat := 15
def child : Nat := 17
def resume : Nat := 18
def stop : Nat := 19

def name? (n : Nat) : Option Text :=
  (table.lookup n).map fun entry => entry.1.toList

def description (n : Nat) : Text :=
  match table.lookup n with
  | some entry => entry.2.toList
  | none =>
    if firstRealTime ≤ n ∧ n ≤ last then
      "Real-time signal ".toList ++ Text.ofNat (n - firstRealTime)
    else "Unknown signal ".toList ++ Text.ofNat n

/-- What a signal does to a program that takes no precaution. -/
inductive Effect where
  | none
  | ends
  | stops
  | continues
  deriving DecidableEq, Repr

def defaultEffect (n : Nat) : Effect :=
  if n = 17 ∨ n = 23 ∨ n = 28 then .none
  else if n = resume then .continues
  else if 19 ≤ n ∧ n ≤ 22 then .stops
  else .ends

end Signal

end AsmExplorer
