import AsmExplorer.Process.Basic

/-!
# Starting programs

What a program is started with, and what starting one comes to: a program in execution, or the error
for which it could not be started.
-/

namespace AsmExplorer

/-- What a program is started with. Words are octet by octet. -/
structure Start where
  /-- The name by which the program is called. -/
  program : Text
  arguments : List Text
  directory : Location
  environment : List (Text × Text)
  /-- The permissions that new files do not get. -/
  mask : Nat := 18

/-- A way to start the program at a path. -/
abbrev Launch := FileSystem → Text → Start → Except FileError Process

end AsmExplorer
