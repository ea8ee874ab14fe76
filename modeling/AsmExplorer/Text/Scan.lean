import AsmExplorer.Text.CharClass
import AsmExplorer.Text.Basic

/-!
# Scanning

The small readers that line formats are put together from. Each takes something off the front of a
text and gives the rest, or refuses. A reader of a run takes as many characters as it can.
-/

namespace AsmExplorer.Scan

def char? (c : Char) : Text → Option Text
  | [] => none
  | d :: rest => if d = c then some rest else none

def blanks (t : Text) : Text :=
  t.dropWhile isBlank

/-- Takes one or more blanks. -/
def blanks1? : Text → Option Text
  | [] => none
  | c :: rest => if isBlank c then some (blanks rest) else none

/-- Takes one or more characters of a class. -/
def run1? (inClass : Char → Bool) (t : Text) : Option (Text × Text) :=
  match t.takeWhile inClass with
  | [] => none
  | taken => some (taken, t.dropWhile inClass)

def digits? (t : Text) : Option (Text × Text) :=
  run1? isDigit t

/-- Takes a text in double quotes; it holds no double quote. -/
def quoted? (t : Text) : Option (Text × Text) := do
  let t ← char? '"' t
  let rest ← char? '"' (t.dropWhile (· ≠ '"'))
  return (t.takeWhile (· ≠ '"'), rest)

end AsmExplorer.Scan
