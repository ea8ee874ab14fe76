import AsmExplorer.Text.Scan
import AsmExplorer.Text.Numeral

/-!
# Diagnostics

Compilers report problems in two forms, one to a line: `file:line:column: severity: message`, and
`file(line,column): severity code: message` where the column may be missing. The file is the
shortest text in front of which the rest of the line has the form. The first form is tried first; a
line that has it with a number out of range is tried in the second form too.
-/

namespace AsmExplorer

/-- How bad a problem is. -/
inductive Severity where
  | error
  | warning
  | note
  deriving DecidableEq, Repr

/-- One problem that a compiler reports. -/
structure Diagnostic where
  file : Text
  line : Nat
  column : Nat
  severity : Severity
  code : Text
  message : Text
  deriving DecidableEq, Repr

namespace Diagnostic

/-- The words that name a severity. -/
def severityWords : List (Text × Severity) :=
  [("fatal error".toList, .error), ("error".toList, .error), ("warning".toList, .warning),
   ("note".toList, .note)]

def severity? (t : Text) : Option (Severity × Text) :=
  severityWords.findSome? fun (word, severity) =>
    (word.isPrefixOf? t).map fun rest => (severity, rest)

/-- The message behind a colon: the rest of the line without the blanks in front. -/
def message? (t : Text) : Option Text := do
  let t ← Scan.char? ':' t
  match Scan.blanks t with
  | [] => none
  | message => some message

/-- What follows the file in the form with colons. -/
structure ColonTail where
  line : Text
  column : Text
  severity : Severity
  message : Text

def ColonTail.read? (t : Text) : Option ColonTail := do
  let t ← Scan.char? ':' t
  let (line, t) ← Scan.digits? t
  let t ← Scan.char? ':' t
  let (column, t) ← Scan.digits? t
  let t ← Scan.char? ':' t
  let (severity, t) ← severity? (Scan.blanks t)
  let message ← message? t
  return ⟨line, column, severity, message⟩

/-- What follows the file in the form with parentheses. -/
structure ParenTail where
  line : Text
  column : Option Text
  severity : Severity
  code : Text
  message : Text

/-- Takes a comma and digits, if both are there. -/
def columnPart (t : Text) : Option Text × Text :=
  match (Scan.char? ',' t).bind Scan.digits? with
  | some (digits, rest) => (some digits, rest)
  | none => (none, t)

def ParenTail.read? (t : Text) : Option ParenTail := do
  let t ← Scan.char? '(' t
  let (line, t) ← Scan.digits? t
  let (column, t) := columnPart t
  let t ← Scan.char? ')' t
  let t ← Scan.char? ':' t
  let (severity, t) ← severity? (Scan.blanks t)
  let t ← Scan.blanks1? t
  let (code, t) ← Scan.run1? isWord t
  let message ← message? t
  return ⟨line, column, severity, code, message⟩

/-- The shortest head of a text behind which a tail of the given form stands. -/
def splitBefore? {α : Type} (tail? : Text → Option α) : Text → Option (Text × α)
  | [] => (tail? []).map fun a => ([], a)
  | c :: rest =>
    match tail? (c :: rest) with
    | some a => some ([], a)
    | none => (splitBefore? tail? rest).map fun (head, a) => (c :: head, a)

/-- The shortest head with at least one character behind which a tail of the given form stands. -/
def splitAfterFirst? {α : Type} (tail? : Text → Option α) : Text → Option (Text × α)
  | [] => none
  | c :: rest => (splitBefore? tail? rest).map fun (head, a) => (c :: head, a)

/-- The value of a line or column, if it is an ASCII numeral below `2 ^ 32`. -/
def position? (digits : Text) : Option Nat :=
  Text.decimal? (Nat.pow 2 32) digits

def ofColons? (line : Text) : Option Diagnostic := do
  let (file, tail) ← splitAfterFirst? ColonTail.read? line
  let row ← position? tail.line
  let column ← position? tail.column
  return ⟨file, row, column, tail.severity, [], tail.message⟩

/-- The diagnostic on a line in the form with parentheses. A column that is missing or out of range
is zero. -/
def ofParens? (line : Text) : Option Diagnostic := do
  let (file, tail) ← splitAfterFirst? ParenTail.read? line
  let row ← position? tail.line
  let column := (tail.column.bind position?).getD 0
  return ⟨file, row, column, tail.severity, tail.code, tail.message⟩

def ofLine? (line : Text) : Option Diagnostic :=
  (ofColons? line).or (ofParens? line)

/-- The diagnostics in what a compiler writes to its error stream. -/
def parse (output : Text) : List Diagnostic :=
  (((output.splitOn '\n').map (Text.trim isBlank)).filter (· ≠ [])).filterMap ofLine?

/-- The number of errors and the number of warnings. -/
def summarize (diagnostics : List Diagnostic) : Nat × Nat :=
  (diagnostics.countP fun d => d.severity = .error,
   diagnostics.countP fun d => d.severity = .warning)

end Diagnostic

end AsmExplorer
