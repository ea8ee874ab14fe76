import AsmExplorer.Text.Scan
import AsmExplorer.Text.Numeral

/-!
# Directives

A line whose first visible character is a dot is a directive: the word behind the dot names it, the
rest are its operands. This module reads the directives that the listing depends on: the markers that
relate code to source lines (`.loc`, `.stabn`), the table of source files (`.file`), section
switches, data definitions, the end of a function and symbol declarations.
-/

namespace AsmExplorer.Assembly

/-- A directive: the word behind the dot and everything after that word. -/
structure Directive where
  name : Text
  operands : Text
  deriving DecidableEq, Repr

def Directive.ofLine? (line : Text) : Option Directive :=
  match Scan.blanks line with
  | '.' :: rest => some ⟨rest.takeWhile isWord, rest.dropWhile isWord⟩
  | _ => none

/-- The value of a numeral in a marker; one that is not an ASCII numeral below `2 ^ 32` counts as
zero. -/
def lineNumeral (digits : Text) : Nat :=
  (Text.decimal? (Nat.pow 2 32) digits).getD 0

/-- A directive that relates the code after it to a source line. It is never shown. -/
inductive Marker where
  /-- `.loc file line`. -/
  | location (file line : Nat)
  /-- `.stabn` with the code of a source line. -/
  | lineStab (line : Nat)
  /-- `.stabn` with any other code. -/
  | otherStab
  deriving DecidableEq, Repr

/-- The operands of `.loc`: a file number and a line, whatever follows. -/
def Marker.location? (operands : Text) : Option Marker := do
  let t ← Scan.blanks1? operands
  let (file, t) ← Scan.digits? t
  let t ← Scan.blanks1? t
  let (line, _) ← Scan.digits? t
  return .location (lineNumeral file) (lineNumeral line)

/-- The operands of `.stabn`: a code, a zero, a line and a comma, whatever follows. Code 68 marks a
source line. -/
def Marker.stab? (operands : Text) : Option Marker := do
  let t ← Scan.blanks1? operands
  let (code, t) ← Scan.digits? t
  let t ← Scan.char? ',' (Scan.blanks t)
  let t ← Scan.char? '0' (Scan.blanks t)
  let t ← Scan.char? ',' (Scan.blanks t)
  let (line, t) ← Scan.digits? (Scan.blanks t)
  let _ ← Scan.char? ',' (Scan.blanks t)
  return if code = "68".toList then .lineStab (lineNumeral line) else .otherStab

def Marker.ofLine? (line : Text) : Option Marker := do
  let d ← Directive.ofLine? line
  if d.name = "loc".toList then Marker.location? d.operands
  else if d.name = "stabn".toList then Marker.stab? d.operands
  else none

/-- An entry of the table of source files; one without a number names the main file. -/
structure FileEntry where
  index : Option Nat
  path : Text
  deriving DecidableEq, Repr

/-- The number in front of a `.file` path, with the blanks behind it, if a digit stands there. -/
def fileIndex? (t : Text) : Option (Option Nat × Text) :=
  match Scan.digits? t with
  | some (digits, rest) => (Scan.blanks1? rest).map fun rest => (some (lineNumeral digits), rest)
  | none => some (none, t)

/-- The operands of `.file`: an optional number, then a quoted path or a quoted directory and a
quoted path. -/
def FileEntry.ofOperands? (operands : Text) : Option FileEntry := do
  let t ← Scan.blanks1? operands
  let (index, t) ← fileIndex? t
  let (first, t) ← Scan.quoted? t
  match (Scan.blanks1? t).bind Scan.quoted? with
  | some (second, _) => return ⟨index, second⟩
  | none => return ⟨index, first⟩

def FileEntry.ofLine? (line : Text) : Option FileEntry := do
  let d ← Directive.ofLine? line
  if d.name = "file".toList then FileEntry.ofOperands? d.operands else none

/-- Whether a character can stand in the name of a section. -/
def isSectionChar (c : Char) : Bool :=
  !isBlank c && c != '"' && c != ','

/-- The section named by the operands of `.section` and `.pushsection`, with or without a quote. -/
def namedSection? (operands : Text) : Option Text := do
  let t ← Scan.blanks1? operands
  let (name, _) ← Scan.run1? isSectionChar ((Scan.char? '"' t).getD t)
  return name

/-- The section that a line switches to. Going back to an earlier section counts as `.text`. -/
def sectionSwitch? (line : Text) : Option Text := do
  let d ← Directive.ofLine? line
  if ["text".toList, "data".toList, "bss".toList].contains d.name then some ('.' :: d.name)
  else if ["section".toList, "pushsection".toList].contains d.name then namedSection? d.operands
  else if ["popsection".toList, "previous".toList].contains d.name then some ".text".toList
  else none

/-- Whether a section holds debugging information or notes. -/
def isDebugSection (name : Text) : Bool :=
  ".debug".toList.isPrefixOf name || ".note".toList.isPrefixOf name

def dataNames : List Text :=
  ["string", "asciz", "ascii", "byte", "1byte", "2byte", "4byte", "8byte", "short", "word", "xword",
   "long", "quad", "value", "zero", "float", "double", "octa", "hword", "int"].map String.toList

def isDataDefinition (line : Text) : Bool :=
  match Directive.ofLine? line with
  | some d => dataNames.contains d.name
  | none => false

def isFunctionEnd (line : Text) : Bool :=
  match Directive.ofLine? line with
  | some d => decide (d.name = "cfi_endproc".toList)
  | none => false

def isDirective (line : Text) : Bool :=
  (Directive.ofLine? line).isSome

def declarationNames : List Text :=
  ["globl", "global", "weak", "type"].map String.toList

/-- The symbol that a line declares: the first operand, up to a blank or a comma. -/
def declaredSymbol? (line : Text) : Option Text := do
  let d ← Directive.ofLine? line
  if declarationNames.contains d.name then
    let t ← Scan.blanks1? d.operands
    let (name, _) ← Scan.run1? (fun c => !isBlank c && c != ',') t
    return name
  else none

end AsmExplorer.Assembly
