import AsmExplorer.Assembly.Listing
import AsmExplorer.Text.Numeral

/-!
# Disassembly

Disassembled code has two kinds of records: a label, written as an address and a name in angle
brackets, and an instruction, written as an address, the code bytes and the text. Any other line is
shown only when directives are.
-/

namespace AsmExplorer.Assembly

/-- Addresses are below `2 ^ 64`; a larger numeral has no value. -/
def address? (digits : Text) : Option Nat :=
  Text.hexadecimal? (Nat.pow 2 64) digits

/-- The address digits and the name of a label record. -/
def labelRecord? (line : Text) : Option (Text × Text) := do
  let (digits, t) ← Scan.run1? isHexDigit line
  let t ← Scan.blanks1? t
  let t ← Scan.char? '<' t
  let t := Text.trimEnd isBlank t
  let name := t.take (t.length - 2)
  if name ≠ [] ∧ t.drop name.length = ">:".toList then return (digits, name) else none

/-- The text without code bytes at its front, each two hexadecimal digits and a space or a tab. -/
def dropCodeBytes : Text → Text
  | a :: b :: c :: rest =>
    if isHexDigit a && isHexDigit b && (c == ' ' || c == '\t') then dropCodeBytes rest
    else a :: b :: c :: rest
  | t => t

/-- The address digits and the text of an instruction record. -/
def instructionRecord? (line : Text) : Option (Text × Text) := do
  let (digits, t) ← Scan.run1? isHexDigit (Scan.blanks line)
  let t ← Scan.char? ':' t
  return (digits, Scan.blanks (dropCodeBytes (Scan.blanks t)))

/-- What is shown of a line of disassembled code. -/
def recordLine? (filter : Filter) (line : Text) : Option Line :=
  match labelRecord? line with
  | some (digits, name) => some { text := name ++ [':'], address := address? digits }
  | none =>
    match instructionRecord? line with
    | some (digits, text) =>
      some { text := Text.displayForm text, address := address? digits }
    | none => if filter.directives then none else some { text := Text.displayForm line }

def Listing.ofDisassembly (filter : Filter) (lines : List Text) : Listing :=
  .ofLines (lines.filterMap (recordLine? filter))

/-- The listing of a text, of either kind. The main source file is known by its name, if at all. -/
def Listing.ofText (filter : Filter) (main : Option Text) (t : Text) : Listing :=
  let lines := Text.splitLines t
  if filter.binary then .ofDisassembly filter lines else .ofAssembly filter main lines

def Listing.ofSource (filter : Filter) (source : Path) (t : Text) : Listing :=
  .ofText filter source.fileName? t

end AsmExplorer.Assembly
