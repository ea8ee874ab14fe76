import AsmExplorer.Assembly.Directive
import AsmExplorer.Assembly.Label

/-!
# References

Which labels of a listing are referred to. Instructions and data definitions refer to the symbols in
them, a declaration refers to the symbol it declares; debug sections refer to every label and are
left out. A label that is no plain name, such as a demangled function name, counts as referred to
where a referring line holds it as a piece.
-/

namespace AsmExplorer.Assembly

/-- The lines outside debug sections, without the lines that switch sections. -/
def outsideDebug (inDebug : Bool) : List Text → List Text
  | [] => []
  | line :: rest =>
    match sectionSwitch? line with
    | some name => outsideDebug (isDebugSection name) rest
    | none => if inDebug then outsideDebug inDebug rest else line :: outsideDebug inDebug rest

/-- The symbols that a line refers to, if it is a line that can refer to symbols. -/
def mentions? (line : Text) : Option (List Text) :=
  if isComment line then none
  else
    match declaredSymbol? line with
    | some name => some [name]
    | none =>
      if (label? line).isSome then none
      else if isDirective line && !isDataDefinition line then none
      else some (symbols (Scan.blanks line))

/-- The symbols referred to and the lines that refer to them. -/
structure References where
  symbols : List Text
  lines : List Text
  deriving DecidableEq, Repr

def References.ofLines (lines : List Text) : References :=
  let referring := (outsideDebug false lines).filter fun line => (mentions? line).isSome
  { symbols := referring.flatMap fun line => (mentions? line).getD []
    lines := referring.map Scan.blanks }

/-- Whether a label consists of ASCII letters, digits, dots, low lines and dollar signs. -/
def isPlainName (label : Text) : Bool :=
  label.all fun c => isAsciiLetter c || isAsciiDigit c || c == '.' || c == '_' || c == '$'

def References.contains (refs : References) (label : Text) : Bool :=
  refs.symbols.contains label || (!isPlainName label && refs.lines.any (Text.occursIn label))

end AsmExplorer.Assembly
