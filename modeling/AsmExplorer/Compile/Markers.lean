import AsmExplorer.Text.Line

/-!
# Marker lines

What compilers write into assembly for their own use are lines that begin with a hash or a semicolon
behind any blanks. They are taken out before a text is read.
-/

namespace AsmExplorer

def isMarkerLine (line : Text) : Bool :=
  match line.dropWhile isBlank with
  | '#' :: _ => true
  | ';' :: _ => true
  | _ => false

/-- The text without its marker lines, and without a terminator at the end. -/
def stripMarkerLines (t : Text) : Text :=
  Text.join ['\n'] ((Text.splitLines t).filter fun line => !isMarkerLine line)

end AsmExplorer
