import AsmExplorer.Assembly.Disassembly

/-!
# Documents

A document is the listing of one source file together with its path. It is shown as a text with one
line for each line of the listing; a line with an address carries it in angle brackets, as at least
eight hexadecimal digits.
-/

namespace AsmExplorer.Assembly

structure Document where
  source : Path
  listing : Listing
  deriving DecidableEq, Repr

def Line.render (line : Line) : Text :=
  match line.address with
  | some address =>
    '<' :: Text.padLeft 8 '0' (Text.hexOfNat address) ++ ['>', ' '] ++ line.text
  | none => line.text

def Document.render (d : Document) : Text :=
  d.listing.lines.flatMap fun line => line.render ++ ['\n']

/-- The path under which the listing of a source file is shown: its extension is `S`. -/
def listingPath (source : Path) : Path :=
  source.withExtension ['S']

end AsmExplorer.Assembly
