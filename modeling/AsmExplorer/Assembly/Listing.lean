import AsmExplorer.Assembly.References
import AsmExplorer.Assembly.SourceFiles
import AsmExplorer.Assembly.SourceMap
import AsmExplorer.Text.Line

/-!
# Listings

A listing is what is shown of an assembly text: its lines, each with the source line it was made
from, and the source map. The text is read line by line. What is carried along is the table of source
files, the current source line, whether the current section is a debug section, and whether the last
label was shown.
-/

namespace AsmExplorer.Assembly

/-- What is left out of a listing, and whether the text is disassembled code. -/
structure Filter where
  /-- The text is disassembled code with addresses. -/
  binary : Bool := false
  /-- Directives are left out. -/
  directives : Bool := true
  /-- Lines that are nothing but a comment are left out. -/
  commentOnly : Bool := true
  /-- Labels that nothing refers to are left out. -/
  labels : Bool := true
  deriving DecidableEq, Repr, Inhabited

/-- The filter that leaves nothing out. -/
def Filter.passthrough : Filter := ⟨false, false, false, false⟩

structure Line where
  text : Text
  sourceLine : Option Nat := none
  address : Option Nat := none
  deriving DecidableEq, Repr, Inhabited

/-- The lines that are shown and the source map of them. -/
structure Listing where
  lines : List Line
  map : SourceMap
  deriving DecidableEq, Repr, Inhabited

namespace Listing

def empty : Listing := ⟨[], .empty⟩

/-- The map with the entry of a line that gets the index. -/
def addToMap (map : SourceMap) (index : Nat) (line : Line) : SourceMap :=
  match line.sourceLine with
  | some n => map.insert n index
  | none => map

/-- The source map of lines whose first one has the index. -/
def mapFrom (map : SourceMap) (index : Nat) : List Line → SourceMap
  | [] => map
  | line :: rest => mapFrom (addToMap map index line) (index + 1) rest

def ofLines (lines : List Line) : Listing :=
  ⟨lines, mapFrom .empty 0 lines⟩

def sourceLineOf (l : Listing) (index : Nat) : Option Nat :=
  l.lines[index]?.bind Line.sourceLine

end Listing

/-- What is carried from line to line. -/
structure Cursor where
  files : SourceFiles
  sourceLine : Option Nat := none
  inDebug : Bool := false
  labelShown : Bool := false

namespace Cursor

def mark (s : Cursor) : Marker → Cursor
  | .location file line => { s with sourceLine := s.files.correlate file line }
  | .lineStab line => { s with sourceLine := if line = 0 then none else some line }
  | .otherStab => s

def recordFile (s : Cursor) (line : Text) : Cursor :=
  match FileEntry.ofLine? line with
  | some entry => { s with files := s.files.record entry }
  | none => s

def switchSection (s : Cursor) (line : Text) : Cursor :=
  match sectionSwitch? line with
  | some name =>
    { s with sourceLine := none, inDebug := isDebugSection name, labelShown := false }
  | none => s

/-- Whether the line is left out before its kind is looked at. -/
def skips (s : Cursor) (filter : Filter) (line : Text) : Bool :=
  (filter.directives && s.inDebug) || (filter.commentOnly && isComment line)

/-- Whether a label is shown; without references every label is. -/
def showsLabel (refs : Option References) (label : Text) : Bool :=
  match refs with
  | some refs => refs.contains label
  | none => true

/-- Whether the line is shown by its kind: a label, a directive or anything else. -/
def shows (s : Cursor) (filter : Filter) (refs : Option References) (line : Text) : Bool :=
  match label? line with
  | some label => showsLabel refs label
  | none =>
    if isDirective line then
      !filter.directives || (sectionSwitch? line).isSome ||
        (s.labelShown && isDataDefinition line)
    else true

/-- The cursor behind a line that was not left out. -/
def leave (s : Cursor) (refs : Option References) (line : Text) : Cursor :=
  { s with
    labelShown := match label? line with
      | some label => showsLabel refs label
      | none => s.labelShown
    sourceLine := if isFunctionEnd line then none else s.sourceLine }

/-- Reads one line: the cursor behind it and the line that is shown, if one is. -/
def step (filter : Filter) (refs : Option References) (s : Cursor) (line : Text) :
    Cursor × Option Line :=
  match Marker.ofLine? line with
  | some marker => (s.mark marker, none)
  | none =>
    let s := (s.recordFile line).switchSection line
    if s.skips filter line then (s, none)
    else
      let shown : Line := { text := Text.displayForm line, sourceLine := s.sourceLine }
      (s.leave refs line, if s.shows filter refs line then some shown else none)

/-- The lines shown of a text, from a cursor on. -/
def read (filter : Filter) (refs : Option References) (s : Cursor) : List Text → List Line
  | [] => []
  | line :: rest =>
    let (s', shown) := s.step filter refs line
    shown.toList ++ read filter refs s' rest

end Cursor

def Listing.ofAssembly (filter : Filter) (main : Option Text) (lines : List Text) : Listing :=
  let refs := if filter.labels then some (References.ofLines lines) else none
  .ofLines (Cursor.read filter refs { files := .start main } lines)

end AsmExplorer.Assembly
