/-!
# Source maps

A source map gives, for each source line, the indices of the assembly lines made from it: the lines
in ascending order, the indices of a line in the order in which they first came in, none twice.
-/

namespace AsmExplorer.Assembly

/-- For each source line that has code, the indices of its assembly lines. -/
structure SourceMap where
  entries : List (Nat × List Nat)
  deriving DecidableEq, Repr, Inhabited

namespace SourceMap

def empty : SourceMap := ⟨[]⟩

/-- An index added at the end of a list, unless it is there already. -/
def addIndex (index : Nat) (indices : List Nat) : List Nat :=
  if index ∈ indices then indices else indices ++ [index]

/-- An index added to a source line in an ascending list of source lines. -/
def insertEntry (line index : Nat) : List (Nat × List Nat) → List (Nat × List Nat)
  | [] => [(line, [index])]
  | (l, indices) :: rest =>
    if line < l then (line, [index]) :: (l, indices) :: rest
    else if line = l then (l, addIndex index indices) :: rest
    else (l, indices) :: insertEntry line index rest

def insert (m : SourceMap) (line index : Nat) : SourceMap :=
  ⟨insertEntry line index m.entries⟩

/-- The indices of a source line; a line without code has none. -/
def indicesOf (m : SourceMap) (line : Nat) : List Nat :=
  (m.entries.lookup line).getD []

/-- The source lines that have code, in ascending order. -/
def lines (m : SourceMap) : List Nat :=
  m.entries.map Prod.fst

def size (m : SourceMap) : Nat :=
  m.entries.length

def isEmpty (m : SourceMap) : Bool :=
  m.entries.isEmpty

end SourceMap

end AsmExplorer.Assembly
