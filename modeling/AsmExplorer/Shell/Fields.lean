import AsmExplorer.Text.Basic

/-!
# Fields

What the pieces of a word come to is a row of cells. Regions of the row are cut into fields at
separators.
-/

namespace AsmExplorer.Shell

/-- A part of what a word comes to. -/
inductive Cell where
  /-- A quote, which counts for nothing but lets an empty field be one. -/
  | mark
  /-- A character, and whether it stands for itself in patterns. -/
  | char (c : Char) (isEscaped : Bool)
  deriving DecidableEq, Repr

namespace Cell

def text (cells : List Cell) : Text :=
  cells.filterMap fun
    | .mark => none
    | .char c _ => some c

/-- Spells a row as a pattern, in which backslashes stand in front of characters that stand for
themselves. A backslash that comes from a value takes the place of that one, unless nothing before it
was quoted or a quote is between them. -/
def spell (isQuoted isBehindBackslash : Bool) : List Cell → Text
  | [] => []
  | .mark :: rest => spell true false rest
  | .char c true :: rest => (if isBehindBackslash then [c] else ['\\', c]) ++ spell true false rest
  | .char c false :: rest => c :: spell isQuoted (isQuoted && c == '\\') rest

def pattern (cells : List Cell) : Text :=
  spell false false cells

/-- Whether a row has characters that may make it a pattern. -/
def mayBePattern (cells : List Cell) : Bool :=
  cells.any fun
    | .mark => false
    | .char c _ => c == '*' || c == '?' || c == '['

/-- A cell for each character. -/
def ofText (isEscaped : Char → Bool) (t : Text) : List Cell :=
  t.map fun c => .char c (isEscaped c)

end Cell

/-- A part of a row that is cut into fields. -/
structure Region where
  first : Nat
  /-- The end, which does not belong to the region. -/
  stop : Nat
  /-- Whether it is cut only where arguments end. -/
  isArguments : Bool
  deriving DecidableEq, Repr

/-- A row that grows: its cells and regions, the last ones first. -/
structure Row where
  reversed : List Cell := []
  size : Nat := 0
  regions : List Region := []

namespace Row

def add (r : Row) (cells : List Cell) : Row :=
  { r with reversed := cells.reverseAux r.reversed, size := r.size + cells.length }

def cells (r : Row) : List Cell :=
  r.reversed.reverse

/-- The row up to a place. -/
def upTo (r : Row) (place : Nat) : Row :=
  { r with reversed := r.reversed.drop (r.size - place), size := min place r.size }

/-- The row with a region from a place on. -/
def mark (r : Row) (first : Nat) (isArguments : Bool) : Row :=
  { r with regions := ⟨first, r.size, isArguments⟩ :: r.regions }

/-- The row with regions only up to a place. -/
def unmark (r : Row) (place : Nat) : Row :=
  match r.regions.reverse with
  | [] => r
  | g :: gs =>
    if place < g.stop then
      { r with regions := if place < g.first then [] else [{ g with stop := place }] }
    else
      match (g :: gs.takeWhile fun h => h.first < place).reverse with
      | last :: others => { r with regions := { last with stop := min last.stop place } :: others }
      | [] => r

end Row

/-- How far a row has been cut. -/
structure Cutting where
  /-- The fields, as places of their first cells and of those behind them, the last one first. -/
  fields : List (Nat × Nat) := []
  /-- Where the present field begins. -/
  start : Nat := 0
  /-- Whether a blank has ended the last field. -/
  isBehindBlank : Bool := false
  /-- Whether the region before was one of arguments. -/
  isBehindArguments : Bool := false
  /-- How many fields may still be made, if that is limited. -/
  left : Option Nat := none
  /-- Where the last field ends, if it does so before the end. -/
  stop : Option Nat := none

namespace Cutting

/-- Whether a separator is a blank. -/
def isBlankSeparator (c : Char) : Bool :=
  c == ' ' || c == '\t' || c == '\n' || c == '\x00'

/-- Takes a cell of the last field. -/
def takeLast (s : Cutting) (place : Nat) (isSeparator isBlank : Bool) : Cutting :=
  if isBlank then { s with stop := s.stop.or (some place) }
  else
    { s with
      stop := if isSeparator && s.isBehindBlank then s.stop else none
      isBehindBlank := false }

/-- Takes a cell, given whether it is a separator and whether it is a blank. -/
def take (s : Cutting) (isArguments : Bool) (place : Nat) (isSeparator isBlank : Bool) : Cutting :=
  if s.left = some 0 then s.takeLast place isSeparator isBlank
  else if s.isBehindBlank ∧ isBlank then { s with start := place + 1 }
  else if s.isBehindBlank ∧ isSeparator then { s with start := place + 1, isBehindBlank := false, isBehindArguments := false }
  else
    let s := if s.isBehindBlank then { s with start := place } else s
    if isSeparator then
      let isBehindBlank :=
        if s.isBehindArguments || isArguments then s.isBehindBlank else isBlank
      if place = s.start ∧ isBehindBlank then { s with start := place + 1, isBehindBlank := false }
      else
        let left := s.left.map fun n => n - 1
        if left = some 0 then { s with left := left, stop := some place, isBehindBlank := isBehindBlank }
        else
          { s with
            fields := (s.start, place) :: s.fields
            start := place + 1
            left := left
            isBehindBlank := isBehindBlank
            isBehindArguments := false }
    else { s with isBehindBlank := false, isBehindArguments := false }

def takeRegion (separators : Text) (cells : Array Cell) (s : Cutting) (g : Region) : Cutting :=
  let s := { s with isBehindBlank := false }
  let s := (List.range' g.first (g.stop - g.first)).foldl (fun s place =>
    match cells[place]? with
    | some (.char c _) =>
      let isSeparator := c == '\x00' || (!g.isArguments && separators.contains c)
      s.take g.isArguments place isSeparator (isSeparator && isBlankSeparator c)
    | _ => s.take g.isArguments place false false) s
  { s with isBehindArguments := g.isArguments }

end Cutting

namespace Row

/-- The fields of a row that is cut at separators. If their number is limited, the last one takes all
that is left. -/
def fields (r : Row) (separators : Text) (limit : Option Nat) : List (List Cell) :=
  let cells := r.cells.toArray
  let slice (first stop : Nat) : List Cell := (cells.extract first stop).toList
  let s := r.regions.reverse.foldl (Cutting.takeRegion separators cells) { left := limit }
  let last := slice s.start (s.stop.getD cells.size)
  let isLast := match last with
    | [] => false
    | .char '\x00' _ :: _ => false
    | _ => true
  let rest :=
    if (r.regions.head?.map Region.isArguments).getD false then [slice s.start cells.size]
    else if isLast then [last]
    else []
  (s.fields.reverse.map fun (first, stop) => slice first stop) ++ rest

end Row

end AsmExplorer.Shell
