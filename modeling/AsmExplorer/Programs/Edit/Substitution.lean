import AsmExplorer.Programs.Edit.Script
import AsmExplorer.Text.Numeral

/-!
# Substituting

What a line is after a substitution, and how a line is written so that every character can be seen.
-/

namespace AsmExplorer.Programs.Edit

/-- The text and the manner in which an expression is matched against it. -/
def Matcher.subject (m : Matcher) (text : Array Char) : Subject :=
  ⟨text, m.folds, m.lines⟩

def Matcher.find (m : Matcher) (text : Array Char) (place : Nat) : Option Regex.Found :=
  let t := m.subject text
  Regex.searchFrom t m.regex m.refersBack (text.size + 1 - place) place

def Matcher.matches (m : Matcher) (text : Text) : Bool :=
  (m.find text.toArray 0).isSome

/-- How the case of text in a replacement changes. -/
structure Casing where
  /-- How all of it changes. -/
  whole : CaseChange := .keep
  /-- How the first character changes, if it changes in a way of its own. -/
  first : Option CaseChange := none
  /-- Whether the first change was asked for by the part before. -/
  isFresh : Bool := false

namespace Casing

def apply (change : CaseChange) (c : Char) : Char :=
  match change with
  | .upper => asciiUpper c
  | .lower => asciiLower c
  | .keep => c
  | .upperNext => asciiUpper c
  | .lowerNext => asciiLower c

def write (k : Casing) (t : Text) : Text :=
  match t, k.first with
  | c :: cs, some f => apply f c :: cs.map (apply k.whole)
  | t, _ => t.map (apply k.whole)

/-- What a part changes. -/
def change (k : Casing) (c : CaseChange) : Casing :=
  match c with
  | .upperNext => ⟨k.whole, some c, true⟩
  | .lowerNext => ⟨k.whole, some c, true⟩
  | c => ⟨c, none, false⟩

/-- What is left to change behind a text or a group. A group without text leaves a change that was just
asked for to what comes next. -/
def after (k : Casing) (isEmptyGroup : Bool) : Casing :=
  if isEmptyGroup ∧ k.isFresh then ⟨k.whole, k.first, false⟩ else ⟨k.whole, none, false⟩

end Casing

/-- What is put in place of a match. -/
def replacement (t : Subject) (f : Regex.Found) (k : Casing) : List Part → Text
  | [] => []
  | .text u :: parts => k.write u ++ replacement t f (k.after false) parts
  | .group n :: parts =>
    let u := f.group t n
    k.write u ++ replacement t f (k.after (u == [])) parts
  | .changeCase c :: parts => replacement t f (k.change c) parts

/-- Where a substitution is: the place that it has reached, the end of the last match, the number of
matches, and the pieces that are done, the last one first. -/
structure Progress where
  place : Nat := 0
  lastEnd : Option Nat := none
  count : Nat := 0
  pieces : List Text := []
  replaced : Bool := false

/-- Goes from match to match. -/
def replaceMatches (m : Matcher) (s : Substitution) (text : Array Char) : Nat → Progress → Progress
  | 0, p => p
  | fuel + 1, p =>
    let piece (i j : Nat) : Text := (text.extract i j).toList
    match if text.size < p.place then none else m.find text p.place with
    | none => { p with pieces := piece p.place text.size :: p.pieces }
    | some f =>
      let skipped := piece p.place f.first
      let isVacuous := decide (f.first = f.last)
      let isAdjacent := isVacuous && p.lastEnd == some f.first
      let count := if isAdjacent then p.count else p.count + 1
      let replaces := !isAdjacent && s.first ≤ count
      let middle :=
        if replaces then replacement (m.subject text) f {} s.parts else piece f.first f.last
      let next := if isVacuous then f.last + 1 else f.last
      let passed := if isVacuous then piece f.last next else []
      let p : Progress :=
        { place := next, lastEnd := some f.last, count := count
          pieces := passed :: middle :: skipped :: p.pieces, replaced := p.replaced || replaces }
      if replaces ∧ !s.all then { p with pieces := piece next text.size :: p.pieces }
      else replaceMatches m s text fuel p

/-- The text after a substitution, if a match is replaced. -/
def substitute? (m : Matcher) (s : Substitution) (text : Text) : Option Text :=
  let a := text.toArray
  let p := replaceMatches m s a (a.size + 2) {}
  if p.replaced then some p.pieces.reverse.flatten else none

/-- A character in a listed line. -/
def listed (c : Char) : Text :=
  match c with
  | '\\' => ['\\', '\\']
  | '\x07' => ['\\', 'a']
  | '\x08' => ['\\', 'b']
  | '\x0c' => ['\\', 'f']
  | '\n' => ['\\', 'n']
  | '\r' => ['\\', 'r']
  | '\t' => ['\\', 't']
  | '\x0b' => ['\\', 'v']
  | c =>
    if 32 ≤ c.toNat ∧ c.toNat < 127 then [c]
    else '\\' :: Text.padLeft 3 '0' (Nat.toDigits 8 c.toNat)

/-- A line so that every character can be seen, in rows of a width; zero means one row. A sign stands at
the end of the last row. -/
def list (width : Nat) (lineEnd : Char) (t : Text) : Text :=
  let (pieces, _) := t.foldl
    (fun (pieces, column) c =>
      let u := listed c
      if 0 < width ∧ width - 1 < column + u.length then (u :: ['\\', lineEnd] :: pieces, u.length)
      else (u :: pieces, column + u.length))
    (([] : List Text), 0)
  pieces.reverse.flatten ++ ['$']

end AsmExplorer.Programs.Edit
