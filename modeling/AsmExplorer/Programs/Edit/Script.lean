import AsmExplorer.Regex.Basic

/-!
# Editing scripts

What the editor of lines is told to do: commands in a row, each with the lines that it is for. Blocks
and labels are places in that row, so that a jump is a number.
-/

namespace AsmExplorer.Programs.Edit

/-- An expression with the way it is matched. -/
structure Matcher where
  regex : Regex
  refersBack : Bool
  folds : Bool
  lines : Bool
  groups : Nat

/-- An expression to match; without one the last one that was matched counts. -/
abbrev Search := Option Matcher

/-- The line with which the lines of a command begin. -/
inductive Address where
  | line (n : Nat)
  /-- The given line and every so many lines behind it. -/
  | step (first step : Nat)
  | last
  | search (s : Search)

/-- The line with which the lines of a command end. -/
inductive Finish where
  | line (n : Nat)
  /-- The next one of the given line and every so many lines behind it. -/
  | step (first step : Nat)
  | last
  | search (s : Search)
  /-- So many lines further. -/
  | further (n : Nat)
  /-- The next line whose number is a multiple. -/
  | multiple (n : Nat)

/-- How the case of what follows in a replacement changes. -/
inductive CaseChange where
  | lower
  | upper
  | keep
  | lowerNext
  | upperNext
  deriving DecidableEq

/-- A part of what is put in place of a match. -/
inductive Part where
  | text (t : Text)
  | group (n : Nat)
  | changeCase (c : CaseChange)

structure Substitution where
  search : Search
  parts : List Part
  /-- The number of the first match that is replaced. -/
  first : Nat := 1
  all : Bool := false
  prints : Bool := false
  file : Option Text := none

/-- When a jump is taken. -/
inductive JumpKind where
  | always
  | substituted
  | notSubstituted
  deriving DecidableEq

/-- What a command does. -/
inductive Action where
  /-- Goes on behind the block, unless the lines of the block are meant. -/
  | openBlock (behind : Nat)
  | nothing
  /-- Goes on at a place in the row, which is the end without a label. -/
  | jump (kind : JumpKind) (label : Text) (target : Nat)
  | append (t : Text)
  | insert (t : Text)
  | change (t : Text)
  | delete
  | deleteFirst
  | print
  | printFirst
  | next
  | appendNext
  | hold
  | appendHold
  | get
  | appendGet
  | exchange
  | number
  | fileName
  | empty
  /-- Writes the line so that every character can be seen, in rows of a width. -/
  | list (width : Option Nat)
  | quit (code : Nat) (prints : Bool)
  | readFile (name : Text)
  | readLine (name : Text)
  | writeLine (name : Text)
  | writeFirst (name : Text)
  | substitute (s : Substitution)
  | transliterate (pairs : List (Char × Char))

/-- A command with the lines that it is for. -/
structure Command where
  start : Option Address := none
  finish : Option Finish := none
  negated : Bool := false
  action : Action

/-- A script: its commands, and whether it asks that lines are not printed by themselves. -/
structure Script where
  commands : Array Command := #[]
  quiet : Bool := false

end AsmExplorer.Programs.Edit
