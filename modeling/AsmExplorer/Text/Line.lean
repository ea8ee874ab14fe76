import AsmExplorer.Text.CharClass
import AsmExplorer.Text.Basic

/-!
# Lines

How a text falls into lines and how a line is laid out for display. A line ends at a line feed or at
a carriage return with a line feed; the empty line after a final terminator does not count. Tabs
reach to the next multiple of eight columns, counted in characters from the start of the line.
-/

namespace AsmExplorer.Text

/-- The line without one carriage return at its end. -/
def dropReturn (line : Text) : Text :=
  if line.getLast? = some '\r' then line.dropLast else line

/-- The list without a single empty line at its end. -/
def dropFinalEmpty (lines : List Text) : List Text :=
  if lines.getLast? = some [] then lines.dropLast else lines

/-- The lines of a text, without their terminators. -/
def splitLines (t : Text) : List Text :=
  dropFinalEmpty ((t.splitOn '\n').map dropReturn)

def tabStop : Nat := 8

/-- Tabs replaced by spaces in a text that starts at the given column. -/
def expandTabsFrom (column : Nat) : Text → Text
  | [] => []
  | c :: rest =>
    if c = '\t' then
      let width := tabStop - column % tabStop
      List.replicate width ' ' ++ expandTabsFrom (column + width) rest
    else c :: expandTabsFrom (column + 1) rest

/-- Each tab of a line replaced by the spaces up to the next tab stop. -/
def expandTabs (line : Text) : Text :=
  if '\t' ∈ line then expandTabsFrom 0 line else line

/-- The form in which a line is displayed: tabs expanded, blanks at the end dropped. -/
def displayForm (line : Text) : Text :=
  trimEnd isBlank (expandTabs line)

end AsmExplorer.Text
