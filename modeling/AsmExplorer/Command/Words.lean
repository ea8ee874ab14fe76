import AsmExplorer.Text.Basic

/-!
# Command words

Splitting a command that is written as one text into its words. Spaces and tabs separate words,
except between quotes; a backslash makes a quote, a blank or a backslash plain, and is kept before
any other character. A word without characters is dropped.
-/

namespace AsmExplorer.Command

/-- The characters that a backslash makes plain. -/
def isEscapable (c : Char) : Bool :=
  c == '"' || c == '\'' || c == ' ' || c == '\t' || c == '\\'

/-- The word with these characters in reverse, unless there are none. -/
def endWord (reversed : Text) : List Text :=
  if reversed = [] then [] else [reversed.reverse]

/-- The state of the splitter: whether a backslash has just been read, the quote that is open and
the word begun, in reverse. -/
structure Splitter where
  escaped : Bool := false
  quote : Option Char := none
  word : Text := []

/-- Takes a character that is not escaped: the state behind it and the word that it ends, if any. -/
def Splitter.takePlain (s : Splitter) (c : Char) : Splitter × List Text :=
  if c = '\\' then ({ s with escaped := true }, [])
  else
    match s.quote with
    | some q =>
      if c = q then ({ s with quote := none }, []) else ({ s with word := c :: s.word }, [])
    | none =>
      if c = '"' ∨ c = '\'' then ({ s with quote := some c }, [])
      else if c = ' ' ∨ c = '\t' then ({ s with word := [] }, endWord s.word)
      else ({ s with word := c :: s.word }, [])

/-- Takes one character. Behind a backslash an escapable character is plain; before any other one
the backslash itself is. -/
def Splitter.take (s : Splitter) (c : Char) : Splitter × List Text :=
  if s.escaped then
    if isEscapable c then ({ s with escaped := false, word := c :: s.word }, [])
    else Splitter.takePlain { s with escaped := false, word := '\\' :: s.word } c
  else s.takePlain c

/-- The words from a state on. A backslash at the end is plain, and a quote may stay open. -/
def splitFrom (s : Splitter) : Text → List Text
  | [] => endWord (if s.escaped then '\\' :: s.word else s.word)
  | c :: rest => (s.take c).2 ++ splitFrom (s.take c).1 rest

def splitWords (command : Text) : List Text :=
  splitFrom {} command

/-- The arguments without `-c`, `-g` and each `-o` together with the argument after it. -/
def dropOutputArguments : List Text → List Text
  | [] => []
  | argument :: rest =>
    if argument = "-o".toList then
      match rest with
      | [] => []
      | _ :: rest => dropOutputArguments rest
    else if argument = "-c".toList ∨ argument = "-g".toList then dropOutputArguments rest
    else argument :: dropOutputArguments rest

end AsmExplorer.Command
