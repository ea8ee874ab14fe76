import AsmExplorer.Text.Basic

/-!
# Scripts

The command language in which small programs are written: words that are put together from pieces,
redirections, and commands. The bodies of here-documents stand apart from the commands, which refer to
them by number.
-/

namespace AsmExplorer.Shell

/-- What is done with the value of a parameter. -/
inductive Change where
  | keep
  /-- The number of characters. -/
  | length
  /-- The word, if there is no value. -/
  | fallback
  /-- The word, if there is no value, which is then the value from now on. -/
  | assign
  /-- The word, if there is a value. -/
  | alternative
  /-- A failure with the word as message, if there is no value. -/
  | require
  /-- The value without a head or tail that has the pattern. -/
  | trim (fromEnd longest : Bool)
  /-- Nothing that is known. -/
  | unknown
  deriving DecidableEq, Repr

/-- What a file is opened for by a redirection. -/
inductive Direction where
  | input
  | output
  /-- Output that also takes a file which is there already. -/
  | overwrite
  | append
  | both
  deriving DecidableEq, Repr

mutual

inductive Piece where
  /-- Characters without quotes, in which patterns count. -/
  | plain (t : Text)
  /-- Characters inside quotes. -/
  | quoted (t : Text)
  /-- Characters behind backslashes. -/
  | escaped (t : Text)
  /-- A quote, which begins or ends a quoted part. -/
  | mark
  /-- The value of a parameter. With `orEmpty`, an empty value counts as none. -/
  | parameter (name : Text) (change : Change) (orEmpty : Bool) (word : List Piece)
  /-- What a command writes. -/
  | substitution (body : Option Command)
  /-- The value of an arithmetic expression. -/
  | arithmetic (body : List Piece)

/-- A redirection of a numbered stream. -/
inductive Redirect where
  | file (stream : Nat) (direction : Direction) (target : List Piece)
  /-- Leads to where another stream does, or nowhere. -/
  | copy (stream : Nat) (source : Option Nat)
  /-- Leads to where the stream does whose number a word spells. -/
  | copyNamed (stream : Nat) (source : List Piece)
  | document (stream : Nat) (number : Nat)

/-- A command, with the line on which it begins. -/
inductive Command where
  | simple (line : Nat) (assignments words : List (List Piece)) (redirects : List Redirect)
  | pipeline (parts : List Command) (background : Bool)
  | negation (c : Command)
  | both (first second : Command)
  | either (first second : Command)
  | sequence (first second : Command)
  | background (body : Command) (redirects : List Redirect)
  | subshell (line : Nat) (body : Command) (redirects : List Redirect)
  | redirected (line : Nat) (body : Command) (redirects : List Redirect)
  | branch (test yes : Command) (no : Option Command)
  /-- Repeats the body as long as the test succeeds, or as long as it does not. -/
  | loop (success : Bool) (test body : Command)
  /-- Runs the body for each of the words. -/
  | each (line : Nat) (name : Text) (words : List (List Piece)) (body : Command)
  | choose (line : Nat) (word : List Piece) (cases : List (List (List Piece) × Option Command))
  | define (line : Nat) (name : Text) (body : Command)

end

abbrev Word := List Piece

instance : Inhabited Command := ⟨.simple 0 [] [] []⟩

/-- The body of a here-document. -/
inductive Document where
  /-- Stands for itself. -/
  | literal (t : Text)
  | expanded (w : Word)

/-- All arguments, each one for itself. -/
def Word.allArguments : Word :=
  [.mark, .parameter ['@'] .keep false [], .mark]

namespace Name

def canBegin (c : Char) : Bool :=
  c.isAlpha || c == '_'

def canContain (c : Char) : Bool :=
  c.isAlphanum || c == '_'

/-- Whether a text is a name. -/
def isGood (t : Text) : Bool :=
  match t with
  | [] => false
  | c :: rest => canBegin c && rest.all canContain

/-- Whether a character is the name of a special parameter. -/
def isSpecial (c : Char) : Bool :=
  c == '*' || c == '@' || c == '#' || c == '?' || c == '-' || c == '$' || c == '!' || c.isDigit

/-- The name in front of an equals sign. -/
def assigned? (t : Text) : Option Text :=
  let name := t.takeWhile canContain
  if isGood name ∧ (t.drop name.length).head? = some '=' then some name else none

end Name

/-- The commands of which a failure ends a script. -/
def specialCommands : List Text :=
  [[':'], ['.'], "break".toList, "continue".toList, "eval".toList, "exec".toList, "exit".toList,
   "export".toList, "local".toList, "readonly".toList, "return".toList, "set".toList, "shift".toList,
   "times".toList, "trap".toList, "unset".toList]

def Word.isAssignment : Word → Bool
  | .plain t :: _ => (Name.assigned? t).isSome
  | _ => false

/-- The characters of a word, without the quotes. -/
def Word.literalText (w : Word) : Text :=
  w.flatMap fun
    | .plain t => t
    | .quoted t => t
    | .escaped t => t
    | _ => []

end AsmExplorer.Shell
