import AsmExplorer.Shell.Script

/-!
# Tokens

What the command language is read as: operators, keywords, redirections and words; and how far a
script has been read.
-/

namespace AsmExplorer.Shell

/-- The words with a meaning of their own. -/
inductive Keyword where
  | bang
  | caseWord
  | doWord
  | doneWord
  | elifWord
  | elseWord
  | esacWord
  | fiWord
  | forWord
  | ifWord
  | inWord
  | thenWord
  | untilWord
  | whileWord
  | openBrace
  | closeBrace
  deriving DecidableEq, Repr

namespace Keyword

def table : List (Text × Keyword) :=
  [(['!'], .bang), ("case".toList, .caseWord), ("do".toList, .doWord), ("done".toList, .doneWord),
   ("elif".toList, .elifWord), ("else".toList, .elseWord), ("esac".toList, .esacWord),
   ("fi".toList, .fiWord), ("for".toList, .forWord), ("if".toList, .ifWord),
   ("in".toList, .inWord), ("then".toList, .thenWord), ("until".toList, .untilWord),
   ("while".toList, .whileWord), (['\x7b'], .openBrace), (['\x7d'], .closeBrace)]

def ofText? (t : Text) : Option Keyword :=
  table.lookup t

def text (k : Keyword) : Text :=
  ((table.find? fun entry => entry.2 == k).map Prod.fst).getD []

/-- Whether a keyword ends the commands in front of it. -/
def endsList : Keyword → Bool
  | .doWord | .doneWord | .elifWord | .elseWord | .esacWord | .fiWord | .thenWord
  | .closeBrace => true
  | _ => false

end Keyword

/-- What an operator of redirection asks for. -/
inductive Arrow where
  | file (d : Direction)
  | copy
  | document (dropTabs : Bool)
  deriving DecidableEq, Repr

inductive Token where
  | endOfInput
  | newline
  | semicolon
  | ampersand
  | andIf
  | orIf
  | bar
  | openParen
  | closeParen
  | endCase
  | redirect (stream : Nat) (arrow : Arrow)
  | word (w : Word) (hasQuotes : Bool)
  | keyword (k : Keyword)

namespace Token

/-- What a token is called in messages. -/
def name : Token → Text
  | .endOfInput => "end of file".toList
  | .newline => "newline".toList
  | .semicolon => "\";\"".toList
  | .ampersand => "\"&\"".toList
  | .andIf => "\"&&\"".toList
  | .orIf => "\"||\"".toList
  | .bar => "\"|\"".toList
  | .openParen => "\"(\"".toList
  | .closeParen => "\")\"".toList
  | .endCase => "\";;\"".toList
  | .redirect .. => "redirection".toList
  | .word .. => "word".toList
  | .keyword k => '"' :: k.text ++ ['"']

/-- Whether a token ends the commands in front of it. -/
def endsList : Token → Bool
  | .endOfInput | .closeParen | .endCase => true
  | .keyword k => k.endsList
  | _ => false

def toWord : Token → Word
  | .word w _ => w
  | .keyword k => [.plain k.text]
  | _ => []

end Token

/-- A here-document that waits for its body. -/
structure Pending where
  number : Nat
  /-- The line that ends the body. -/
  delimiter : Text
  /-- Whether the body stands for itself. -/
  isLiteral : Bool
  /-- Whether tabs in front of lines are dropped. -/
  dropTabs : Bool

/-- An alias whose text is being read. -/
structure AliasUse where
  name : Text
  /-- The number of characters behind the text. -/
  behind : Nat
  /-- Whether the text ends in a blank, so that the next word may be an alias, too. -/
  endsInBlank : Bool

/-- How far a script has been read. -/
structure Reading where
  rest : Text
  line : Nat := 1
  /-- The last token that was read. -/
  last : Token := .newline
  /-- Whether the last token is to be read again. -/
  isPushedBack : Bool := false
  pending : List Pending := []
  /-- The bodies of here-documents, the last one first. -/
  documents : List (Nat × Document) := []
  /-- The number of the next here-document. -/
  nextDocument : Nat := 0
  aliases : List (Text × Text) := []
  aliasUses : List AliasUse := []
  /-- Whether the next word may be an alias wherever it stands. -/
  expectsAlias : Bool := false
  /-- Whether a word is read that ends a here-document, in which nothing is replaced. -/
  isDelimiter : Bool := false
  /-- Whether the end of the text has been met. -/
  hasEnded : Bool := false

/-- What is wrong in a script, and on which line. -/
structure SyntaxFault where
  line : Nat
  message : Text

abbrev Reader := StateT Reading (Except SyntaxFault)

namespace Reader

variable {α : Type}

def fail (message : Text) : Reader α := fun s => .error ⟨s.line, message⟩

/-- Stops at a token that should not be there. -/
def unexpected : Reader α := fun s =>
  fail (s.last.name ++ " unexpected".toList) s

/-- Stops at a token where another one should be. -/
def expecting (t : Token) : Reader α := fun s =>
  fail (s.last.name ++ " unexpected (expecting ".toList ++ t.name ++ [')']) s

/-- A text without the joined lines in front, and how many there are. -/
def skipJoined (lines : Nat) : Text → Nat × Text
  | '\\' :: '\n' :: rest => skipJoined (lines + 1) rest
  | t => (lines, t)

/-- Skips joined lines, and shows the characters that come next. -/
def peek : Reader Text := fun s =>
  let (lines, rest) := skipJoined 0 s.rest
  .ok (rest, { s with rest := rest, line := s.line + lines })

def setRest (t : Text) : Reader Unit :=
  modify fun s => { s with rest := t }

def countLine : Reader Unit :=
  modify fun s => { s with line := s.line + 1 }

def noteEnd : Reader Unit :=
  modify fun s => { s with hasEnded := true }

/-- Lets the last token be read again. -/
def pushBack : Reader Unit :=
  modify fun s => { s with isPushedBack := true }

/-- A text without the blanks, joined lines and the comment in front, and the number of joined
lines. -/
def skipBlanks (lines : Nat) : Text → Nat × Text
  | ' ' :: rest => skipBlanks lines rest
  | '\t' :: rest => skipBlanks lines rest
  | '\\' :: '\n' :: rest => skipBlanks (lines + 1) rest
  | '#' :: rest => (lines, rest.dropWhile (· ≠ '\n'))
  | t => (lines, t)

/-- Leaves the aliases whose texts have been read. -/
def leaveAliases : Reader Unit := do
  let s ← get
  if !s.aliasUses.isEmpty then
    let n := s.rest.length
    let (finished, inUse) := s.aliasUses.partition fun u => n ≤ u.behind
    set { s with
      aliasUses := inUse
      expectsAlias := s.expectsAlias || finished.any AliasUse.endsInBlank }

/-- The name that a text begins with, which may go on behind joined lines: the name, the rest and the
number of joined lines. -/
def nameRun (lines : Nat) : Text → Text × Text × Nat
  | '\\' :: '\n' :: rest => nameRun (lines + 1) rest
  | c :: rest =>
    if Name.canContain c then
      let (name, rest, lines) := nameRun lines rest
      (c :: name, rest, lines)
    else ([], c :: rest, lines)
  | [] => ([], [], lines)

end Reader

end AsmExplorer.Shell
