import AsmExplorer.Text.Scan

/-!
# Labels and comments

The lines that define a label, in two forms. A plain label is a symbol with a colon that no second
colon follows; code may stand behind it. A free label, such as a demangled function name, starts at
the first column and ends at the first colon behind which only blanks or a comment stand. A line
that is nothing but a comment is told apart here too.
-/

namespace AsmExplorer.Assembly

def isSymbolStart (c : Char) : Bool :=
  isAsciiLetter c || c == '.' || c == '_' || c == '$'

/-- The characters that go on a symbol in code. -/
def isSymbolChar (c : Char) : Bool :=
  isWord c || c == '$' || c == '.'

/-- The characters that go on a symbol that is defined: those of code and the at sign. -/
def isLabelChar (c : Char) : Bool :=
  isSymbolChar c || c == '@'

def isCommentSign (c : Char) : Bool :=
  c == '#' || c == ';' || c == '@'

/-- The label that a line defines by a symbol and a single colon. -/
def plainLabel? (line : Text) : Option Text :=
  match Scan.blanks line with
  | [] => none
  | c :: rest =>
    if isSymbolStart c then
      match rest.dropWhile isLabelChar with
      | [':'] => some (c :: rest.takeWhile isLabelChar)
      | ':' :: d :: _ => if d = ':' then none else some (c :: rest.takeWhile isLabelChar)
      | _ => none
    else none

/-- Whether only blanks or a comment stand here. -/
def isIdleTail (t : Text) : Bool :=
  match Scan.blanks t with
  | [] => true
  | c :: _ => isCommentSign c

/-- The text up to the first colon with an idle tail. -/
def uptoIdleColon? : Text → Option Text
  | [] => none
  | c :: rest =>
    if c = ':' ∧ isIdleTail rest then some []
    else (uptoIdleColon? rest).map (c :: ·)

/-- The label that a line defines by any text from its first column on. -/
def freeLabel? : Text → Option Text
  | [] => none
  | c :: rest =>
    if isBlank c || isCommentSign c then none else (uptoIdleColon? rest).map (c :: ·)

def label? (line : Text) : Option Text :=
  (plainLabel? line).or (freeLabel? line)

/-- Whether a line is nothing but a comment. A comment between `/*` and `*/` has to end the line. -/
def isComment (line : Text) : Bool :=
  match Scan.blanks line with
  | '/' :: '/' :: _ => true
  | '/' :: '*' :: rest => "*/".toList.isSuffixOf rest
  | c :: _ => isCommentSign c
  | [] => false

/-- The symbols in a text, from left to right; each is as long as it can be. -/
def symbols : Text → List Text
  | [] => []
  | c :: rest =>
    if isSymbolStart c then (c :: rest.takeWhile isSymbolChar) :: symbols (rest.dropWhile isSymbolChar)
    else symbols rest
termination_by t => t.length
decreasing_by
  · simp only [List.length_cons]
    have := (List.dropWhile_suffix (l := rest) isSymbolChar).length_le
    omega
  · simp

end AsmExplorer.Assembly
