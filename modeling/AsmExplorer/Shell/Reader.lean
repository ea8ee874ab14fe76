import AsmExplorer.Shell.Token

/-!
# Reading scripts

A reader for the command language, which reads one whole command after the other. Here-documents are
met before their bodies, which follow the line: they wait in the state until the line ends.
-/

namespace AsmExplorer.Shell

/-- What surrounds the pieces of a word that are being read. -/
inductive Surrounding where
  | word
  /-- Double quotes, perhaps inside of braces. -/
  | quotes (inBraces : Bool)
  /-- The braces of a parameter. -/
  | braces
  /-- The braces of a parameter that is inside of double quotes. -/
  | quotedBraces
  /-- The two parentheses of an arithmetic expression. -/
  | sum
  | document
  deriving DecidableEq, Repr

namespace Surrounding

/-- Whether a character ends a word. -/
def endsWord (c : Char) : Bool :=
  c == ' ' || c == '\t' || c == '\n' || c == ';' || c == '&' || c == '|' || c == '(' || c == ')' ||
    c == '<' || c == '>'

/-- Whether pieces are read as between double quotes. -/
def isQuoted : Surrounding → Bool
  | .word => false
  | .braces => false
  | _ => true

/-- Whether a backslash in front of a character goes away. -/
def dropsBackslash (u : Surrounding) (inDocument : Bool) (c : Char) : Bool :=
  !u.isQuoted || c == '\\' || c == '\x60' || c == '$' ||
    (c == '"' && !(inDocument && (u == .document || u == .sum))) ||
    (c == '\x7d' && (u == .quotedBraces || u == .quotes true))

/-- Whether a character has no meaning of its own. -/
def isPlain (u : Surrounding) (c : Char) : Bool :=
  !(c == '\\' || c == '$' || c == '\x60' || c == '\n') &&
    match u with
    | .word => !(endsWord c || c == '\'' || c == '"')
    | .quotes _ => c != '"'
    | .braces => c != '\'' && c != '"' && c != '\x7d'
    | .quotedBraces => c != '"' && c != '\x7d'
    | .sum => c != '(' && c != ')'
    | .document => true

end Surrounding

def addCharacters (isQuoted : Bool) (t : Text) (reversed : List Piece) : List Piece :=
  match isQuoted, reversed with
  | true, .quoted before :: more => .quoted (before ++ t) :: more
  | true, more => .quoted t :: more
  | false, .plain before :: more => .plain (before ++ t) :: more
  | false, more => .plain t :: more

def Word.hasQuotes (w : Word) : Bool :=
  w.any fun
    | .mark => true
    | .escaped _ => true
    | _ => false

/-- The commands in order as one. -/
def Command.after (first : Option Command) (second : Command) : Command :=
  match first with
  | some c => .sequence c second
  | none => second

/-- A command that is not waited for. -/
def Command.inBackground : Command → Command
  | .pipeline parts _ => .pipeline parts true
  | .redirected _ body redirects => .background body redirects
  | c => .background c []

def Command.withRedirects (line : Nat) (redirects : List Redirect) : Command → Command
  | .subshell l body _ => .subshell l body redirects
  | c => if redirects.isEmpty then c else .redirected line c redirects

namespace Reader

/-- What is said about pieces that do not end. -/
def unended (u : Surrounding) (inDocument : Bool) : Text :=
  match u with
  | .sum => "Missing '))'".toList
  | .quotes true => if inDocument then "Missing '\x7d'".toList else "Unterminated quoted string".toList
  | .quotedBraces =>
    if inDocument then "Missing '\x7d'".toList else "Unterminated quoted string".toList
  | .braces => "Missing '\x7d'".toList
  | _ => "Unterminated quoted string".toList

/-- Takes the line that ends a here-document, and tells whether it comes next. -/
def takesDelimiter (p : Pending) : Reader Bool := do
  let s ← get
  let line := if p.dropTabs then s.rest.dropWhile (· = '\t') else s.rest
  match p.delimiter.isPrefixOf? line with
  | some [] =>
    setRest []
    noteEnd
    return true
  | some ('\n' :: rest) =>
    setRest rest
    countLine
    return true
  | _ =>
    setRest line
    return false

/-- The text up to a single quote. -/
def singleQuoted (inDocument : Bool) : Reader Text := do
  let s ← get
  let t := s.rest.takeWhile (· ≠ '\'')
  match s.rest.drop t.length with
  | _ :: rest =>
    set { s with rest := rest, line := s.line + t.count '\n' }
    return t
  | [] =>
    set { s with rest := [], line := s.line + t.count '\n', hasEnded := true }
    fail (if inDocument then "Missing '\x7d'".toList else "Unterminated quoted string".toList)

/-- The text between backquotes, freed of the backslashes that belong to them, the characters read
before coming in reverse. -/
def backquoted (inQuotes : Bool) (reversed : Text) : Text → Nat → Option (Text × Text × Nat)
  | [], _ => none
  | '\x60' :: rest, lines => some (reversed.reverse, rest, lines)
  | '\\' :: '\n' :: rest, lines => backquoted inQuotes reversed rest (lines + 1)
  | '\\' :: c :: rest, lines =>
    if c = '\\' ∨ c = '\x60' ∨ c = '$' ∨ (inQuotes ∧ c = '"') then
      backquoted inQuotes (c :: reversed) rest lines
    else backquoted inQuotes (c :: '\\' :: reversed) rest lines
  | c :: rest, lines => backquoted inQuotes (c :: reversed) rest (if c = '\n' then lines + 1 else lines)

/-- What comes behind the name of a parameter in braces: what is to be done, whether an empty value
counts as none, and how many characters of the text say so. -/
def changeOf (t : Text) : Change × Bool × Nat :=
  let simple? (c : Char) : Option Change :=
    match c with
    | '-' => some .fallback
    | '+' => some .alternative
    | '?' => some .require
    | '=' => some .assign
    | _ => none
  match t with
  | '%' :: '%' :: _ => (.trim true true, false, 2)
  | '%' :: _ => (.trim true false, false, 1)
  | '#' :: '#' :: _ => (.trim false true, false, 2)
  | '#' :: _ => (.trim false false, false, 1)
  | ':' :: c :: _ =>
    match simple? c with
    | some change => (change, true, 2)
    | none => (.unknown, true, 2)
  | c :: _ =>
    match simple? c with
    | some change => (change, false, 1)
    | none => (.unknown, false, 1)
  | [] => (.unknown, false, 0)

/-- Takes so many characters, joined lines not counted. -/
def drop : Nat → Reader Unit
  | 0 => pure ()
  | n + 1 => do
    let t ← peek
    setRest (t.drop 1)
    drop n

/-- The characters that come next, of which some decide what is read, without joined lines. -/
def ahead (t : Text) : Text :=
  let rec go : Nat → Text → Text
    | 0, _ => []
    | n + 1, t =>
      match (skipJoined 0 t).2 with
      | c :: rest => c :: go n rest
      | [] => []
  go 3 t

/-- Takes the head of a parameter in braces: its name, what is to be done with its value, whether an
empty value counts as none, and whether a word follows. -/
def parameterHead : Reader (Text × Change × Bool × Bool) := do
  let t ← peek
  let behindName (name : Text) : Reader (Text × Change × Bool × Bool) := do
    let t ← peek
    if t.head? = some '\x7d' then
      setRest (t.drop 1)
      return (name, .keep, false, false)
    else
      let (change, orEmpty, count) := changeOf (ahead t)
      drop count
      return (name, change, orEmpty, true)
  let takeName : Reader Text := do
    let s ← get
    let (name, rest, lines) := nameRun 0 s.rest
    set { s with rest := rest, line := s.line + lines }
    return name
  let takeDigits : Reader Text := do
    let s ← get
    let digits := s.rest.takeWhile Char.isDigit
    setRest (s.rest.drop digits.length)
    return digits
  let lengthOf (name : Text) : Reader (Text × Change × Bool × Bool) := do
    let t ← peek
    return (name, if t.head? = some '\x7d' then .length else .unknown, false, true)
  match ahead t with
  | [] => return ([], .unknown, false, true)
  | '\x7d' :: _ => return ([], .unknown, false, true)
  | '#' :: '\x7d' :: _ =>
    drop 2
    return (['#'], .keep, false, false)
  | '#' :: c :: more =>
    if Name.canBegin c then
      drop 1
      lengthOf (← takeName)
    else if c.isDigit then
      drop 1
      lengthOf (← takeDigits)
    else if more.head? = some '\x7d' then
      drop 2
      if Name.isSpecial c then return ([c], .length, false, true)
      else return ([], .unknown, false, true)
    else
      drop 1
      behindName ['#']
  | c :: _ =>
    if Name.canBegin c then behindName (← takeName)
    else if c.isDigit then behindName (← takeDigits)
    else
      drop 1
      if Name.isSpecial c then behindName [c] else return ([], .unknown, false, true)

/-- Takes an operator of redirection behind its first character. -/
def arrow (isOutput : Bool) : Reader Arrow := do
  let t := ahead (← peek)
  match isOutput, t with
  | true, '>' :: _ =>
    drop 1
    return .file .append
  | true, '|' :: _ =>
    drop 1
    return .file .overwrite
  | true, '&' :: _ =>
    drop 1
    return .copy
  | true, _ => return .file .output
  | false, '<' :: '-' :: _ =>
    drop 2
    return .document true
  | false, '<' :: _ =>
    drop 1
    return .document false
  | false, '&' :: _ =>
    drop 1
    return .copy
  | false, '>' :: _ =>
    drop 1
    return .file .both
  | false, _ => return .file .input

/-- The redirection operator that comes next, if it does so directly behind the pieces. -/
def redirect? (w : Word) : Reader (Option Token) := do
  let t ← peek
  let stream : Option (Option Nat) := match w with
    | [] => some none
    | [.plain [c]] => if c.isDigit then some (some (c.toNat - '0'.toNat)) else none
    | _ => none
  match stream, t with
  | some stream, '<' :: rest =>
    setRest rest
    return some (.redirect (stream.getD 0) (← arrow false))
  | some stream, '>' :: rest =>
    setRest rest
    return some (.redirect (stream.getD 1) (← arrow true))
  | _, _ => return none

def operator? : Reader (Option Token) := do
  let t ← peek
  let twice (c : Char) (rest : Text) (double single : Token) : Reader (Option Token) := do
    setRest rest
    let t ← peek
    if t.head? = some c then
      setRest (t.drop 1)
      return some double
    else return some single
  match t with
  | [] =>
    noteEnd
    return some .endOfInput
  | '\n' :: rest =>
    setRest rest
    countLine
    return some .newline
  | '&' :: rest => twice '&' rest .andIf .ampersand
  | '|' :: rest => twice '|' rest .orIf .bar
  | ';' :: rest => twice ';' rest .endCase .semicolon
  | '(' :: rest =>
    setRest rest
    return some .openParen
  | ')' :: rest =>
    setRest rest
    return some .closeParen
  | _ => return none

/-- The alias that a word is, unless its text is being read. -/
def alias? (t : Text) : Reader (Option Text) := do
  let s ← get
  if s.aliasUses.any fun u => u.name == t then return none else return s.aliases.lookup t

/-- Puts the text of an alias in front of what comes next. -/
def useAlias (name value : Text) : Reader Unit :=
  modify fun s =>
    if value.isEmpty then s
    else
      let last := value.getLast?
      { s with
        rest := value ++ s.rest
        aliasUses :=
          { name := name, behind := s.rest.length, endsInBlank := last == some ' ' || last == some '\t' } ::
            s.aliasUses }

/-- Lets a here-document wait for its body, and gives its number. -/
def awaitDocument (delimiter : Text) (isLiteral dropTabs : Bool) : Reader Nat := do
  let s ← get
  set { s with
    pending := s.pending ++ [Pending.mk s.nextDocument delimiter isLiteral dropTabs]
    nextDocument := s.nextDocument + 1 }
  return s.nextDocument

def keepDocument (number : Nat) (d : Document) : Reader Unit :=
  modify fun s => { s with documents := (number, d) :: s.documents }

/-- The lines of a here-document that stands for itself; those read before come in reverse. -/
def literalLines (p : Pending) (reversed : List Text) : Nat → Reader Text
  | 0 => fail []
  | n + 1 => do
    if ← takesDelimiter p then return reversed.reverse.flatten
    let s ← get
    let line := s.rest.takeWhile (· ≠ '\n')
    match s.rest.drop line.length with
    | _ :: rest =>
      set { s with rest := rest, line := s.line + 1 }
      literalLines p ((line ++ ['\n']) :: reversed) n
    | [] =>
      set { s with rest := [], hasEnded := true }
      return (line :: reversed).reverse.flatten

/-- What is said about the variable of a loop that has no good name. -/
def badVariable : Text := "Bad for loop variable".toList

/-- The redirection that an operator and a word make. -/
def redirection (stream : Nat) (w : Word) (hasQuotes : Bool) : Arrow → Reader Redirect
  | .file d => return .file stream d w
  | .document dropTabs => return .document stream (← awaitDocument w.literalText hasQuotes dropTabs)
  | .copy =>
    match w with
    | [.plain ['-']] => return .copy stream none
    | [.plain [c]] =>
      if c.isDigit then return .copy stream (some (c.toNat - '0'.toNat)) else return .copyNamed stream w
    | w => return .copyNamed stream w

mutual

/-- Reads pieces, the ones read before in reverse. Inside of braces that are quoted, a second pair of
quotes may be open. -/
def pieces (u : Surrounding) (d : Option Pending) (isOpen : Bool) (reversed : List Piece) :
    Nat → Reader Word
  | 0 => fail []
  | n + 1 => do
    let t ← peek
    match t with
    | [] =>
      noteEnd
      match u with
      | .word => return reversed.reverse
      | .document => return reversed.reverse
      | u => fail (unended u d.isSome)
    | '\n' :: rest =>
      if u = .word then return reversed.reverse
      else
        setRest rest
        countLine
        let reversed := addCharacters u.isQuoted ['\n'] reversed
        match d with
        | none => pieces u d isOpen reversed n
        | some p =>
          if ← takesDelimiter p then
            if u = .document then return reversed.reverse else fail (unended u true)
          else pieces u d isOpen reversed n
    | '\\' :: [] =>
      setRest []
      noteEnd
      pieces u d isOpen (.escaped ['\\'] :: reversed) n
    | '\\' :: c :: rest =>
      setRest rest
      pieces u d isOpen
        (.escaped (if u.dropsBackslash d.isSome c then [c] else ['\\', c]) :: reversed) n
    | '$' :: rest =>
      setRest rest
      match ← dollar u d n with
      | some piece => pieces u d isOpen (piece :: reversed) n
      | none => pieces u d isOpen (addCharacters u.isQuoted ['$'] reversed) n
    | '\x60' :: rest =>
      setRest rest
      if (← get).isDelimiter then pieces u d isOpen (addCharacters u.isQuoted ['\x60'] reversed) n
      else
        let piece ← backquote u.isQuoted n
        pieces u d isOpen (piece :: reversed) n
    | c :: rest =>
      if u.isPlain c then
        let run := t.takeWhile u.isPlain
        setRest (t.drop run.length)
        pieces u d isOpen (addCharacters u.isQuoted run reversed) n
      else
        let marks : List Piece := if d.isSome then [] else [.mark]
        match u with
        | .word =>
          if Surrounding.endsWord c then return reversed.reverse
          else if c = '"' then
            setRest rest
            let inner ← pieces (.quotes false) d false [] n
            pieces u d isOpen (marks ++ inner.reverse ++ marks ++ reversed) n
          else
            setRest rest
            let inner ← singleQuoted d.isSome
            pieces u d isOpen (marks ++ .quoted inner :: marks ++ reversed) n
        | .quotes _ =>
          setRest rest
          return reversed.reverse
        | .braces =>
          setRest rest
          if c = '\x7d' then return reversed.reverse
          else if c = '"' then
            let inner ← pieces (.quotes true) d false [] n
            pieces u d isOpen (marks ++ inner.reverse ++ marks ++ reversed) n
          else
            let inner ← singleQuoted d.isSome
            if d.isSome then pieces u d isOpen (.plain inner :: reversed) n
            else pieces u d isOpen (.mark :: .quoted inner :: .mark :: reversed) n
        | .quotedBraces =>
          setRest rest
          if c = '"' then pieces u d (!isOpen) (marks ++ reversed) n
          else if isOpen then pieces u d isOpen (addCharacters true [c] reversed) n
          else return reversed.reverse
        | .sum =>
          setRest rest
          if c = '(' then
            let inner ← pieces .sum d true [] n
            pieces u d isOpen
              (addCharacters true [')'] (inner.reverse ++ addCharacters true ['('] reversed)) n
          else if isOpen then return reversed.reverse
          else
            let t ← peek
            if t.head? = some ')' then
              setRest (t.drop 1)
              return reversed.reverse
            else pieces u d isOpen (addCharacters true [')'] reversed) n
        | .document =>
          setRest rest
          pieces u d isOpen (addCharacters true [c] reversed) n
termination_by structural fuel => fuel

/-- Reads what a dollar sign begins, unless it stands for itself. -/
def dollar (u : Surrounding) (d : Option Pending) : Nat → Reader (Option Piece)
  | 0 => fail []
  | n + 1 => do
    if (← get).isDelimiter then return none
    let t ← peek
    match t with
    | [] => return none
    | '(' :: rest =>
      setRest rest
      let t ← peek
      if t.head? = some '(' then
        setRest (t.drop 1)
        return some (.arithmetic (← pieces .sum d false [] n))
      else return some (.substitution (← enclosed n))
    | '\x7b' :: rest =>
      setRest rest
      let (name, change, orEmpty, hasWord) ← parameterHead
      if !hasWord then return some (.parameter name change orEmpty [])
      else
        let isTrim := match change with
          | .trim .. => true
          | _ => false
        let inner : Surrounding := if u.isQuoted && !isTrim then .quotedBraces else .braces
        return some (.parameter name change orEmpty (← pieces inner d false [] n))
    | c :: rest =>
      if Name.canBegin c then
        let (name, rest, lines) := nameRun 0 t
        modify fun s => { s with rest := rest, line := s.line + lines }
        return some (.parameter name .keep false [])
      else if Name.isSpecial c then
        setRest rest
        return some (.parameter [c] .keep false [])
      else return none
termination_by structural fuel => fuel

/-- Reads the commands of a substitution in parentheses. -/
def enclosed : Nat → Reader (Option Command)
  | 0 => fail []
  | n + 1 => do
    let s ← get
    set { s with pending := [], isPushedBack := false }
    let body ← list false true none n
    match ← next false false false n with
    | .closeParen => pure ()
    | _ => expecting .closeParen
    for p in (← get).pending do
      keepDocument p.number (.literal [])
    modify fun t => { t with pending := s.pending }
    return body
termination_by structural fuel => fuel

/-- Reads the commands of a substitution in backquotes. -/
def backquote (inQuotes : Bool) : Nat → Reader Piece
  | 0 => fail []
  | n + 1 => do
    let s ← get
    match backquoted inQuotes [] s.rest 0 with
    | none =>
      set { s with rest := [], line := s.line + s.rest.count '\n', hasEnded := true }
      fail "EOF in backquote substitution".toList
    | some (t, rest, lines) =>
      set { s with rest := t, line := 1, pending := [], isPushedBack := false, aliasUses := [] }
      let body ← list false true none n
      modify fun inner =>
        { s with
          rest := rest
          line := s.line + lines
          isPushedBack := false
          documents := inner.documents
          nextDocument := inner.nextDocument }
      return .substitution body
termination_by structural fuel => fuel

/-- Reads the bodies of the here-documents that wait. -/
def documents : Nat → Reader Unit
  | 0 => fail []
  | n + 1 => do
    match (← get).pending with
    | [] => pure ()
    | p :: others =>
      modify fun s => { s with pending := others }
      if p.isLiteral then keepDocument p.number (.literal (← literalLines p [] n))
      else if ← takesDelimiter p then keepDocument p.number (.expanded [])
      else keepDocument p.number (.expanded (← pieces .document (some p) false [] n))
      documents n
termination_by structural fuel => fuel

def token : Nat → Reader Token
  | 0 => fail []
  | n + 1 => do
    modify fun s =>
      let (lines, rest) := skipBlanks 0 s.rest
      { s with rest := rest, line := s.line + lines }
    leaveAliases
    match ← operator? with
    | some t => return t
    | none =>
      let w ← pieces .word none false [] n
      match ← redirect? w with
      | some t => return t
      | none => return .word w w.hasQuotes
termination_by structural fuel => fuel

/-- Reads the next token, behind newlines if asked for. A word without quotes may be a keyword or an
alias. -/
def next (newlines keywords aliases : Bool) : Nat → Reader Token
  | 0 => fail []
  | n + 1 => do
    let s ← get
    let t ← if s.isPushedBack then do
        modify fun s => { s with isPushedBack := false }
        pure s.last
      else token n
    modify fun s => { s with last := t }
    match t with
    | .newline =>
      if newlines then
        documents n
        next newlines keywords aliases n
      else
        modify fun s => { s with expectsAlias := false }
        return t
    | .word [.plain text] false =>
      let s ← get
      modify fun s => { s with expectsAlias := false }
      match if keywords then Keyword.ofText? text else none with
      | some k =>
        modify fun s => { s with last := .keyword k }
        return .keyword k
      | none =>
        if aliases || s.expectsAlias then
          match ← alias? text with
          | some value =>
            useAlias text value
            next newlines keywords true n
          | none => return t
        else return t
    | t =>
      modify fun s => { s with expectsAlias := false }
      return t
termination_by structural fuel => fuel

/-- Reads commands, behind the ones that are there already: all up to what cannot begin one, or those
of one line. Only if asked for there may be none. -/
def list (isLine mayBeEmpty : Bool) (before : Option Command) : Nat → Reader (Option Command)
  | 0 => fail []
  | n + 1 => do
    match ← next (!isLine) true true n with
    | .newline =>
      documents n
      return before
    | .endOfInput =>
      documents n
      pushBack
      return before
    | t =>
      pushBack
      if !isLine && mayBeEmpty && t.endsList then return before
      let c ← chain (← pipeline n) n
      let t ← next false false false n
      let c := match t with
        | .ampersand => c.inBackground
        | _ => c
      let all := some (Command.after before c)
      match t with
      | .endOfInput =>
        documents n
        pushBack
        return all
      | .newline =>
        pushBack
        list isLine true all n
      | .ampersand => list isLine true all n
      | .semicolon => list isLine true all n
      | _ =>
        if isLine then unexpected
        else
          pushBack
          return all
termination_by structural fuel => fuel

/-- Reads commands joined by conditions, behind the first one. -/
def chain (first : Command) : Nat → Reader Command
  | 0 => fail []
  | n + 1 => do
    match ← next false false false n with
    | .andIf =>
      let _ ← next true true true n
      pushBack
      chain (.both first (← pipeline n)) n
    | .orIf =>
      let _ ← next true true true n
      pushBack
      chain (.either first (← pipeline n)) n
    | _ =>
      pushBack
      return first
termination_by structural fuel => fuel

/-- Reads commands joined by bars. -/
def pipeline : Nat → Reader Command
  | 0 => fail []
  | n + 1 => do
    let isNegated ← do
      match ← next false false false n with
      | .keyword .bang =>
        let _ ← next false true true n
        pushBack
        pure true
      | _ =>
        pushBack
        pure false
    let first ← command n
    let parts ← pipelineParts [first] n
    let c := match parts with
      | [c] => c
      | parts => Command.pipeline parts false
    return if isNegated then .negation c else c
termination_by structural fuel => fuel

/-- Reads the commands behind bars; those read before come in reverse. -/
def pipelineParts (reversed : List Command) : Nat → Reader (List Command)
  | 0 => fail []
  | n + 1 => do
    match ← next false false false n with
    | .bar =>
      let line := (← get).line
      let _ ← next true true true n
      pushBack
      let c ← commandAt line n
      pipelineParts (c :: reversed) n
    | _ =>
      pushBack
      return reversed.reverse
termination_by structural fuel => fuel

def command : Nat → Reader Command
  | 0 => fail []
  | n + 1 => do commandAt (← get).line n
termination_by structural fuel => fuel

/-- Reads a command that is said to begin on a line. -/
def commandAt (line : Nat) : Nat → Reader Command
  | 0 => fail []
  | n + 1 => do
    let compound (c : Command) (last : Token) : Reader Command := do
      match last, ← next false false false n with
      | .closeParen, .closeParen => pure ()
      | .keyword k, .keyword l => if k = l then pure () else expecting last
      | _, _ => expecting last
      return c.withRedirects line (← redirects true [] n)
    match ← next false false false n with
    | .keyword .ifWord =>
      let c ← branches n
      compound c (.keyword .fiWord)
    | .keyword .whileWord =>
      let c ← loop true n
      compound c (.keyword .doneWord)
    | .keyword .untilWord =>
      let c ← loop false n
      compound c (.keyword .doneWord)
    | .keyword .forWord =>
      let c ← each line n
      compound c (.keyword .doneWord)
    | .keyword .caseWord =>
      let word ← match ← next false false false n with
        | .word w _ => pure w
        | _ => expecting (.word [] false)
      match ← next true true true n with
      | .keyword .inWord => pure ()
      | _ => expecting (.keyword .inWord)
      let cases ← caseList [] n
      return (Command.choose line word cases).withRedirects line (← redirects true [] n)
    | .openParen =>
      let body ← list false false none n
      compound (.subshell line (body.getD default) []) .closeParen
    | .keyword .openBrace =>
      let body ← list false false none n
      compound (body.getD default) (.keyword .closeBrace)
    | .word .. =>
      pushBack
      simple (← get).line [] [] [] n
    | .redirect .. =>
      pushBack
      simple (← get).line [] [] [] n
    | _ => unexpected
termination_by structural fuel => fuel

/-- Reads the branches of a condition, behind its first keyword. -/
def branches : Nat → Reader Command
  | 0 => fail []
  | n + 1 => do
    let test ← list false false none n
    match ← next false false false n with
    | .keyword .thenWord => pure ()
    | _ => expecting (.keyword .thenWord)
    let yes ← list false false none n
    match ← next false false false n with
    | .keyword .elifWord =>
      let no ← branches n
      return .branch (test.getD default) (yes.getD default) (some no)
    | .keyword .elseWord =>
      let no ← list false false none n
      return .branch (test.getD default) (yes.getD default) no
    | _ =>
      pushBack
      return .branch (test.getD default) (yes.getD default) none
termination_by structural fuel => fuel

/-- Reads a loop, behind its keyword and up to the one that ends it. -/
def loop (success : Bool) : Nat → Reader Command
  | 0 => fail []
  | n + 1 => do
    let test ← list false false none n
    match ← next false false false n with
    | .keyword .doWord => pure ()
    | _ => expecting (.keyword .doWord)
    let body ← list false false none n
    return .loop success (test.getD default) (body.getD default)
termination_by structural fuel => fuel

/-- Reads a loop over words, behind its keyword and up to the one that ends it. -/
def each (line : Nat) : Nat → Reader Command
  | 0 => fail []
  | n + 1 => do
    let name ← match ← next false false false n with
      | .word [.plain t] false => if Name.isGood t then pure t else fail badVariable
      | _ => fail badVariable
    let words ← match ← next true true true n with
      | .keyword .inWord =>
        let ws ← words [] n
        match (← get).last with
        | .newline => pure ()
        | .semicolon => pure ()
        | _ => unexpected
        pure ws
      | .semicolon => pure [Word.allArguments]
      | _ =>
        pushBack
        pure [Word.allArguments]
    match ← next true true true n with
    | .keyword .doWord => pure ()
    | _ => expecting (.keyword .doWord)
    let body ← list false false none n
    return .each line name words (body.getD default)
termination_by structural fuel => fuel

/-- Reads words; those read before come in reverse. -/
def words (reversed : List Word) : Nat → Reader (List Word)
  | 0 => fail []
  | n + 1 => do
    match ← next false false false n with
    | .word w _ => words (w :: reversed) n
    | _ => return reversed.reverse
termination_by structural fuel => fuel

/-- Reads the cases of a choice; those read before come in reverse. -/
def caseList (reversed : List (List Word × Option Command)) :
    Nat → Reader (List (List Word × Option Command))
  | 0 => fail []
  | n + 1 => do
    let t ← next true true false n
    match t with
    | .keyword .esacWord => return reversed.reverse
    | _ =>
      let t ← match t with
        | .openParen => next false false false n
        | t => pure t
      let patterns ← patternList [t.toWord] n
      let body ← list false true none n
      let one := (patterns, body)
      match ← next true true false n with
      | .keyword .esacWord => return (one :: reversed).reverse
      | .endCase => caseList (one :: reversed) n
      | _ => expecting .endCase
termination_by structural fuel => fuel

/-- Reads the patterns of a case up to the parenthesis; those read before come in reverse. -/
def patternList (reversed : List Word) : Nat → Reader (List Word)
  | 0 => fail []
  | n + 1 => do
    match ← next false false false n with
    | .bar =>
      let t ← next false false false n
      patternList (t.toWord :: reversed) n
    | .closeParen => return reversed.reverse
    | _ => expecting .closeParen
termination_by structural fuel => fuel

/-- Reads redirections; those read before come in reverse. In front of the first token that is none a
keyword may stand. -/
def redirects (isFirst : Bool) (reversed : List Redirect) : Nat → Reader (List Redirect)
  | 0 => fail []
  | n + 1 => do
    match ← next false isFirst isFirst n with
    | .redirect stream arrow =>
      let r ← target stream arrow n
      redirects false (r :: reversed) n
    | _ =>
      pushBack
      return reversed.reverse
termination_by structural fuel => fuel

/-- Reads what a redirection leads to. -/
def target (stream : Nat) (arrow : Arrow) : Nat → Reader Redirect
  | 0 => fail []
  | n + 1 => do
    match arrow with
    | .document _ => modify fun s => { s with isDelimiter := true }
    | _ => pure ()
    let t ← next false false false n
    modify fun s => { s with isDelimiter := false }
    match t with
    | .word w hasQuotes => redirection stream w hasQuotes arrow
    | _ => unexpected
termination_by structural fuel => fuel

/-- Reads a simple command or the definition of a function, the words and redirections read before
coming in reverse. -/
def simple (line : Nat) (assignments words : List Word) (redirects : List Redirect) :
    Nat → Reader Command
  | 0 => fail []
  | n + 1 => do
    match ← next false false words.isEmpty n with
    | .word w _ =>
      if words.isEmpty && w.isAssignment then simple line (w :: assignments) words redirects n
      else simple line assignments (w :: words) redirects n
    | .redirect stream arrow =>
      let r ← target stream arrow n
      simple line assignments words (r :: redirects) n
    | .openParen =>
      match words, assignments, redirects with
      | [name], [], [] =>
        match ← next false false false n with
        | .closeParen => pure ()
        | _ => expecting .closeParen
        let t := match name with
          | [.plain t] => t
          | _ => []
        if !Name.isGood t || specialCommands.contains t then fail "Bad function name".toList
        else
          let line := (← get).line
          let _ ← next true true true n
          pushBack
          return .define line t (← commandAt line n)
      | _, _, _ =>
        pushBack
        return .simple line assignments.reverse words.reverse redirects.reverse
    | _ =>
      pushBack
      return .simple line assignments.reverse words.reverse redirects.reverse
termination_by structural fuel => fuel

end

/-- More tokens and pieces than any script has. -/
def limit : Nat := Nat.pow 2 60

/-- The word that a text spells in which everything but expansions stands for itself. -/
def expandable (t : Text) : Word :=
  match pieces .document none false [] limit { rest := t } with
  | .ok (w, _) => w
  | .error _ => [.quoted t]

end Reader

/-- What comes next in a script. -/
inductive Portion where
  /-- A command, or an empty line. -/
  | command (c : Option Command) (s : Reading)
  | finished
  | failed (fault : SyntaxFault)

/-- Reads the next command of a script, up to the end of its line. -/
def Reading.portion (s : Reading) : Portion :=
  match Reader.list true false none Reader.limit { s with isPushedBack := false, pending := [] } with
  | .error fault => .failed fault
  | .ok (none, t) =>
    match t.last with
    | .endOfInput => .finished
    | _ => .command none t
  | .ok (some c, t) => .command (some c) t

end AsmExplorer.Shell
