import AsmExplorer.Programs.Edit.Script
import AsmExplorer.Regex.Reader
import AsmExplorer.Text.Numeral

/-!
# Reading editing scripts

A script comes in chunks, from the command line or from files, which are read one after the other; a
text to be added may begin in one chunk and go on in the next. A message tells how far the chunk has
been read.
-/

namespace AsmExplorer.Programs.Edit

/-- Why a script is refused, how much of the chunk was left then if that is told, and the files that the
commands up to there write. -/
structure Refusal where
  left : Option Nat
  message : Text
  files : List Text := []

/-- A reader: what it has read, and what is left. -/
abbrev Reader (α : Type) := Text → Except Refusal (α × Text)

def refuse {α : Type} (t : Text) (message : String) : Except Refusal α :=
  .error ⟨some t.length, message.toList, []⟩

def isGap (c : Char) : Bool :=
  c == ' ' || (9 ≤ c.toNat && c.toNat ≤ 13)

/-- Whether a character is a blank inside a line. -/
def isInnerGap (c : Char) : Bool :=
  c == ' ' || c == '\t'

def skipGaps (t : Text) : Text :=
  t.dropWhile isInnerGap

def number (t : Text) : Nat × Text :=
  let digits := t.takeWhile isAsciiDigit
  (ofDigits 10 (digits.map hexDigitValue), t.drop digits.length)

/-- The text of a bracket up to its end, behind its first sign, and what is left. -/
def bracketText : Nat → Text → Text × Text
  | 0, t => ([], t)
  | _ + 1, [] => ([], [])
  | _ + 1, ']' :: rest => ([']'], rest)
  | _ + 1, '\n' :: rest => ([], '\n' :: rest)
  | fuel + 1, '\\' :: 'n' :: rest =>
    let (t, rest) := bracketText fuel rest
    ('\n' :: t, rest)
  | fuel + 1, '[' :: c :: rest =>
    if c = '.' ∨ c = ':' ∨ c = '=' then
      match Regex.untilClosed c rest with
      | some (inside, after) =>
        let (t, rest) := bracketText fuel after
        ('[' :: c :: inside ++ c :: ']' :: t, rest)
      | none => ('[' :: c :: rest, [])
    else
      let (t, rest) := bracketText fuel (c :: rest)
      ('[' :: t, rest)
  | fuel + 1, c :: rest =>
    let (t, rest) := bracketText fuel rest
    (c :: t, rest)

/-- Takes a bracket as it is written. -/
def wholeBracket (t : Text) : Text × Text :=
  let (caret, t) := match t with
    | '^' :: rest => (['^'], rest)
    | t => ([], t)
  let (first, t) := match t with
    | ']' :: rest => ([']'], rest)
    | t => ([], t)
  let (inside, rest) := bracketText (t.length + 1) t
  ('[' :: caret ++ first ++ inside, rest)

/-- Takes text up to a delimiter, which in it stands behind a backslash. In an expression a delimiter in
a bracket does not count. What is left when there is none is the error. -/
def upTo (delimiter : Char) (isRegex : Bool) : Nat → Text → Except Text (Text × Text)
  | 0, t => .error t
  | _ + 1, [] => .error []
  | fuel + 1, c :: rest =>
    let go (taken rest : Text) : Except Text (Text × Text) :=
      (upTo delimiter isRegex fuel rest).map fun (t, rest) => (taken ++ t, rest)
    if c = '\n' then .error (c :: rest)
    else if c = delimiter then .ok ([], rest)
    else if c = '\\' then
      match rest with
      | [] => .error []
      | d :: rest =>
        if d = delimiter then
          if !isRegex && d = '&' then go ['\\', d] rest else go [d] rest
        else if d = 'n' ∧ isRegex then go ['\n'] rest
        else if d = '\n' then go (if isRegex then ['\n'] else ['\\', '\n']) rest
        else go ['\\', d] rest
    else if c = '[' ∧ isRegex then
      let (taken, rest) := wholeBracket rest
      go taken rest
    else go [c] rest

/-- Takes the digits of a code, at most so many. -/
def codeDigits (base : Nat) (t : Text) : Nat → List Nat × Text
  | 0 => ([], t)
  | n + 1 =>
    match t with
    | c :: rest =>
      if isHexDigit c ∧ hexDigitValue c < base then
        let (ds, rest) := codeDigits base rest n
        (hexDigitValue c :: ds, rest)
      else ([], c :: rest)
    | [] => ([], [])

/-- The character with the code behind a letter that names its base, if there is one. -/
def coded? (letter : Char) (rest : Text) : Option (Char × Text) :=
  let take (base size : Nat) : Option (Char × Text) :=
    match codeDigits base rest size with
    | ([], _) => none
    | (ds, rest) => some (Char.ofNat (ofDigits base ds % 256), rest)
  match letter with
  | 'd' => take 10 3
  | 'o' => take 8 3
  | 'x' => take 16 2
  | 'c' =>
    match rest with
    | c :: rest => some (Char.ofNat ((asciiUpper c).toNat ^^^ 64), rest)
    | [] => none
  | _ => none

/-- The control character that a letter stands for behind a backslash. -/
def control? (letter : Char) : Option Char :=
  match letter with
  | 'a' => some '\x07'
  | 'f' => some '\x0c'
  | 'r' => some '\r'
  | 't' => some '\t'
  | 'v' => some '\x0b'
  | _ => none

/-- The text with codes and letters of control characters replaced. What `quote` says of a character
given by its code stands before it. -/
def decodeEscapes (quote : Char → Bool) : Nat → Text → Text
  | 0, t => t
  | _ + 1, [] => []
  | fuel + 1, '\\' :: c :: rest =>
    match control? c with
    | some d => d :: decodeEscapes quote fuel rest
    | none =>
      match coded? c rest with
      | some (d, rest) =>
        if quote d then '\\' :: d :: decodeEscapes quote fuel rest
        else d :: decodeEscapes quote fuel rest
      | none => '\\' :: c :: decodeEscapes quote fuel rest
  | fuel + 1, c :: rest => c :: decodeEscapes quote fuel rest

/-- The text with codes and letters of control characters replaced. -/
def plainEscapes (quote : Char → Bool) (t : Text) : Text :=
  decodeEscapes quote (t.length + 1) t

def parts : Text → List Part
  | [] => []
  | '&' :: rest => .group 0 :: parts rest
  | '\\' :: c :: rest =>
    let more := parts rest
    if isAsciiDigit c then .group (hexDigitValue c) :: more
    else
      match c with
      | 'L' => .changeCase .lower :: more
      | 'U' => .changeCase .upper :: more
      | 'E' => .changeCase .keep :: more
      | 'l' => .changeCase .lowerNext :: more
      | 'u' => .changeCase .upperNext :: more
      | 'n' => .text ['\n'] :: more
      | _ => .text [c] :: more
  | c :: rest => .text [c] :: parts rest

def greatestGroup (ps : List Part) : Nat :=
  ps.foldl (fun n p => match p with
    | .group k => max n k
    | _ => n) 0

/-- The expression that a text spells. An empty one stands for the last one that was matched. -/
def search (extended folds lines : Bool) (needed : Nat) (pattern left : Text) :
    Except Refusal Search :=
  if pattern = [] then
    if folds ∨ lines then refuse left "cannot specify modifiers on empty regexp" else .ok none
  else
    match Regex.ofText extended (plainEscapes (fun _ => false) pattern) with
    | .error .bareClass => .error ⟨none, RegexError.bareClass.message, []⟩
    | .error e => .error ⟨some left.length, e.message, []⟩
    | .ok (r, groups) =>
      if groups < needed then
        .error ⟨some left.length, "invalid reference \\".toList ++ Text.ofNat needed ++
          " on \x60s' command's RHS".toList, []⟩
      else .ok (some ⟨r, r.refersBack, folds, lines, groups⟩)

/-- Takes the letters behind the expression of an address. -/
def modifiers (folds lines : Bool) : Nat → Text → Bool × Bool × Text
  | 0, t => (folds, lines, t)
  | fuel + 1, t =>
    match skipGaps t with
    | 'I' :: rest => modifiers true lines fuel rest
    | 'M' :: rest => modifiers folds true fuel rest
    | t => (folds, lines, t)

/-- An address before it is known whether it comes first. -/
inductive AnyAddress where
  | start (a : Address)
  | further (n : Nat)
  | multiple (n : Nat)

/-- Takes an address, if one comes next. -/
def address (extended : Bool) (t : Text) : Except Refusal (Option AnyAddress × Text) :=
  let matching (delimiter : Char) (rest : Text) : Except Refusal (Option AnyAddress × Text) :=
    match upTo delimiter true (rest.length + 1) rest with
    | .error left => refuse left "unterminated address regex"
    | .ok (pattern, rest) =>
      let (folds, lines, rest) := modifiers false false (rest.length + 1) rest
      (search extended folds lines 0 pattern rest).map fun s => (some (.start (.search s)), rest)
  match t with
  | '/' :: rest => matching '/' rest
  | '\\' :: c :: rest => matching c rest
  | '\\' :: [] => refuse [] "unterminated address regex"
  | '$' :: rest => .ok (some (.start .last), rest)
  | '+' :: rest =>
    let (n, rest) := number (skipGaps rest)
    .ok (some (.further n), rest)
  | '~' :: rest =>
    let (n, rest) := number (skipGaps rest)
    .ok (some (.multiple n), rest)
  | c :: rest =>
    if isAsciiDigit c then
      let (n, rest) := number (c :: rest)
      match skipGaps rest with
      | '~' :: rest =>
        let (step, rest) := number (skipGaps rest)
        .ok (some (.start (if step = 0 then .line n else .step n step)), rest)
      | rest => .ok (some (.start (.line n)), rest)
    else .ok (none, t)
  | [] => .ok (none, [])

/-- The address with which lines end. -/
def AnyAddress.finish : AnyAddress → Finish
  | .start (.line n) => .line n
  | .start (.step n k) => .step n k
  | .start .last => .last
  | .start (.search s) => .search s
  | .further n => .further n
  | .multiple n => .multiple n

/-- Whether an address is an expression. -/
def AnyAddress.isSearch : AnyAddress → Bool
  | .start (.search _) => true
  | _ => false

/-- Takes the lines of a command. -/
def addresses (extended : Bool) (t : Text) :
    Except Refusal (Option Address × Option Finish × Text) := do
  match ← address extended t with
  | (none, t) => return (none, none, t)
  | (some (.further _), rest) => refuse rest "invalid usage of +N or ~N as first address"
  | (some (.multiple _), rest) => refuse rest "invalid usage of +N or ~N as first address"
  | (some (.start a), rest) =>
    match skipGaps rest with
    | ',' :: rest =>
      match ← address extended (skipGaps rest) with
      | (none, left) => refuse (left.drop 1) "unexpected \x60,'"
      | (some b, rest) =>
        match a, b.isSearch with
        | .line 0, false => refuse ((skipGaps rest).drop 1) "invalid usage of line address 0"
        | a, _ => return (some a, some b.finish, rest)
    | rest =>
      match a with
      | .line 0 =>
        if rest.head? = some 'r' then return (some a, none, rest)
        else refuse (rest.drop 1) "invalid usage of line address 0"
      | a => return (some a, none, rest)

/-- Takes the end of a command. A brace or a comment may follow at once. -/
def commandEnd (t : Text) : Except Refusal Text :=
  match skipGaps t with
  | [] => .ok []
  | '\n' :: rest => .ok rest
  | ';' :: rest => .ok rest
  | '\x7d' :: rest => .ok ('\x7d' :: rest)
  | '#' :: rest => .ok ('#' :: rest)
  | _ :: rest => refuse rest "extra characters after command"

/-- The flags of a substitution. -/
structure Flags where
  count : Option Nat := none
  all : Bool := false
  prints : Bool := false
  folds : Bool := false
  lines : Bool := false
  file : Option Text := none

/-- Takes the name of a file up to the end of the line. -/
def fileName (t : Text) : Except Refusal (Text × Text) :=
  let t := skipGaps t
  let name := t.takeWhile (· ≠ '\n')
  let rest := t.drop name.length
  if name = [] then refuse rest "missing filename in r/R/w/W commands"
  else .ok (name, rest.drop 1)

/-- Takes the flags of a substitution, and its end. -/
def flags (f : Flags) : Nat → Text → Except Refusal (Flags × Text)
  | 0, t => .ok (f, t)
  | fuel + 1, t =>
    match t with
    | [] => .ok (f, [])
    | 'i' :: rest => flags { f with folds := true } fuel rest
    | 'I' :: rest => flags { f with folds := true } fuel rest
    | 'm' :: rest => flags { f with lines := true } fuel rest
    | 'M' :: rest => flags { f with lines := true } fuel rest
    | 'p' :: rest =>
      if f.prints then refuse rest "multiple \x60p' options to \x60s' command"
      else flags { f with prints := true } fuel rest
    | 'g' :: rest =>
      if f.all then refuse rest "multiple \x60g' options to \x60s' command"
      else flags { f with all := true } fuel rest
    | 'w' :: rest => do
      let (name, rest) ← fileName rest
      return ({ f with file := some name }, rest)
    | '\x7d' :: rest => .ok (f, '\x7d' :: rest)
    | '#' :: rest => .ok (f, '#' :: rest)
    | '\n' :: rest => .ok (f, rest)
    | ';' :: rest => .ok (f, rest)
    | '\r' :: '\n' :: rest => .ok (f, rest)
    | c :: rest =>
      if isInnerGap c then flags f fuel rest
      else if isAsciiDigit c then
        if f.count.isSome then refuse rest "multiple number options to \x60s' command"
        else
          match number t with
          | (0, rest) => refuse rest "number option to \x60s' command may not be zero"
          | (n, rest) => flags { f with count := some n } fuel rest
      else refuse rest "unknown option to \x60s'"

def substitution (extended : Bool) (t : Text) : Except Refusal (Action × Text) := do
  let unterminated (left : Text) : Except Refusal (Action × Text) :=
    refuse left "unterminated \x60s' command"
  match t with
  | [] => unterminated []
  | delimiter :: t =>
    match upTo delimiter true (t.length + 1) t with
    | .error left => unterminated left
    | .ok (pattern, t) =>
      match upTo delimiter false (t.length + 1) t with
      | .error left => unterminated left
      | .ok (replacement, t) =>
        let ps := parts (plainEscapes (fun c => c == '&' || c == '\\') replacement)
        let (f, rest) ← flags {} (t.length + 1) t
        let s ←
          match search extended f.folds f.lines (greatestGroup ps) pattern rest with
          | .ok s => pure s
          | .error r => .error { r with files := f.file.toList }
        return (.substitute
          { search := s, parts := ps, first := f.count.getD 1, all := f.all, prints := f.prints,
            file := f.file }, rest)

/-- The characters of a list in which a backslash makes the next one plain. -/
def plainly : Text → Text
  | '\\' :: 'n' :: rest => '\n' :: plainly rest
  | '\\' :: c :: rest => c :: plainly rest
  | c :: rest => c :: plainly rest
  | [] => []

def transliteration (t : Text) : Except Refusal (Action × Text) := do
  let unterminated (left : Text) : Except Refusal (Action × Text) :=
    refuse left "unterminated \x60y' command"
  match t with
  | [] => unterminated []
  | delimiter :: t =>
    match upTo delimiter false (t.length + 1) t with
    | .error left => unterminated left
    | .ok (first, t) =>
      match upTo delimiter false (t.length + 1) t with
      | .error left => unterminated left
      | .ok (second, t) =>
        let characters (t : Text) : Text := plainly (plainEscapes (fun c => c == '\\') t)
        let (first, second) := (characters first, characters second)
        if first.length ≠ second.length then
          refuse t "strings for \x60y' command are different lengths"
        return (.transliterate (first.zip second), ← commandEnd t)

/-- The text of a command up to the end of a line that does not end in a backslash, and what is left;
without an end the text may go on in the next chunk. -/
def addedText : Text → Text × Option Text
  | [] => ([], none)
  | ['\\'] => ([], none)
  | '\\' :: c :: rest =>
    let (t, rest) := addedText rest
    ('\\' :: c :: t, rest)
  | '\n' :: rest => ([], some rest)
  | c :: rest =>
    let (t, rest) := addedText rest
    (c :: t, rest)

/-- The text that is added, with its end. -/
def addedLines (t : Text) : Text :=
  plainly (plainEscapes (fun c => c == '\\') t) ++ ['\n']

def label (t : Text) : Text × Text :=
  let t := skipGaps t
  let name := t.takeWhile fun c => !(isGap c) && c != ';' && c != '\x7d'
  (name, t.drop name.length)

/-- A script that is being read. -/
structure Draft where
  commands : Array Command := #[]
  /-- The places of the blocks that are open, with where they were opened. -/
  blocks : List (Nat × Text) := []
  labels : List (Text × Nat) := []
  /-- The text of the last command, if it goes on in the next chunk. -/
  openText : Option Text := none
  quiet : Bool := false

namespace Draft

def push (d : Draft) (c : Command) : Draft :=
  { d with commands := d.commands.push c }

def setText (d : Draft) (t : Text) : Draft :=
  match d.commands.back? with
  | none => d
  | some c =>
    let action := match c.action with
      | .append _ => .append t
      | .insert _ => .insert t
      | .change _ => .change t
      | a => a
    { d with commands := d.commands.pop.push { c with action := action } }

end Draft

/-- The text of a command as far as it goes in a chunk that ends in it: whether it goes on. -/
def unfinished (raw text : Text) : Option Text :=
  if raw.getLast? = some '\\' then some (text ++ ['\\', '\n']) else none

/-- What is known of the chunk that is being read: where it comes from, and its text. -/
structure Chunk where
  /-- The place in front of a message, given how much of the chunk is left. -/
  place : Nat → Text
  text : Text
  isFirst : Bool

/-- Takes the action of a command whose letter is the given one. -/
def action (extended : Bool) (letter : Char) (oneAddress : Bool) (t : Text) :
    Except Refusal (Action × Text) := do
  let plain (a : Action) : Except Refusal (Action × Text) := (commandEnd t).map fun rest => (a, rest)
  let quitting (prints : Bool) : Except Refusal (Action × Text) := do
    if !oneAddress then refuse t "command only uses one address"
    let (code, rest) := number (skipGaps t)
    return (.quit code prints, ← commandEnd rest)
  let naming (make : Text → Action) : Except Refusal (Action × Text) :=
    (fileName t).map fun (name, rest) => (make name, rest)
  let jumping (kind : JumpKind) : Except Refusal (Action × Text) := do
    let (name, rest) := label t
    return (.jump kind name 0, ← commandEnd rest)
  match letter with
  | 'd' => plain .delete
  | 'D' => plain .deleteFirst
  | 'p' => plain .print
  | 'P' => plain .printFirst
  | 'n' => plain .next
  | 'N' => plain .appendNext
  | 'h' => plain .hold
  | 'H' => plain .appendHold
  | 'g' => plain .get
  | 'G' => plain .appendGet
  | 'x' => plain .exchange
  | '=' => plain .number
  | 'F' => plain .fileName
  | 'z' => plain .empty
  | 'q' => quitting true
  | 'Q' => quitting false
  | 'l' =>
    let u := skipGaps t
    if u.head?.any isAsciiDigit then
      let (n, rest) := number u
      return (.list (some n), ← commandEnd rest)
    else plain (.list none)
  | 'r' => naming .readFile
  | 'R' => naming .readLine
  | 'w' => naming .writeLine
  | 'W' => naming .writeFirst
  | 'b' => jumping .always
  | 't' => jumping .substituted
  | 'T' => jumping .notSubstituted
  | 's' => substitution extended t
  | 'y' => transliteration t
  | 'v' =>
    let (name, rest) := label t
    if name.head?.any fun c => '5' ≤ c then refuse rest "expected newer version of sed"
    return (.nothing, ← commandEnd rest)
  | c => .error ⟨some t.length, "unknown command: \x60".toList ++ [c, '\''], []⟩

/-- Takes a command that comes next. What is left is given unless the chunk ends with the command. -/
def command (extended : Bool) (c : Chunk) (d : Draft) (t : Text) :
    Except Refusal (Draft × Option Text) := do
  let (start, finish, t) ← addresses extended t
  let t := skipGaps t
  let (negated, t) ← match t with
    | '!' :: rest =>
      match skipGaps rest with
      | '!' :: rest => refuse rest "multiple \x60!'s"
      | rest => pure (true, rest)
    | t => pure (false, t)
  let make (a : Action) : Command := ⟨start, finish, negated, a⟩
  let adding (a : Action) (t : Text) : Except Refusal (Draft × Option Text) :=
    match skipGaps t with
    | [] => refuse [] "expected \\ after \x60a', \x60c' or \x60i'"
    | t =>
      let t := match t with
        | '\\' :: '\n' :: rest => rest
        | '\\' :: rest =>
          match skipGaps rest with
          | '\n' :: after => '\n' :: after
          | _ => rest
        | t => t
      let d := d.push (make a)
      if t = [] then .ok ({ d with openText := some [] }, none)
      else
        match addedText t with
        | (text, some rest) => .ok (d.setText (addedLines text), some rest)
        | (text, none) =>
          .ok ({ d.setText (addedLines text) with openText := unfinished t text }, none)
  match t with
  | [] => refuse [] "missing command"
  | '#' :: rest =>
    if start.isSome then refuse rest "comments don't accept any addresses"
    let line := rest.takeWhile (· ≠ '\n')
    let isQuiet := c.isFirst && line == ['n'] && c.text.take 2 == ['#', 'n'] &&
      t.length == c.text.length
    return ({ d with quiet := d.quiet || isQuiet }, some (rest.drop line.length))
  | ':' :: rest =>
    if start.isSome then refuse rest ": doesn't want any addresses"
    let (name, left) := label rest
    if name = [] then refuse left "\":\" lacks a label"
    return ({ d with labels := (name, d.commands.size) :: d.labels }, some left)
  | '\x7b' :: rest =>
    return ({ d.push ⟨start, finish, !negated, .openBlock 0⟩ with
      blocks := (d.commands.size, c.place c.text.length) :: d.blocks }, some rest)
  | '\x7d' :: rest =>
    match d.blocks with
    | [] => .error ⟨some rest.length, "unexpected \x60".toList ++ ['\x7d', '\''], []⟩
    | (place, _) :: blocks =>
      if start.isSome then
        .error ⟨some rest.length, "\x60".toList ++ '\x7d' :: "' doesn't want any addresses".toList, []⟩
      let rest ← commandEnd rest
      let opened := d.commands.modify place fun b => { b with action := .openBlock d.commands.size }
      return ({ d with commands := opened, blocks := blocks }, some rest)
  | 'a' :: rest => adding (.append []) rest
  | 'i' :: rest => adding (.insert []) rest
  | 'c' :: rest => adding (.change []) rest
  | letter :: rest =>
    let (a, rest) ← action extended letter finish.isNone rest
    return (d.push (make a), some rest)

def Command.writes (c : Command) : List Text :=
  match c.action with
  | .writeLine name => [name]
  | .writeFirst name => [name]
  | .substitute s => s.file.toList
  | _ => []

def Draft.writes (d : Draft) : List Text :=
  d.commands.toList.flatMap Command.writes

def commands (extended : Bool) (c : Chunk) : Nat → Draft → Text → Except Refusal Draft
  | 0, d, _ => .ok d
  | fuel + 1, d, t =>
    let t := t.dropWhile fun c => isGap c || c == ';'
    if t = [] then .ok d
    else
      match command extended c d t with
      | .error r => .error { r with files := d.writes ++ r.files }
      | .ok (d, some rest) => commands extended c fuel d rest
      | .ok (d, none) => .ok d

/-- Why a script is not carried out: what is said, the code with which the editor ends, and the files
that the commands up to there write. -/
structure Fault where
  message : Text
  code : Nat
  files : List Text

def Chunk.read (c : Chunk) (extended : Bool) (d : Draft) : Except Fault Draft :=
  let result :=
    match d.openText with
    | some before =>
      match addedText c.text with
      | (text, some rest) =>
        commands extended c (rest.length + 1)
          { d.setText (addedLines (before ++ text)) with openText := none } rest
      | (text, none) =>
        .ok { d.setText (addedLines (before ++ text)) with
          openText := unfinished c.text (before ++ text) }
    | none => commands extended c (c.text.length + 1) d c.text
  match result with
  | .ok d => .ok d
  | .error ⟨none, message, files⟩ => .error ⟨message, 1, files⟩
  | .error ⟨some left, message, files⟩ => .error ⟨c.place left ++ ": ".toList ++ message, 1, files⟩

/-- Finds the places of labels. A jump without a label leads to the end. -/
def resolve (d : Draft) : List Command → Except Text (List Command)
  | [] => .ok []
  | c :: cs => do
    let rest ← resolve d cs
    match c.action with
    | .jump kind name _ =>
      if name = [] then return { c with action := .jump kind name d.commands.size } :: rest
      else
        match d.labels.lookup name with
        | some place => return { c with action := .jump kind name place } :: rest
        | none => .error ("can't find label for jump to \x60".toList ++ name ++ ['\''])
    | _ => return c :: rest

/-- The script that has been read. -/
def Draft.finish (d : Draft) : Except Fault Script :=
  match d.blocks.getLast? with
  | some (_, place) => .error ⟨place ++ ": unmatched \x60".toList ++ ['\x7b', '\''], 1, d.writes⟩
  | none =>
    match resolve d d.commands.toList with
    | .error message => .error ⟨message, 4, d.writes⟩
    | .ok cs => .ok ⟨cs.toArray, d.quiet⟩

end AsmExplorer.Programs.Edit
