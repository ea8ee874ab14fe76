import AsmExplorer.Programs.Options

/-!
# First parts

The program `head`, which copies the first lines or bytes of files, or all but the last ones. What is
read but not copied stays for others to read where that is possible.
-/

namespace AsmExplorer.Programs.Head

/-- What is copied of a file. -/
structure Portion where
  countsLines : Bool := true
  /-- The number counts what is left out at the end. -/
  fromEnd : Bool := false
  count : Nat := 10

/-- When a title stands above a file. -/
inductive Titles where
  | ifSeveral
  | never
  | always
  deriving DecidableEq

/-- What is done with each file. -/
structure Plan where
  portion : Portion := {}
  titles : Titles := .ifSeveral
  /-- The byte at which a line ends. -/
  lineEnd : UInt8 := 10

def table : OptionTable where
  short := [('c', .required), ('n', .required), ('q', .none), ('v', .none), ('z', .none)] ++
    "0123456789".toList.map fun c => (c, .none)
  long :=
    [("bytes", .required, 'c'), ("lines", .required, 'n'), ("quiet", .none, 'q'),
     ("silent", .none, 'q'), ("verbose", .none, 'v'), ("zero-terminated", .none, 'z')] ++ commonOptions

/-- Why a word is no number. -/
inductive NumberError where
  | invalid
  | tooGreat

/-- The power that a unit is of its base. -/
def unitPower? (c : Char) : Option Nat :=
  match c with
  | 'k' => some 1
  | 'K' => some 1
  | 'm' => some 2
  | 'M' => some 2
  | 'G' => some 3
  | 'T' => some 4
  | 'P' => some 5
  | 'E' => some 6
  | 'Z' => some 7
  | 'Y' => some 8
  | 'R' => some 9
  | 'Q' => some 10
  | _ => none

/-- What the unit at the end of a number counts for. -/
def unit? : Text → Option Nat
  | [] => some 1
  | ['b'] => some 512
  | [c] => (unitPower? c).map (Nat.pow 1024)
  | [c, 'B'] => (unitPower? c).map (Nat.pow 1000)
  | [c, 'D'] => (unitPower? c).map (Nat.pow 1000)
  | [c, 'i', 'B'] => (unitPower? c).map (Nat.pow 1024)
  | _ => none

def number (word : Text) : Except NumberError Nat :=
  let t := word.dropWhile fun c => c == ' ' || ('\t' ≤ c && c ≤ '\r')
  let t := match t with
    | '+' :: u => if u.head?.any isAsciiDigit then u else t
    | t => t
  let digits := t.takeWhile isAsciiDigit
  let rest := t.drop digits.length
  match unit? rest with
  | none => .error .invalid
  | some unit =>
    if digits = [] ∧ rest = [] then .error .invalid
    else
      let n := (if digits = [] then 1 else ofDigits 10 (digits.map hexDigitValue)) * unit
      if Nat.pow 2 64 ≤ n then .error .tooGreat else .ok n

/-- The portion that a number stands for, or what is wrong with it. -/
def portionOf (countsLines fromEnd : Bool) (word : Text) : Except Text Portion :=
  let message := "invalid number of ".toList ++
    (if countsLines then "lines" else "bytes").toList ++ ": ".toList ++ spelled word
  match number word with
  | .ok n => .ok ⟨countsLines, fromEnd, n⟩
  | .error .invalid => .error message
  | .error .tooGreat => .error (message ++ ": Value too large for defined data type".toList)

/-- What is wrong with the words of the program: whether a hint follows, and the message. -/
abbrev Misuse := Bool × Text

def Plan.take (p : Plan) (o : Char × Option Text) : Except Misuse Plan :=
  let counted (countsLines : Bool) : Except Misuse Plan :=
    let (fromEnd, word) : Bool × Text := match o.2.getD [] with
      | '-' :: word => (true, word)
      | word => (false, word)
    match portionOf countsLines fromEnd word with
    | .ok n => .ok { p with portion := n }
    | .error e => .error (false, e)
  match o.1 with
  | 'c' => counted false
  | 'n' => counted true
  | 'q' => .ok { p with titles := .never }
  | 'v' => .ok { p with titles := .always }
  | 'z' => .ok { p with lineEnd := 0 }
  | 'h' => .ok p
  | 'V' => .ok p
  | c => .error (true, "invalid trailing option -- ".toList ++ [c])

/-- Takes the letters behind a number that is the first word: the plan, whether lines are counted, and
the unit. -/
def takeLetters (p : Plan) (countsLines : Bool) (unit : Text) : Text → Except Misuse (Plan × Bool × Text)
  | [] => .ok (p, countsLines, unit)
  | c :: rest =>
    match c with
    | 'c' => takeLetters p false [] rest
    | 'b' => takeLetters p false [c] rest
    | 'k' => takeLetters p false [c] rest
    | 'm' => takeLetters p false [c] rest
    | 'l' => takeLetters p true unit rest
    | 'q' => takeLetters { p with titles := .never } countsLines unit rest
    | 'v' => takeLetters { p with titles := .always } countsLines unit rest
    | 'z' => takeLetters { p with lineEnd := 0 } countsLines unit rest
    | c => .error (true, "invalid trailing option -- ".toList ++ [c])

/-- Takes a first word that is a number behind a dash: the plan, and the other words. -/
def takeNumber (words : List Text) : Except Misuse (Plan × List Text) :=
  match words with
  | ('-' :: c :: t) :: rest =>
    if isAsciiDigit c then do
      let digits := (c :: t).takeWhile isAsciiDigit
      let (p, countsLines, unit) ← takeLetters {} true [] ((c :: t).drop digits.length)
      match portionOf countsLines false (digits ++ unit) with
      | .ok n => .ok ({ p with portion := n }, rest)
      | .error e => .error (false, e)
    else .ok ({}, words)
  | words => .ok ({}, words)

/-- What the words of the program ask for: the plan, and the files. -/
def plan (words : List Text) : Except Misuse (Plan × List Text) := do
  let (p, words) ← takeNumber words
  let r := table.read words
  let p ← r.options.foldlM Plan.take p
  match r.fault with
  | some e => .error (true, e)
  | none => return (p, r.words)

/-- The bytes up to the end of a number of lines, the number of lines that are still missing, and the
bytes behind them. -/
def firstLines (lineEnd : UInt8) (count : Nat) (bytes : Bytes) : Bytes × Nat × Bytes :=
  let rec go : Nat → Bytes → Bytes → Bytes × Nat × Bytes
    | 0, taken, rest => (taken.reverse, 0, rest)
    | count, taken, [] => (taken.reverse, count, [])
    | n + 1, taken, b :: rest => go (if b = lineEnd then n else n + 1) (b :: taken) rest
  termination_by _ _ rest => rest.length
  go count [] bytes

/-- Gives bytes back that were read too much. -/
def giveBack (number count : Nat) : Program Unit := do
  if count ≠ 0 then
    let _ ← Program.ask (.move number (-count))

/-- What copying a file comes to: the bytes held back, and the error that ended it. -/
abbrev Outcome := Bytes × Option FileError

def copyLines (s : Start) (lineEnd : UInt8) (number : Nat) : Nat → Nat → Bytes → Program Outcome
  | 0, _, _ => Program.stuck
  | fuel + 1, count, held => do
    if count = 0 then return (held, none)
    match ← Program.ask (.read number pieceSize) with
    | .error e => return (held, some e)
    | .ok [] => return (held, none)
    | .ok bytes =>
      let (taken, left, rest) := firstLines lineEnd count bytes
      giveBack number rest.length
      let held ← emitSpooled s held taken
      copyLines s lineEnd number fuel left held

def copyBytes (s : Start) (number : Nat) : Nat → Nat → Bytes → Program Outcome
  | 0, _, _ => Program.stuck
  | fuel + 1, count, held => do
    if count = 0 then return (held, none)
    match ← Program.ask (.read number (min count pieceSize)) with
    | .error e => return (held, some e)
    | .ok [] => return (held, none)
    | .ok bytes =>
      let held ← emitSpooled s held bytes
      copyBytes s number fuel (count - bytes.length) held

/-- The bytes without a number of lines at the end, and the bytes of those lines. Bytes behind the last
line end make a line if the end has been reached. -/
def splitLastLines (lineEnd : UInt8) (count : Nat) (atEnd : Bool) (bytes : Bytes) : Bytes × Bytes :=
  let lines := bytes.count lineEnd
  let isOpen := decide (bytes.getLast? ≠ some lineEnd) && !bytes.isEmpty
  let total := if isOpen && atEnd then lines + 1 else lines
  let (taken, _, rest) := firstLines lineEnd (total - count) bytes
  (taken, rest)

/-- Copies all but the last part. What is not copied is given back at the end. -/
def copyAllBut (s : Start) (split : Bool → Bytes → Bytes × Bytes) (number : Nat) :
    Nat → Bytes → Bytes → Program Outcome
  | 0, _, _ => Program.stuck
  | fuel + 1, waiting, held => do
    match ← Program.ask (.read number pieceSize) with
    | .error e =>
      let held ← emitSpooled s held (split false waiting).1
      return (held, some e)
    | .ok [] =>
      let (taken, rest) := split true waiting
      giveBack number rest.length
      let held ← emitSpooled s held taken
      return (held, none)
    | .ok bytes =>
      let (taken, waiting) := split false (waiting ++ bytes)
      let held ← emitSpooled s held taken
      copyAllBut s split number fuel waiting held

def copyPortion (s : Start) (p : Plan) (number : Nat) (held : Bytes) : Program Outcome :=
  let n := p.portion.count
  match p.portion.countsLines, p.portion.fromEnd with
  | true, false => copyLines s p.lineEnd number Program.limit n held
  | false, false => copyBytes s number Program.limit n held
  | true, true => copyAllBut s (splitLastLines p.lineEnd n) number Program.limit [] held
  | false, true =>
    copyAllBut s (fun _ bytes => (bytes.take (bytes.length - n), bytes.drop (bytes.length - n)))
      number Program.limit [] held

def title (isFirst : Bool) (name : Text) : Bytes :=
  Octets.toBytes ((if isFirst then [] else ['\n']) ++ "==> ".toList ++ name ++ " <==\n".toList)

def copyFiles (s : Start) (p : Plan) (titled isFirst : Bool) (code : Nat) (held : Bytes) :
    List Text → Program Status
  | [] => do
    checkOutput s (← Program.put 1 held)
    return .code code
  | file :: files => do
    match ← openInput s file with
    | .error e =>
      checkOutput s (← Program.put 1 held)
      complain s ("cannot open ".toList ++ quoted file ++ " for reading: ".toList ++ e.text)
      copyFiles s p titled isFirst 1 [] files
    | .ok number =>
      let name := if file = ['-'] then "standard input".toList else file
      let held ← emitSpooled s held (if titled then title isFirst name else [])
      let (held, e) ← copyPortion s p number held
      closeInput number
      match e with
      | none => copyFiles s p titled false code held files
      | some e =>
        checkOutput s (← Program.put 1 held)
        complain s ("error reading ".toList ++ quoted name ++ ": ".toList ++ e.text)
        copyFiles s p titled false 1 [] files

end Head

/-- Copies the first part of files, or of the input. -/
def head (s : Start) : Program Status :=
  match Head.plan s.arguments with
  | .error (true, e) => misuse s e
  | .error (false, e) => fail s e 1
  | .ok (p, files) =>
    let titled := match p.titles with
      | .always => true
      | .never => false
      | .ifSeveral => decide (1 < files.length)
    Head.copyFiles s p titled true 0 [] (if files = [] then [['-']] else files)

end AsmExplorer.Programs
