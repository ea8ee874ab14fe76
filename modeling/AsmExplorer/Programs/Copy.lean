import AsmExplorer.Programs.Options

/-!
# Copying

The program `cat`, which writes files in order. It can number lines, squeeze empty ones, and show what
cannot be seen.
-/

namespace AsmExplorer.Programs.Copy

/-- How lines are written. -/
structure Style where
  numbers : Bool := false
  numbersFilled : Bool := false
  squeezes : Bool := false
  showsEnds : Bool := false
  showsTabs : Bool := false
  showsHidden : Bool := false
  deriving DecidableEq

namespace Style

/-- Whether bytes are written as they are. -/
def isPlain (f : Style) : Bool :=
  f == {}

/-- The style with an option taken. -/
def take (f : Style) (c : Char) : Style :=
  match c with
  | 'A' => { f with showsHidden := true, showsEnds := true, showsTabs := true }
  | 'b' => { f with numbers := true, numbersFilled := true }
  | 'e' => { f with showsHidden := true, showsEnds := true }
  | 'E' => { f with showsEnds := true }
  | 'n' => { f with numbers := true }
  | 's' => { f with squeezes := true }
  | 't' => { f with showsHidden := true, showsTabs := true }
  | 'T' => { f with showsTabs := true }
  | 'v' => { f with showsHidden := true }
  | _ => f

end Style

def table : OptionTable where
  short := "AbeEnstTuv".toList.map fun c => (c, .none)
  long :=
    [("number-nonblank", .none, 'b'), ("number", .none, 'n'), ("squeeze-blank", .none, 's'),
     ("show-nonprinting", .none, 'v'), ("show-ends", .none, 'E'), ("show-tabs", .none, 'T'),
     ("show-all", .none, 'A')] ++ commonOptions

/-- Where in the lines the program is. -/
structure Progress where
  /-- The number of the last line that got one. -/
  line : Nat := 0
  /-- The ends of lines in a row before this place, if a line begins here. -/
  ends : Option Nat := some 0
  /-- Whether a carriage return is held back. -/
  held : Bool := false

def numberText (n : Nat) : Text :=
  Text.padLeft 6 ' ' (Text.ofNat n) ++ ['\t']

/-- How a character other than a line end is shown. -/
def shown (f : Style) (c : Char) : Text :=
  let n := c.toNat
  if c = '\t' then (if f.showsTabs then ['^', 'I'] else [c])
  else if !f.showsHidden then [c]
  else
    let low (n : Nat) : Text :=
      if n < 32 then ['^', Char.ofNat (n + 64)] else if n = 127 then ['^', '?'] else [Char.ofNat n]
    if n < 128 then low n else 'M' :: '-' :: low (n - 128)

/-- Takes a character: what is written for it. -/
def step (f : Style) (p : Progress) (c : Char) : Progress × Text :=
  let before : Text :=
    if p.held then (if c = '\n' then ['^', 'M'] else ['\r']) else []
  let p := { p with held := false }
  if c = '\n' then
    match p.ends with
    | none => ({ p with ends := some 0 }, before ++ (if f.showsEnds then ['$', '\n'] else ['\n']))
    | some k =>
      if f.squeezes ∧ 1 ≤ k then ({ p with ends := some 2 }, before)
      else
        let numbered := f.numbers && !f.numbersFilled
        let line := if numbered then p.line + 1 else p.line
        ({ p with line := line, ends := some (k + 1) },
          before ++ (if numbered then numberText line else []) ++
            (if f.showsEnds then ['$', '\n'] else ['\n']))
  else
    let numbered := f.numbers && p.ends.isSome
    let line := if numbered then p.line + 1 else p.line
    let start := if numbered then numberText line else []
    let p := { p with line := line, ends := none }
    if c = '\r' ∧ f.showsEnds ∧ !f.showsHidden then ({ p with held := true }, before ++ start)
    else (p, before ++ start ++ shown f c)

/-- Takes characters: what is written for them. -/
def format (f : Style) (p : Progress) (t : Text) : Progress × Text :=
  let (p, pieces) := t.foldl
    (fun (p, pieces) c =>
      let (p, u) := step f p c
      (p, u :: pieces))
    (p, [])
  (p, pieces.reverse.flatten)

/-- Copies a stream to its end, and tells how it ended. -/
def copyStream (s : Start) (f : Style) (number : Nat) :
    Nat → Progress → Program (Progress × Option FileError)
  | 0, _ => Program.stuck
  | fuel + 1, p => do
    match ← Program.ask (.read number pieceSize) with
    | .error e => return (p, some e)
    | .ok [] =>
      if p.held then emit s (Octets.toBytes ['\r'])
      return ({ p with held := false }, none)
    | .ok bytes =>
      if f.isPlain then
        emit s bytes
        copyStream s f number fuel p
      else
        let (p, t) := format f p (Octets.ofBytes bytes)
        emit s (Octets.toBytes t)
        copyStream s f number fuel p

/-- Whether a stream leads to the file to which the output goes, which is not empty. -/
def isOwnOutput (number : Nat) : Program Bool := do
  match ← Program.ask (.inspect number), ← Program.ask (.inspect 1) with
  | some (.file l), some (.file k) =>
    let fs ← Program.ask .files
    return l == k && (fs.node? l).any fun
      | .file bytes _ => !bytes.isEmpty
      | _ => false
  | _, _ => return false

def copyFiles (s : Start) (f : Style) (p : Progress) (code : Nat) : List Text → Program Status
  | [] => pure (.code code)
  | name :: names => do
    match ← openInput s name with
    | .error e =>
      complain s (named name ++ ": ".toList ++ e.text)
      copyFiles s f p 1 names
    | .ok number =>
      if ← isOwnOutput number then
        complain s (named name ++ ": input file is output file".toList)
        closeInput number
        copyFiles s f p 1 names
      else
        let (p, e) ← copyStream s f number Program.limit p
        closeInput number
        match e with
        | none => copyFiles s f p code names
        | some e =>
          complain s (named name ++ ": ".toList ++ e.text)
          copyFiles s f p 1 names

end Copy

/-- Copies files, or the input. -/
def cat (s : Start) : Program Status :=
  let r := Copy.table.read s.arguments
  match r.fault with
  | some e => misuse s e
  | none =>
    let f := r.options.foldl (fun f o => f.take o.1) ({} : Copy.Style)
    Copy.copyFiles s f {} 0 (if r.words = [] then [['-']] else r.words)

end AsmExplorer.Programs
