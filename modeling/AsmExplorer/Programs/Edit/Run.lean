import AsmExplorer.Programs.Edit.Reader
import AsmExplorer.Programs.Edit.State
import AsmExplorer.Programs.Edit.Substitution

/-!
# Carrying out editing scripts

The commands of a script are carried out for each line. A command goes on to the next one, jumps, or
ends the cycle of the line.
-/

namespace AsmExplorer.Programs.Edit

/-- What comes after a command. -/
inductive Flow where
  | goesOn
  | jump (place : Nat)
  /-- The line is done with; it is printed unless that is not wished. -/
  | ends
  /-- The line is done with and not printed. -/
  | drops
  /-- The commands begin again with what is left of the line. -/
  | again
  | quits (code : Nat)

namespace Editor

/-- The expression that is to be matched. -/
def searchFor (e : Editor) (s : Search) : Program (Editor × Matcher) :=
  match s with
  | some m => pure ({ e with lastSearch := some m }, m)
  | none =>
    match e.lastSearch with
    | some m => pure (e, m)
    | none => e.abort "-e expression #1, char 0: no previous regular expression".toList 1

def isAt (e : Editor) (a : Address) : Program (Editor × Bool) :=
  match a with
  | .line n => pure (e, e.number == n)
  | .step first step => pure (e, first ≤ e.number && (e.number - first) % step == 0)
  | .last => e.isLast
  | .search s => do
    let (e, m) ← e.searchFor s
    return (e, m.matches e.line)

/-- The editor with a command elsewhere in its lines. -/
def setRange (e : Editor) (i : Nat) (r : Range) : Editor :=
  { e with ranges := e.ranges.setIfInBounds i r }

/-- Enters the lines of a command, which may be one line only. -/
def enter (e : Editor) (i : Nat) (f : Finish) : Program Editor := do
  let upTo (n : Nat) : Editor :=
    e.setRange i (if n ≤ e.number then .behind else .inside (some n))
  match f with
  | .line n => return upTo n
  | .further n => return upTo (e.number + n)
  | .multiple n => return upTo (if n = 0 then e.number else (e.number / n + 1) * n)
  | .last =>
    let (e, isLast) ← e.isLast
    return e.setRange i (if isLast then .behind else .inside none)
  | .search _ => return e.setRange i (.inside none)
  | .step first step => return upTo (first + (e.number - first + step - 1) / step * step)

/-- Whether the lines of a command begin with the line. Those that begin with a number begin once, and
also behind that number unless they end before. -/
def begins (e : Editor) (r : Range) (a : Address) (f : Finish) : Program (Editor × Bool) :=
  match a with
  | .line n =>
    let isTooLate := match f with
      | .line last => decide (n < e.number ∧ last < e.number)
      | _ => false
    pure (e, r != .behind && n ≤ e.number && !isTooLate)
  | a => e.isAt a

def selects (e : Editor) (i : Nat) (c : Command) : Program (Editor × Bool) := do
  match c.start, c.finish with
  | none, _ => return (e, true)
  | some a, none => e.isAt a
  | some a, some f =>
    match (e.ranges[i]?).getD .before with
    | .inside last =>
      let (e, isDone) ← match f with
        | .search s => e.isAt (.search s)
        | .last => e.isLast
        | _ => pure (e, last.all fun n => n ≤ e.number)
      let isPast := match f with
        | .line n => decide (n < e.number)
        | _ => false
      return (if isDone then e.setRange i .behind else e, !isPast)
    | r =>
      let (e, isFirst) ← e.begins r a f
      if isFirst then return (← e.enter i f, true) else return (e, false)

/-- The line up to its first inner end. -/
def firstPart (e : Editor) : Text × Option Text :=
  let (t, rest) := e.line.span (· != e.manner.lineEnd)
  (t, match rest with
    | [] => none
    | _ :: rest => some rest)

/-- Writes the line up to its first inner end. -/
def printFirst (e : Editor) (o : Sink) : Program Editor :=
  match e.firstPart with
  | (t, some _) => e.writeLine o t true
  | (t, none) => e.writeLine o t e.isComplete

def substitute (e : Editor) (s : Substitution) : Program Editor := do
  let (e, m) ← e.searchFor s.search
  match substitute? m s e.line with
  | none => return e
  | some t =>
    let e := { e with line := t, substituted := true }
    let e ← if s.prints then e.print .main else pure e
    match s.file with
    | some name => e.print (.named name)
    | none => return e

/-- The editor with something to write at the end of the cycle. -/
def add (e : Editor) (a : Addition) : Editor :=
  { e with additions := e.additions ++ [a] }

/-- Prints the line unless that is not wished. -/
def printUnlessQuiet (e : Editor) : Program Editor :=
  if e.manner.quiet then pure e else e.print .main

/-- Writes the lines of a text, which may be none. -/
def writeText (e : Editor) (t : Text) : Program Editor :=
  if t = [] then pure e else e.write .main (t.dropLast ++ e.ending) false

def perform (e : Editor) (i : Nat) (a : Action) : Program (Editor × Flow) := do
  let on (e : Editor) : Program (Editor × Flow) := pure (e, .goesOn)
  match a with
  | .nothing => on e
  | .openBlock behind => return (e, .jump behind)
  | .jump .always _ target => return (e, .jump target)
  | .jump .substituted _ target =>
    return if e.substituted then ({ e with substituted := false }, .jump target) else (e, .goesOn)
  | .jump .notSubstituted _ target =>
    return if e.substituted then ({ e with substituted := false }, .goesOn) else (e, .jump target)
  | .append t => on (e.add (.text t))
  | .insert t => on (← e.writeText t)
  | .change t =>
    let isInside := match e.ranges[i]? with
      | some (.inside _) => true
      | _ => false
    let e ← if isInside then pure e else e.writeText t
    return (e, .drops)
  | .delete => return (e, .drops)
  | .deleteFirst =>
    match e.firstPart.2 with
    | none => return (e, .drops)
    | some rest => return ({ e with line := rest }, .again)
  | .print => on (← e.print .main)
  | .printFirst => on (← e.printFirst .main)
  | .next =>
    let (e, isLast) ← e.isLast
    if isLast then return (e, .ends)
    let e ← e.printUnlessQuiet
    let (e, isThere) ← e.advance false
    return (e, if isThere then .goesOn else .drops)
  | .appendNext =>
    let (e, isLast) ← e.isLast
    if isLast then return (e, if e.manner.strict then .drops else .ends)
    let (e, isThere) ← e.advance true
    return (e, if isThere then .goesOn else .ends)
  | .hold => on { e with aside := e.line, isAsideComplete := e.isComplete }
  | .appendHold =>
    on { e with aside := e.aside ++ e.manner.lineEnd :: e.line, isAsideComplete := e.isComplete }
  | .get => on { e with line := e.aside, isComplete := e.isAsideComplete }
  | .appendGet =>
    on { e with line := e.line ++ e.manner.lineEnd :: e.aside, isComplete := e.isAsideComplete }
  | .exchange =>
    on { e with
      line := e.aside, isComplete := e.isAsideComplete
      aside := e.line, isAsideComplete := e.isComplete }
  | .number => on (← e.write .main (Text.ofNat e.number ++ e.ending) false)
  | .fileName =>
    on (← e.write .main (e.name ++ e.ending) false)
  | .empty => on { e with line := [] }
  | .list width =>
    on (← e.write .main (list (width.getD e.manner.width) e.manner.lineEnd e.line ++ e.ending) false)
  | .quit code prints =>
    if prints then
      let e ← e.printUnlessQuiet
      let e ← if e.lacksEnd then e.write .main [] false else pure e
      return (← e.writeAdditions, .quits code)
    else return (e, .quits code)
  | .readFile name => on (e.add (.file name))
  | .readLine name =>
    match ← e.takeBeside name with
    | (e, none) => on e
    | (e, some (t, isComplete)) => on (e.add (.text (if isComplete then t ++ e.ending else t)))
  | .writeLine name => on (← e.print (.named name))
  | .writeFirst name => on (← e.printFirst (.named name))
  | .substitute s => on (← e.substitute s)
  | .transliterate pairs => on { e with line := e.line.map fun c => (pairs.lookup c).getD c }

/-- Carries out the commands from a place on: how the cycle ends. -/
def runFrom : Nat → Nat → Editor → Program (Editor × Flow)
  | 0, _, _ => Program.stuck
  | fuel + 1, i, e =>
    match e.commands[i]? with
    | none => pure (e, .ends)
    | some c => do
      let (e, isMeant) ← e.selects i c
      if isMeant = c.negated then runFrom fuel (i + 1) e
      else
        match ← e.perform i c.action with
        | (e, .goesOn) => runFrom fuel (i + 1) e
        | (e, .jump place) =>
          Program.ask (.pause 2)
          runFrom fuel place e
        | (e, flow) => return (e, flow)

/-- Ends when all is done: the code is given. -/
def close (e : Editor) (code : Nat) : Program Status := do
  match e.input with
  | some i =>
    i.giveBack
    let _ ← e.closeInput
  | none => pure ()
  for r in e.readers do
    match r.2 with
    | some i => i.giveBack
    | none => pure ()
  let e ← e.flush
  return .code (if e.code = 0 then code else e.code)

/-- Writes the files that are to stand before the first line. -/
def begin (e : Editor) : Program Editor :=
  let files := e.commands.toList.filterMap fun c => match c.start, c.action with
    | some (.line 0), .readFile name => if c.finish.isNone then some name else none
    | _, _ => none
  { e with additions := files.map Addition.file }.writeAdditions

/-- Carries out the commands for each line. -/
def cycles : Nat → Bool → Editor → Program Status
  | 0, _, _ => Program.stuck
  | fuel + 1, keepsLine, e => do
    Program.ask (.pause 4)
    let (e, isThere) ← if keepsLine then pure (e, true) else e.advance false
    if !isThere then e.close 0
    else
      match ← runFrom Program.limit 0 e with
      | (e, .quits code) => e.close code
      | (e, .drops) => cycles fuel false e
      | (e, .again) => cycles fuel true e
      | (e, _) => do
        let e ← e.printUnlessQuiet
        cycles fuel false e

end Editor

def table : OptionTable where
  short :=
    [('b', .none), ('n', .none), ('r', .none), ('z', .none), ('u', .none), ('E', .none), ('e', .required),
     ('f', .required), ('l', .required), ('i', .optional), ('s', .none)]
  long :=
    [("binary", .none, 'b'), ("regexp-extended", .none, 'r'), ("in-place", .optional, 'i'),
     ("expression", .required, 'e'), ("file", .required, 'f'), ("line-length", .required, 'l'),
     ("null-data", .none, 'z'), ("zero-terminated", .none, 'z'), ("quiet", .none, 'n'),
     ("posix", .none, 'p'), ("silent", .none, 'n'), ("sandbox", .none, 'S'), ("separate", .none, 's'),
     ("unbuffered", .none, 'u'), ("version", .none, 'V'), ("help", .none, 'h'),
     ("follow-symlinks", .none, 'F')]

def Manner.take (m : Manner) (o : Char × Option Text) : Manner :=
  match o.1 with
  | 'n' => { m with quiet := true }
  | 'r' => { m with extended := true }
  | 'E' => { m with extended := true }
  | 's' => { m with separate := true }
  | 'i' => { m with separate := true, inPlace := some (o.2.getD []) }
  | 'p' => { m with strict := true }
  | 'u' => { m with unbuffered := true }
  | 'z' => { m with lineEnd := '\x00' }
  | 'l' =>
    let digits := ((o.2.getD []).dropWhile fun c => c == ' ').takeWhile isAsciiDigit
    { m with width := ofDigits 10 (digits.map hexDigitValue) }
  | _ => m

/-- The place in a script from the command line. -/
def expressionPlace (number : Nat) (text : Text) (left : Nat) : Text :=
  "-e expression #".toList ++ Text.ofNat number ++ ", char ".toList ++ Text.ofNat (text.length - left)

/-- The place in a script from a file. -/
def filePlace (name text : Text) (left : Nat) : Text :=
  let before := text.take (text.length - left)
  let lines := (before.dropLast.count '\n') + 1
  "file ".toList ++ name ++ " line ".toList ++ Text.ofNat lines

def readScript (s : Start) (name : Text) : Program Text := do
  let all (number : Nat) : Program Text := do
    match ← Program.readToEnd number Input.piece Program.limit [] with
    | .ok bytes => return Octets.ofBytes bytes
    | .error e => fail s ("read error on ".toList ++ name ++ ": ".toList ++ e.text) 4
  if name = ['-'] then all 0
  else
    match ← Program.ask (.openFile s.directory name .reading) with
    | .error e => fail s ("couldn't open file ".toList ++ name ++ ": ".toList ++ e.text) 4
    | .ok number =>
      let t ← all number
      let _ ← Program.ask (.close number)
      return t

def openOutputs (s : Start) (outputs : List (Text × Output)) :
    List Text → Program (List (Text × Output))
  | [] => pure outputs
  | name :: names => do
    if (outputs.lookup name).isSome then openOutputs s outputs names
    else if name = "/dev/stdout".toList then openOutputs s ((name, { number := 1 }) :: outputs) names
    else if name = "/dev/stderr".toList then openOutputs s ((name, { number := 2 }) :: outputs) names
    else
      match ← Program.ask (.openFile s.directory name .writing) with
      | .ok number => openOutputs s ((name, { number := number }) :: outputs) names
      | .error e => fail s ("couldn't open file ".toList ++ name ++ ": ".toList ++ e.text) 4

/-- Ends because of a fault in the script. The files that the commands before it write are opened all the
same. -/
def failFor {α : Type} (s : Start) (f : Fault) : Program α := do
  let _ ← openOutputs s [] f.files
  fail s f.message f.code

def readChunk (s : Start) (m : Manner) (d : Draft) (c : Chunk) : Program Draft :=
  match c.read m.extended d with
  | .ok d => pure d
  | .error f => failFor s f

/-- Takes options in order: the manner, the script, and whether there is one. Scripts are read with the
options before them. -/
def takeOptions (s : Start) (m : Manner) (d : Draft) (expressions chunks : Nat) :
    List (Char × Option Text) → Program (Manner × Draft × Nat)
  | [] => pure (m, d, chunks)
  | (c, argument) :: rest => do
    let text := argument.getD []
    if c = 'e' then
      let place := expressionPlace (expressions + 1) text
      let d ← readChunk s m d ⟨place, text, chunks = 0⟩
      takeOptions s m d (expressions + 1) (chunks + 1) rest
    else if c = 'f' then
      let script ← readScript s text
      let script := if script.getLast? = some '\n' then script.dropLast else script
      let d ← readChunk s m d ⟨filePlace text script, script, chunks = 0⟩
      takeOptions s m d expressions (chunks + 1) rest
    else takeOptions s (m.take (c, argument)) d expressions chunks rest

end Edit

/-- Edits files, or the input, line by line. -/
def sed (s : Start) : Program Status := do
  let r := Edit.table.read s.arguments
  let (m, d, chunks) ← Edit.takeOptions s {} {} 0 0 r.options
  match r.fault with
  | some message => Edit.failFor s ⟨message, 1, d.writes⟩
  | none =>
    if chunks = 0 ∧ r.words = [] then return .code 1
    let (d, files) ←
      match chunks, r.words with
      | 0, w :: ws => do
        let d ← Edit.readChunk s m d ⟨Edit.expressionPlace 1 w, w, true⟩
        pure (d, ws)
      | _, ws => pure (d, ws)
    match d.finish with
    | .error f => Edit.failFor s f
    | .ok script =>
      let outputs ← Edit.openOutputs s [] (script.commands.toList.flatMap Edit.Command.writes)
      if m.inPlace.isSome ∧ files = [] then fail s "no input files".toList 4
      let e : Edit.Editor :=
        { start := s
          manner := { m with quiet := m.quiet || script.quiet }
          commands := script.commands
          ranges := Edit.Editor.firstRanges script.commands
          files := if files = [] then [['-']] else files
          outputs := outputs }
      Edit.Editor.cycles Program.limit false (← e.begin)

end AsmExplorer.Programs
