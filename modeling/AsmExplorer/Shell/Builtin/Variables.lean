import AsmExplorer.Shell.Builtin.Arguments
import AsmExplorer.Shell.Fields

/-!
# Commands about variables and parameters

Commands that declare, list, set and forget variables and functions, set the parameters and options of
the script, go through options, and read a line into variables.
-/

namespace AsmExplorer.Shell.Builtin

/-- The lines that tell of variables, in order of their names. -/
def variableLines (before : Text) (isMeant : Variable → Bool) (s : State) : Text :=
  let meant := s.bindings.filter fun v => isMeant v.2
  let sorted := meant.mergeSort fun a b => Text.compare a.1 b.1 != .gt
  sorted.flatMap fun (name, v) =>
    before ++ name ++ (v.value.map fun value => '=' :: quote value).getD [] ++ ['\n']

/-- The name in a word and the value behind the equals sign, if there is one. -/
def declared (word : Text) : Text × Option Text :=
  let name := word.takeWhile (· ≠ '=')
  (name, if name.length < word.length then some (word.drop (name.length + 1)) else none)

/-- Gives variables to programs, or fixes their values. -/
def declare (fixes : Bool) (arguments : List Text) : Act Nat := do
  let a ← Arguments.read "p" arguments
  if a.has 'p' || a.words.isEmpty then
    let s ← Act.state
    if fixes then Act.print (variableLines "readonly ".toList Variable.isFixed s) 0
    else Act.print (variableLines "export ".toList Variable.isExported s) 0
  else
    for word in a.words do
      let (name, value) := declared word
      let s ← Act.state
      match value, s.binding? name with
      | none, some v =>
        let v := if fixes then { v with isFixed := true } else { v with isExported := true }
        Act.modify fun s => s.setVariable name v
      | value, _ =>
        Act.checkName name
        Act.setVariable name value (!fixes) fixes
    return 0

/-- Makes variables local to a function. -/
def makeLocal (arguments : List Text) : Act Nat := do
  let s ← Act.state
  if s.scopes.isEmpty then Act.fail "not in a function".toList
  for word in arguments do
    if word = ['-'] then
      Act.modify fun s => { s with savedOptions := (s.scopes.length, s.options) :: s.savedOptions }
    else
      let (name, value) := declared word
      if value.isNone then Act.checkName name
      Act.makeLocal name value false
  return 0

/-- Forgets variables or functions. -/
def unset (arguments : List Text) : Act Nat := do
  let a ← Arguments.read "vf" arguments
  let isFunctions := (a.options.getLast?.map Prod.fst) == some 'f'
  for name in a.words do
    if isFunctions then
      Act.modify fun s => { s with functions := s.functions.filter fun f => f.1 ≠ name }
    else Act.forget name
  return 0

def setParameters (words : List Text) : Act Unit :=
  Act.modify fun s => { s with parameters := words, optionIndex := 1, optionOffset := none }

/-- Drops parameters. -/
def shift (arguments : List Text) : Act Nat := do
  let count ← match arguments with
    | [] => pure 1
    | a :: _ => Act.number a
  let s ← Act.state
  if s.parameters.length < count then Act.fail "can't shift that many".toList
  else
    setParameters (s.parameters.drop count)
    return 0

/-- How the options are set. -/
def optionLines (asCommands : Bool) (o : Options) : Text :=
  let line (e : Options.Entry) : Text :=
    let name := e.name.toList
    if asCommands then "set ".toList ++ (if e.get o then "-o ".toList else "+o ".toList) ++ name ++ ['\n']
    else name ++ List.replicate (16 - name.length) ' ' ++ (if e.get o then "on\n".toList else "off\n".toList)
  (if asCommands then [] else "Current option settings\n".toList) ++ Options.entries.flatMap line

/-- Sets an option by its name; without a name, tells of all options. -/
def setNamed (on : Bool) (name : Option Text) : Act Unit := do
  let s ← Act.state
  match name with
  | none =>
    let _ ← Act.print (optionLines (!on) s.options) 0
  | some name =>
    match s.options.setName? name on with
    | some o => Act.modify fun s => { s with options := o }
    | none =>
      Act.fail ("Illegal option ".toList ++ (if on then '-' else '+') :: 'o' :: ' ' :: name)

/-- Sets options by their letters, and gives the words that are left. -/
def setLetters (on : Bool) (rest : List Text) : Text → Act (List Text)
  | [] => pure rest
  | c :: letters => do
    if c = 'o' then
      setNamed on rest.head?
      setLetters on (rest.drop 1) letters
    else
      let s ← Act.state
      match s.options.setLetter? c on with
      | some o =>
        Act.modify fun s => { s with options := o }
        setLetters on rest letters
      | none => Act.fail ("Illegal option -".toList ++ [c])

/-- Sets options as words ask for it, and gives the words behind. -/
def setOptions : Nat → List Text → Act (List Text)
  | 0, words => pure words
  | _, [] => pure []
  | n + 1, word :: rest =>
    match word with
    | ['-'] => do
      Act.modify fun s => { s with options := { s.options with traces := false, shows := false } }
      return rest
    | ['-', '-'] => do
      if rest.isEmpty then setParameters []
      return rest
    | '-' :: letters => do setOptions n (← setLetters true rest letters)
    | '+' :: letters => do setOptions n (← setLetters false rest letters)
    | _ => pure (word :: rest)

/-- Sets options and parameters, or tells of the variables. -/
def set (arguments : List Text) : Act Nat := do
  if arguments.isEmpty then
    let s ← Act.state
    Act.print (variableLines [] (fun v => v.value.isSome) s) 0
  else
    let rest ← setOptions (arguments.length + 1) arguments
    let s ← Act.state
    if s.options.monitors then
      Act.complain "can't access tty; job control turned off".toList
      Act.modify fun s => { s with options := { s.options with monitors := false } }
    if !rest.isEmpty then setParameters rest
    return 0

/-- What looking for an option comes to. -/
structure OptionStep where
  letter : Char := '?'
  /-- The value, if the option has one. -/
  value : Option Text := none
  complaint : Option Text := none
  /-- The number of the next argument. -/
  index : Nat
  /-- How many characters of the argument before that one have been taken. -/
  offset : Option Nat := none
  isOver : Bool := false

/-- Takes the option that a letter stands for, given what follows it in the argument and the arguments
behind. -/
def takeOption (known : Text) (index offset : Nat) (c : Char) (more : Text) (rest : List Text) :
    OptionStep :=
  let isQuiet := known.head? == some ':'
  let going : OptionStep := { index := index, offset := some offset }
  let refused (letter : Char) (complaint : Text) : OptionStep :=
    if isQuiet then { going with letter := letter, value := some [c] }
    else { going with complaint := some complaint }
  match Arguments.takesValue? c (if isQuiet then known.drop 1 else known) with
  | none => refused '?' ("Illegal option -".toList ++ c :: ['\n'])
  | some false => { going with letter := c, value := some [] }
  | some true =>
    if !more.isEmpty then { letter := c, value := some more, index := index }
    else
      match rest with
      | value :: _ => { letter := c, value := some value, index := index + 1 }
      | [] =>
        { refused ':' ("No arg for -".toList ++ c :: " option\n".toList) with offset := none }

def nextOption (known : Text) (arguments : List Text) (index : Nat) (offset : Option Nat) :
    OptionStep :=
  let started : Option (Text × Nat) :=
    match offset with
    | some k =>
      if index ≤ 1 then none
      else
        let word := (arguments[index - 2]?).getD []
        if word.length ≤ k then none else some (word.drop k, k)
    | none => none
  match started with
  | some (c :: more, k) => takeOption known index (k + 1) c more (arguments.drop (index - 1))
  | _ =>
    match arguments.drop (index - 1) with
    | ['-', '-'] :: _ => { index := index + 1, isOver := true }
    | ('-' :: c :: more) :: rest => takeOption known (index + 1) 2 c more rest
    | _ => { index := index, isOver := true }

/-- Goes through the options in arguments, one at a time. -/
def getopts (arguments : List Text) : Act Nat := do
  let a ← Arguments.read "" arguments
  match a.words with
  | known :: name :: given =>
    let s ← Act.state
    let words := if given.isEmpty then s.parameters else given
    let (index, offset) :=
      if words.length + 1 < s.optionIndex then (1, none) else (s.optionIndex, s.optionOffset)
    let step := nextOption known words index offset
    match step.complaint, step.value with
    | some complaint, _ =>
      let _ ← Act.say 2 complaint
      Act.forget "OPTARG".toList
    | none, some value => Act.assign "OPTARG".toList value
    | none, none => pure ()
    Act.modify fun s =>
      s.setVariable "OPTIND".toList
        { ((s.binding? "OPTIND".toList).getD {}) with value := some (Text.ofNat step.index) }
    Act.modify fun s => { s with optionIndex := step.index, optionOffset := step.offset }
    Act.assignNamed name [step.letter]
    return if step.isOver then 1 else 0
  | _ => Act.fail "Usage: getopts optstring var [arg...]".toList

/-- Reads a line, octet by octet, into a row; an octet behind a backslash is no part of a region. Also
tells whether the line has an end. -/
def readLine (raw isEscaped : Bool) (start : Nat) : Nat → Row → Act (Row × Bool)
  | 0, _ => Act.stuck
  | n + 1, r => do
    match ← Act.ask (.read 0 1) with
    | .error .interrupted =>
      Act.noteSignals
      return (r.mark start false, false)
    | .error _ => return (r.mark start false, false)
    | .ok bytes =>
      match Octets.ofBytes bytes with
      | [] => return (r.mark start false, false)
      | c :: _ =>
        if c = '\x00' then readLine raw isEscaped start n r
        else if isEscaped then
          let r := r.mark start false
          let r := if c = '\n' then r else r.add [.char c true]
          readLine raw false r.size n r
        else if c = '\\' ∧ !raw then readLine raw true start n r
        else if c = '\n' then return (r.mark start false, true)
        else readLine raw false start n (r.add [.char c false])

/-- Shares out fields among variables. -/
def shareOut : List Text → List Text → Act Unit
  | [], _ => pure ()
  | name :: names, fields => do
    Act.assignNamed name (fields.headD [])
    shareOut names (fields.drop 1)

/-- Reads a line into variables. -/
def read (arguments : List Text) : Act Nat := do
  let a ← Arguments.read "p:r" arguments
  if a.words.isEmpty then Act.fail "arg count".toList
  let (r, hasEnd) ← readLine (a.has 'r') false 0 Program.limit {}
  let s ← Act.state
  shareOut a.words ((r.fields s.separators (some a.words.length)).map Cell.text)
  return if hasEnd then 0 else 1

end AsmExplorer.Shell.Builtin
