import AsmExplorer.Shell.Evaluation

/-!
# The shell as a program

How the shell begins: with its options, its variables, and the commands in a word, in a file or in its
input.
-/

namespace AsmExplorer.Shell

namespace Startup

/-- What the shell is asked to do. -/
structure Request where
  /-- Whether the first word is the script itself. -/
  hasCommand : Bool := false
  words : List Text := []

/-- Takes letters as options; gives whether there is a command among the words, and the words that are
left. Options that nobody has decided about are told as if they were set. -/
def takeLetters (on hasCommand : Bool) (rest : List Text) : Text → Act Request
  | [] => pure ⟨hasCommand, rest⟩
  | c :: letters =>
    if c = 'c' then takeLetters on true rest letters
    else if c = 'l' then takeLetters on hasCommand rest letters
    else if c = 'o' ∧ on ∧ rest.isEmpty then do
      let all := Options.entries.foldl (fun o e => e.set true o) {}
      let _ ← Act.print (Builtin.optionLines false all) 0
      takeLetters on hasCommand rest letters
    else do
      let rest ← Builtin.setLetters on rest [c]
      takeLetters on hasCommand rest letters

/-- Takes the options in front of the words. -/
def takeOptions (hasCommand : Bool) : Nat → List Text → Act Request
  | 0, words => pure ⟨hasCommand, words⟩
  | _, [] => pure ⟨hasCommand, []⟩
  | n + 1, word :: rest =>
    if word = ['-'] ∨ word = ['-', '-'] then pure ⟨hasCommand, rest⟩
    else
      match word with
      | '-' :: letters => do
        let r ← takeLetters true hasCommand rest letters
        takeOptions r.hasCommand n r.words
      | '+' :: letters => do
        let r ← takeLetters false hasCommand rest letters
        takeOptions r.hasCommand n r.words
      | _ => pure ⟨hasCommand, word :: rest⟩

/-- The path of the current directory: the one that is handed down, if it is right. -/
def currentPath (fs : FileSystem) (directory : Location) (handedDown : Option Text) : Text :=
  let physical := Octets.ofText directory.toPath.text
  match handedDown with
  | some ('/' :: rest) =>
    match fs.locate directory ⟨Octets.toText ('/' :: rest)⟩ with
    | .ok l => if l = directory then '/' :: rest else physical
    | .error _ => physical
  | _ => physical

/-- The variables that there are without being handed down. -/
def usualBindings : List (Text × Variable) :=
  let pair (name value : String) : Text × Variable := (name.toList, { value := some value.toList })
  [pair "PATH" "/usr/local/sbin:/usr/local/bin:/usr/sbin:/usr/bin:/sbin:/bin",
   pair "PS1" "# ", pair "PS2" "> ", pair "PS4" "+ "]

def initial (s : Start) : State :=
  let handedDown := (s.environment.filter fun v => Name.isGood v.1).map fun v =>
    (v.1, ({ value := some v.2, isExported := true } : Variable))
  let bindings := handedDown.foldl (fun bs v => State.put v.1 v.2 bs) usualBindings
  let fixed := [("IFS".toList, " \t\n".toList), ("OPTIND".toList, ['1'])]
  let bindings := fixed.foldl
    (fun bs v => State.put v.1 ({ value := some v.2 } : Variable) bs) bindings
  { name := s.program, bindings := bindings, directory := s.directory, path := [], mask := s.mask }

/-- Takes note of the number of the shell, of its parent, and of the current directory. -/
def orient : Act Unit := do
  let (id, parent) : Nat × Nat ← Act.ask .identity
  let fs ← Act.files
  Act.modify fun s =>
    let path := currentPath fs s.directory (s.value? "PWD".toList)
    let s := s.setVariable "PWD".toList { value := some path, isExported := true }
    let s := s.setVariable "PPID".toList { value := some (Text.ofNat parent) }
    { s with path := path, identity := id, parent := parent }

def setNames (words : List Text) : Act Unit :=
  Act.modify fun s =>
    match words with
    | name :: parameters => { s with name := name, parameters := parameters }
    | [] => s

def runScript (launch : Launch) (r : Request) : Act Unit := do
  let s ← Act.state
  match r.hasCommand, r.words with
  | true, [] => Act.fail "-c requires an argument".toList
  | true, script :: words =>
    setNames words
    let _ ← text launch { isLast := !s.options.readsInput } script Program.limit
    if s.options.readsInput then
      let _ ← stream launch 0 false { rest := [] } 0 Program.limit
  | false, [] => runInput []
  | false, file :: words =>
    if s.options.readsInput then runInput (file :: words)
    else
      let number ← Act.openScript file
      setNames (file :: words)
      let _ ← stream launch number false { rest := [] } 0 Program.limit
where
  /-- Runs the commands in the input. -/
  runInput (parameters : List Text) : Act Unit := do
    Act.modify fun s =>
      { s with parameters := parameters, options := { s.options with readsInput := true } }
    let _ ← stream launch 0 false { rest := [] } 0 Program.limit

def main (launch : Launch) (arguments : List Text) : Act Unit := do
  orient
  let _ ← Act.outcome do
    let r ← takeOptions false (arguments.length + 1) arguments
    let s ← Act.state
    if s.options.monitors then
      Act.complain "can't access tty; job control turned off".toList
      Act.modify fun s => { s with options := { s.options with monitors := false } }
    runScript launch r
  finish launch Program.limit

end Startup

/-- Runs a script: the one that the first word spells if the option says so, the one in the file that
the first word names, or the one in the input. -/
def program (launch : Launch) (s : Start) : Program Status := fun next =>
  Startup.main launch s.arguments (Startup.initial s) fun _ t => next (.code (t.status % 256))

end AsmExplorer.Shell
