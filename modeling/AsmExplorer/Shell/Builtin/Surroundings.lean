import AsmExplorer.Shell.Builtin.Arguments

/-!
# Commands about what surrounds a script

Commands about the current directory, the permissions of new files, limits, and the time that has been
used.
-/

namespace AsmExplorer.Shell.Builtin

/-- The path of a directory as it is reached from another one, `..` being taken word by word. -/
def pathFrom (current directory : Text) : Text :=
  let isAbsolute := directory.head? == some '/'
  let hasTwoSlashes :=
    isAbsolute && (directory.drop 1).head? == some '/' && (directory.drop 2).head? != some '/'
  let names (t : Text) : List Text := (t.splitOn '/').filter (· ≠ [])
  let start := if isAbsolute then [] else (names current).reverse
  let reversed := (names directory).foldl (fun before name =>
    if name = ['.', '.'] then before.drop 1
    else if name = ['.'] then before
    else name :: before) start
  (if hasTwoSlashes then ['/', '/'] else ['/']) ++ Text.join ['/'] reversed.reverse

/-- Goes to a directory, and tells whether that could be done. -/
def enter (isPhysical : Bool) (target : Text) : Act Bool := do
  let s ← Act.state
  let fs ← Act.files
  let path := if isPhysical then target else pathFrom s.path target
  match fs.locate s.directory ⟨Octets.toText path⟩ with
  | .error _ => return false
  | .ok l =>
    if !fs.hasDirectory l then return false
    let path := if isPhysical then Octets.ofText l.toPath.text else path
    Act.setVariable "OLDPWD".toList (some s.path) true false
    Act.modify fun s => { s with directory := l, path := path }
    Act.setVariable "PWD".toList (some path) true false
    return true

/-- Where a directory may be that is looked for in others, and whether its path is told. -/
def directoryCandidates (s : State) (target : Text) : List (Text × Bool) :=
  let isDotted :=
    target = ['.'] ∨ target = ['.', '.'] ∨ ['.', '/'].isPrefixOf target ∨
      ['.', '.', '/'].isPrefixOf target
  if target.head? = some '/' ∨ isDotted then []
  else
    let target := if target.isEmpty then ['.'] else target
    match s.value? "CDPATH".toList with
    | none => []
    | some path => (path.splitOn ':').map fun d =>
      if d.isEmpty then (target, false) else (d ++ '/' :: target, true)

/-- Goes to a directory and tells its path if asked for. -/
def goTo (isPhysical tells : Bool) (target : Text) : Act Nat := do
  if ← enter isPhysical target then
    if tells then Act.print ((← Act.state).path ++ ['\n']) 0 else return 0
  else Act.fail ("can't cd to ".toList ++ target)

/-- Goes to a directory, to the one before, or home. -/
def cd (arguments : List Text) : Act Nat := do
  let a ← Arguments.read "LP" arguments
  let isPhysical := (a.options.getLast?.map Prod.fst) == some 'P'
  let s ← Act.state
  let (target, tells) := match a.words with
    | [] => ((s.value? "HOME".toList).getD [], false)
    | ['-'] :: _ => ((s.value? "OLDPWD".toList).getD [], true)
    | target :: _ => (target, false)
  let fs ← Act.files
  match (directoryCandidates s target).find? fun c =>
      fs.isDirectory s.directory ⟨Octets.toText c.1⟩ with
  | some (path, tellsPath) => goTo isPhysical (tells || tellsPath) path
  | none => goTo isPhysical tells (if target.isEmpty then ['.'] else target)

def pwd (arguments : List Text) : Act Nat := do
  let a ← Arguments.read "LP" arguments
  let s ← Act.state
  let isPhysical := (a.options.getLast?.map Prod.fst) == some 'P'
  let path := if isPhysical then Octets.ofText s.directory.toPath.text else s.path
  Act.print (path ++ ['\n']) 0

/-- The permissions that letters stand for, at the places of the given users. -/
def permissions (users : Nat) (letters : Text) : Option Nat :=
  letters.foldl (fun mode c =>
    let bit : Option Nat := match c with
      | 'r' => some 4
      | 'w' => some 2
      | 'x' => some 1
      | 'X' => some 1
      | 's' => some 0
      | 't' => some 0
      | _ => none
    mode.bind fun mode => bit.map fun bit => mode ||| (users * bit)) (some 0)

/-- The permissions changed by a clause such as `u+w`. -/
def changeMode (mode : Nat) (clause : Text) : Option Nat :=
  let who := clause.takeWhile fun c => c == 'u' || c == 'g' || c == 'o' || c == 'a'
  let users := who.foldl (fun n c =>
    n ||| (if c = 'u' then 64 else if c = 'g' then 8 else if c = 'o' then 1 else 73)) 0
  let users := if who.isEmpty then 73 else users
  match clause.drop who.length with
  | [] => none
  | o :: letters =>
    (permissions users letters).bind fun bits =>
      match o with
      | '+' => some (mode ||| bits)
      | '-' => some (mode - (mode &&& bits))
      | '=' => some (mode - (mode &&& (users * 7)) + bits)
      | _ => none

/-- The permissions of users as letters. -/
def modeText (mode : Nat) : Text :=
  let part (name : Char) (bits : Nat) : Text :=
    name :: '=' ::
      ((if bits.testBit 2 then ['r'] else []) ++ (if bits.testBit 1 then ['w'] else []) ++
        (if bits.testBit 0 then ['x'] else []))
  part 'u' (mode / 64) ++ ',' :: part 'g' (mode / 8 % 8) ++ ',' :: part 'o' (mode % 8) ++ ['\n']

/-- Tells or sets the permissions that new files do not get. -/
def umask (arguments : List Text) : Act Nat := do
  let a ← Arguments.read "S" arguments
  let s ← Act.state
  let setMask (n : Nat) : Act Nat := do
    Act.modify fun s => { s with mask := n }
    return 0
  match a.words with
  | [] =>
    if a.has 'S' then Act.print (modeText (511 - s.mask)) 0
    else Act.print (Text.padLeft 4 '0' (Nat.toDigits 8 s.mask) ++ ['\n']) 0
  | word :: _ =>
    if (word.head?.any Char.isDigit) then
      if word.all fun c => '0' ≤ c && c ≤ '7' then
        setMask (ofDigits 8 (word.map hexDigitValue) % 512)
      else Act.fail ("Illegal number: ".toList ++ word)
    else
      match (word.splitOn ',').foldl (fun mode clause => mode.bind fun m => changeMode m clause)
          (some (511 - s.mask)) with
      | some mode => setMask (511 - mode)
      | none => Act.fail ("Illegal mode: ".toList ++ word)

/-- A limit: its option, what it is called, and its value; none is no limit. -/
structure Limit where
  option : Char
  name : String
  value : Option Nat := none

def limits : List Limit :=
  [⟨'t', "time(seconds)", none⟩, ⟨'f', "file(blocks)", none⟩, ⟨'d', "data(kbytes)", none⟩,
   ⟨'s', "stack(kbytes)", some 8192⟩, ⟨'c', "coredump(blocks)", some 0⟩,
   ⟨'m', "memory(kbytes)", none⟩, ⟨'l', "locked memory(kbytes)", some 8192⟩,
   ⟨'p', "process", some 128620⟩, ⟨'n', "nofiles", some 20000⟩, ⟨'v', "vmemory(kbytes)", none⟩,
   ⟨'w', "locks", none⟩, ⟨'r', "rtprio", some 0⟩]

def Limit.text (l : Limit) : Text :=
  match l.value with
  | some n => Text.ofNat n
  | none => "unlimited".toList

/-- Tells limits; setting one has no effect. -/
def ulimit (arguments : List Text) : Act Nat := do
  let a ← Arguments.read "HSatfdscmlpnvwr" arguments
  let asked := a.options.map Prod.fst |>.filter fun c => c ≠ 'H' ∧ c ≠ 'S' ∧ c ≠ 'a'
  match a.words with
  | [] =>
    if a.has 'a' then
      Act.print (limits.flatMap fun l =>
        let name := l.name.toList
        name ++ List.replicate (20 - name.length) ' ' ++ ' ' :: l.text ++ ['\n']) 0
    else
      match limits.find? fun l => l.option == asked.getLastD 'f' with
      | some l => Act.print (l.text ++ ['\n']) 0
      | none => return 0
  | word :: rest =>
    if a.has 'a' ∨ ¬ rest.isEmpty then Act.fail "too many arguments".toList
    else if word = "unlimited".toList ∨ word.all Char.isDigit then return 0
    else Act.fail "bad number".toList

/-- Tells the time that the script and its programs have used. -/
def times (_ : List Text) : Act Nat :=
  let line := "0m0.000000s 0m0.000000s\n".toList
  Act.print (line ++ line) 0

end AsmExplorer.Shell.Builtin
