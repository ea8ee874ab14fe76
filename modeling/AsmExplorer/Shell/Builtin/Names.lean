import AsmExplorer.Process.Lookup
import AsmExplorer.Shell.Builtin.Arguments

/-!
# Commands about what names stand for

Where the command is that a name stands for, and other texts for names.
-/

namespace AsmExplorer.Shell

/-- What a name stands for as a command. -/
inductive Meaning where
  | keyword
  | aliased (value : Text)
  | function
  | builtin (isSpecial : Bool)
  /-- A program; it may have been run before. -/
  | program (path : Text) (isTracked : Bool)

namespace Act

def lookUp (searchPath name : Text) : Act (Except FileError Text) := do
  let s ← state
  return go (← files) s.directory .notFound (Lookup.candidates searchPath name)
where
  /-- Looks at one path after the other. -/
  go (fs : FileSystem) (base : Location) (e : FileError) : List Text → Except FileError Text
    | [] => .error e
    | t :: ts =>
      match fs.locate base ⟨Octets.toText t⟩ with
      | .ok _ =>
        match Lookup.executableAt fs base t with
        | .ok _ => .ok t
        | .error _ => go fs base .permissionDenied ts
      | .error .notFound => go fs base e ts
      | .error .notDirectory => go fs base e ts
      | .error f => go fs base f ts

/-- The search path of the script, or that of the system. -/
def searchPathOf (isStandard : Bool) : Act Text := do
  if isStandard then
    return "/usr/local/sbin:/usr/local/bin:/usr/sbin:/usr/bin:/sbin:/bin".toList
  else return (← state).searchPath

end Act

namespace Builtin

/-- What a name stands for, if it is known which names are commands of the shell itself. -/
def meaning? (isBuiltin : Text → Bool) (isStandard : Bool) (name : Text) : Act (Option Meaning) := do
  let s ← Act.state
  if (Keyword.ofText? name).isSome then return some .keyword
  match s.aliases.lookup name with
  | some value => return some (.aliased value)
  | none => pure ()
  if (s.functions.lookup name).isSome then return some .function
  else if isBuiltin name then return some (.builtin (specialCommands.contains name))
  else if name.contains '/' then
    let fs ← Act.files
    return if fs.pathExists s.directory ⟨Octets.toText name⟩ then some (.program name false) else none
  else
    match if isStandard then none else s.found.lookup name with
    | some path => return some (.program path true)
    | none =>
      match ← Act.lookUp (← Act.searchPathOf isStandard) name with
      | .ok path => return some (.program path false)
      | .error _ => return none

/-- How an alias is told. -/
def aliasText (name value : Text) : Text :=
  name ++ '=' :: quote value ++ ['\n']

/-- What a name stands for, in words. -/
def described (name : Text) : Option Meaning → Text
  | none => name ++ ": not found\n".toList
  | some .keyword => name ++ " is a shell keyword\n".toList
  | some (.aliased value) => name ++ " is an alias for ".toList ++ value ++ ['\n']
  | some .function => name ++ " is a shell function\n".toList
  | some (.builtin true) => name ++ " is a special shell builtin\n".toList
  | some (.builtin false) => name ++ " is a shell builtin\n".toList
  | some (.program path false) => name ++ " is ".toList ++ path ++ ['\n']
  | some (.program path true) => name ++ " is a tracked alias for ".toList ++ path ++ ['\n']

/-- What a name stands for, in short. -/
def named (name : Text) : Option Meaning → Text
  | none => []
  | some (.aliased value) => "alias ".toList ++ aliasText name value
  | some (.program path _) => path ++ ['\n']
  | some _ => name ++ ['\n']

/-- Tells what names stand for. -/
def type (isBuiltin : Text → Bool) (names : List Text) : Act Nat := do
  let mut t := []
  let mut status := 0
  for name in names do
    let m ← meaning? isBuiltin false name
    t := t ++ described name m
    if m.isNone then status := 127
  Act.print t status

/-- Tells what a name stands for, if asked for by the options of `command`. -/
def command (isBuiltin : Text → Bool) (arguments : List Text) : Act Nat := do
  let a ← Arguments.read "pvV" arguments
  match a.words with
  | [] => return 0
  | name :: _ =>
    if a.has 'v' || a.has 'V' then
      let m ← meaning? isBuiltin (a.has 'p') name
      Act.print (if a.has 'V' then described name m else named name m) (if m.isNone then 127 else 0)
    else return 0

/-- Looks for programs, or tells of those that have been found. -/
def hash (isBuiltin : Text → Bool) (arguments : List Text) : Act Nat := do
  let a ← Arguments.read "rv" arguments
  let s ← Act.state
  if a.has 'r' then
    Act.modify fun s => { s with found := [] }
    return 0
  else if a.words.isEmpty then Act.print (s.found.reverse.flatMap fun f => f.2 ++ ['\n']) 0
  else
    let mut status := 0
    for name in a.words do
      if !(isBuiltin name || (s.functions.lookup name).isSome || name.contains '/') then
        match ← Act.lookUp s.searchPath name with
        | .ok path => Act.modify fun s => { s with found := State.put name path s.found }
        | .error e =>
          let reason := if e = .notFound then "not found".toList else e.text
          Act.complain (name ++ ": ".toList ++ reason)
          status := 1
    return status

/-- Whether an equals sign comes behind the first character of a word. -/
def definesAlias (word : Text) : Bool :=
  (word.drop 1).contains '='

/-- The place at which aliases with a name are listed. -/
def aliasPlace (name : Text) : Nat :=
  (name.foldl (fun n c => n + c.toNat) (16 * (name.headD '\x00').toNat)) % 39

/-- Sets aliases, or tells of them. -/
def setAliases (words : List Text) : Act Nat := do
  let s ← Act.state
  if words.isEmpty then
    let places := (List.range 39).flatMap fun place =>
      s.aliases.filter fun a => aliasPlace a.1 == place
    Act.print (places.flatMap fun a => aliasText a.1 a.2) 0
  else
    let mut t := []
    let mut status := 0
    for word in words do
      let s ← Act.state
      if definesAlias word then
        let name := word.take 1 ++ (word.drop 1).takeWhile (· ≠ '=')
        let value := word.drop (name.length + 1)
        Act.modify fun s => { s with aliases := State.put name value s.aliases }
      else
        match s.aliases.lookup word with
        | some value => t := t ++ aliasText word value
        | none =>
          let _ ← Act.say 2 ("alias: ".toList ++ word ++ " not found\n".toList)
          status := 1
    Act.print t status

def dropAliases (arguments : List Text) : Act Nat := do
  let a ← Arguments.read "a" arguments
  if a.has 'a' then
    Act.modify fun s => { s with aliases := [] }
    return 0
  let mut status := 0
  for name in a.words do
    let s ← Act.state
    if (s.aliases.lookup name).isSome then
      Act.modify fun s => { s with aliases := s.aliases.filter fun b => b.1 ≠ name }
    else
      let _ ← Act.say 2 ("unalias: ".toList ++ name ++ " not found\n".toList)
      status := 1
  return status

end Builtin

end AsmExplorer.Shell
