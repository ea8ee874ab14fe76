import AsmExplorer.Shell.Builtin
import AsmExplorer.Shell.Reader
import AsmExplorer.Shell.Redirection

/-!
# What a simple command is

The first words of a simple command tell what runs it: a function, a command of the shell itself or a
program. Words are expanded one after the other until that is known, as the name decides how the others
are expanded.
-/

namespace AsmExplorer.Shell

/-- What runs a simple command. -/
inductive Runner where
  /-- There are no words. -/
  | nothing
  | function (body : Command)
  | builtin (name : Text)
  | program

/-- A simple command of which it is known what runs it. -/
structure Resolved where
  runner : Runner := .nothing
  /-- The words in front that only told how to look for the name. -/
  skipped : List Text := []
  /-- The words that have been expanded, the name first. -/
  fields : List Text := []
  rest : List Word := []
  /-- Whether a failure ends the script, if the first name is that of a command of the shell. -/
  isSpecial : Option Bool := none
  /-- Whether assignments in front end with the command. -/
  isLocal : Bool := false
  /-- Whether words can be assignments. -/
  takesAssignments : Bool := false
  /-- Whether a program is looked for in the directories of the system. -/
  isStandard : Bool := false

namespace Resolved

/-- Whether what the command does to streams lasts. -/
def isExec (r : Resolved) : Bool :=
  match r.runner with
  | .builtin name => name == "exec".toList
  | _ => false

/-- Expands words until there is a field. -/
def fill (substitute : Option Command → Act Text) : List Text → List Word → Act (List Text × List Word)
  | [], w :: rest => do fill substitute (← w.fields substitute) rest
  | fields, rest => pure (fields, rest)

/-- The arguments of `command` without its options. -/
structure Behind where
  /-- Whether a command comes behind the options. -/
  isCommand : Bool
  isStandard : Bool := false
  skipped : List Text
  fields : List Text
  rest : List Word

/-- Takes the options of `command`, given the words before. -/
def behindOptions (substitute : Option Command → Act Text) (isStandard : Bool) (skipped : List Text) :
    Nat → List Text → List Word → Act Behind
  | 0, _, _ => Act.stuck
  | n + 1, fields, rest => do
    match ← fill substitute fields rest with
    | ([], rest) => return ⟨false, isStandard, skipped, [], rest⟩
    | (field :: fields, rest) =>
      if field = ['-', '-'] then
        let (fields, rest) ← fill substitute fields rest
        return ⟨!fields.isEmpty, isStandard, skipped ++ [field], fields, rest⟩
      else if field.head? = some '-' ∧ 1 < field.length then
        if (field.drop 1).all (· = 'p') then
          behindOptions substitute true (skipped ++ [field]) n fields rest
        else return ⟨false, isStandard, skipped, field :: fields, rest⟩
      else return ⟨true, isStandard, skipped, field :: fields, rest⟩

/-- Finds out what runs a command. -/
def find (substitute : Option Command → Act Text) (r : Resolved) : Nat → Act Resolved
  | 0 => Act.stuck
  | n + 1 => do
    match ← fill substitute r.fields r.rest with
    | ([], rest) => return { r with rest := rest }
    | (name :: arguments, rest) =>
      let s ← Act.state
      let r := { r with fields := name :: arguments, rest := rest }
      match if r.isSpecial.isSome then none else s.functions.lookup name with
      | some body => return { r with runner := .function body, isLocal := true }
      | none =>
        if Builtin.isKnown name then
          let r := { r with
            runner := .builtin name
            isSpecial := some (r.isSpecial.getD (specialCommands.contains name))
            isLocal := r.isSpecial.isSome || !specialCommands.contains name
            takesAssignments := Builtin.assigning.contains name }
          if name = "command".toList then
            let b ← behindOptions substitute r.isStandard [name] n arguments rest
            if b.isCommand then
              find substitute
                { r with
                  skipped := r.skipped ++ b.skipped, fields := b.fields, rest := b.rest
                  isStandard := b.isStandard } n
            else return { r with fields := b.skipped ++ b.fields, rest := b.rest }
          else return r
        else return { r with runner := .program, isLocal := true }

/-- Expands the words that are left. -/
def expandRest (substitute : Option Command → Act Text) (takesAssignments : Bool) :
    List Word → Act (List Text)
  | [] => pure []
  | w :: ws => do
    let fields ←
      if takesAssignments && w.isAssignment then do
        pure [← w.expand substitute { isAssignment := true }]
      else w.fields substitute
    return fields ++ (← expandRest substitute takesAssignments ws)

/-- Finds out what runs a command with some words, and expands them all. -/
def ofWords (substitute : Option Command → Act Text) (words : List Word) : Act Resolved := do
  let r ← find substitute { rest := words } Program.limit
  let fields ← expandRest substitute r.takesAssignments r.rest
  return { r with fields := r.fields ++ fields, rest := [] }

end Resolved

namespace Act

/-- Does the assignments in front of a command, and gives them in words. -/
def assignAll (substitute : Option Command → Act Text) (isLocal isExported : Bool) :
    List Word → Act (List Text)
  | [] => pure []
  | w :: ws => do
    let t ← w.expand substitute { isAssignment := true }
    let name := t.takeWhile (· ≠ '=')
    let value := t.drop (name.length + 1)
    if isLocal then makeLocal name (some value) true
    else setVariable name (some value) isExported false
    return t :: (← assignAll substitute isLocal isExported ws)

/-- Traces a command, if that is asked for. -/
def trace (substitute : Option Command → Act Text) (words : List Text) : Act Unit := do
  let s ← state
  if s.options.traces && !s.isTracing then
    modify fun s => { s with isTracing := true }
    let before ← Word.expand substitute { isQuoted := true }
      (Reader.expandable ((s.value? "PS4".toList).getD []))
    modify fun s => { s with isTracing := false }
    let _ ← say s.traceStream (before ++ Text.join [' '] words ++ ['\n'])

/-- Takes note of the stream to which commands are traced: the one for messages from before the innermost
redirections. -/
def chooseTraceStream : Act Unit :=
  modify fun s =>
    let stream := match s.redirections with
      | first :: _ =>
        match first.lookup 2 with
        | some (.moved number) => number
        | _ => 2
      | [] => 2
    { s with traceStream := stream }

end Act

end AsmExplorer.Shell
