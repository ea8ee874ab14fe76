import AsmExplorer.Settings
import AsmExplorer.Command.Words

/-!
# Arguments of the command line

Reading the words of the command line and laying what they ask for over the settings. An option that
takes a value takes the word behind it, whatever that looks like; without a word behind it, it does
not count. The first other word that does not begin with two dashes is the source file, and all else
is ignored.
-/

namespace AsmExplorer.CommandLine

structure Arguments where
  source : Option Path := none
  buildDirectory : Option Text := none
  settings : Option Path := none
  command : Option Text := none
  binary : Bool := false
  keepDirectives : Bool := false
  keepComments : Bool := false
  keepLabels : Bool := false
  output : Option OutputKind := none
  intel : Bool := false
  timeout : Option Nat := none
  showMap : Bool := false
  watch : Bool := false
  deriving DecidableEq, Repr, Inhabited

/-- The options that take a value. -/
inductive Valued where
  | buildDirectory
  | settings
  | command
  | timeout
  deriving DecidableEq, Repr

/-- The options that take none. -/
inductive Flag where
  | binary
  | keepDirectives
  | keepComments
  | keepLabels
  | llvmIr
  | preprocess
  | intel
  | showMap
  | watch
  deriving DecidableEq, Repr

def Valued.ofWord? (word : Text) : Option Valued :=
  match String.ofList word with
  | "--build-dir" => some .buildDirectory
  | "--settings" => some .settings
  | "--args" => some .command
  | "--timeout" => some .timeout
  | _ => none

def Flag.ofWord? (word : Text) : Option Flag :=
  match String.ofList word with
  | "--binary" => some .binary
  | "--keep-directives" => some .keepDirectives
  | "--keep-comments" => some .keepComments
  | "--keep-labels" => some .keepLabels
  | "--llvm-ir" => some .llvmIr
  | "--preprocess" => some .preprocess
  | "--intel" => some .intel
  | "--map" => some .showMap
  | "--watch" => some .watch
  | _ => none

/-- The number of seconds that a word spells, if it is below `2 ^ 64`; a plus sign may stand in
front. -/
def seconds? (word : Text) : Option Nat :=
  match word with
  | '+' :: digits => Text.decimal? (Nat.pow 2 64) digits
  | digits => Text.decimal? (Nat.pow 2 64) digits

namespace Arguments

def setValue (a : Arguments) (value : Text) : Valued → Arguments
  | .buildDirectory => { a with buildDirectory := some value }
  | .settings => { a with settings := some ⟨value⟩ }
  | .command => { a with command := some value }
  | .timeout => { a with timeout := seconds? value }

def setFlag (a : Arguments) : Flag → Arguments
  | .binary => { a with binary := true }
  | .keepDirectives => { a with keepDirectives := true }
  | .keepComments => { a with keepComments := true }
  | .keepLabels => { a with keepLabels := true }
  | .llvmIr => { a with output := some .llvmIr }
  | .preprocess => { a with output := some .preprocessed }
  | .intel => { a with intel := true }
  | .showMap => { a with showMap := true }
  | .watch => { a with watch := true }

/-- Takes a word that is no option: the first one that does not begin with two dashes counts. -/
def setSource (a : Arguments) (word : Text) : Arguments :=
  if "--".toList.isPrefixOf word ∨ a.source.isSome then a else { a with source := some ⟨word⟩ }

def takeWord (a : Arguments) (word : Text) : Arguments :=
  match Flag.ofWord? word with
  | some flag => a.setFlag flag
  | none => a.setSource word

def take (a : Arguments) : List Text → Arguments
  | [] => a
  | [word] => a.takeWord word
  | word :: value :: rest =>
    match Valued.ofWord? word with
    | some option => (a.setValue value option).take rest
    | none => (a.takeWord word).take (value :: rest)

def ofWords (words : List Text) : Arguments :=
  take {} words

/-- The settings with what is asked for laid over them. -/
def overlay (a : Arguments) (s : Settings) : Settings where
  compilationDirectory := a.buildDirectory.getD s.compilationDirectory
  workspaceFolder := s.workspaceFolder
  timeoutSeconds := a.timeout.getD s.timeoutSeconds
  demangler := s.demangler
  demanglerPath := s.demanglerPath
  intel := s.intel || a.intel
  output := a.output.getD s.output
  filter :=
    { binary := s.filter.binary || a.binary
      directives := s.filter.directives && !a.keepDirectives
      commentOnly := s.filter.commentOnly && !a.keepComments
      labels := s.filter.labels && !a.keepLabels }
  extraArguments := (a.command.map Command.splitWords).getD s.extraArguments

/-- The settings that are asked for: those in the file that is named, or the default ones, with the
rest laid over them. -/
def settingsFor (a : Arguments) (host : Host) : Except Failure Settings :=
  match a.settings with
  | some p => (Settings.load host p).map a.overlay
  | none => .ok (a.overlay {})

end Arguments

end AsmExplorer.CommandLine
