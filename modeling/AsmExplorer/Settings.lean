import AsmExplorer.Assembly.Listing
import AsmExplorer.Host.Basic
import AsmExplorer.Json.Reader
import AsmExplorer.Path.Template

/-!
# Settings

What a user can set, what is assumed otherwise, and how settings are read from JSON. They fix where
the compilation database of a source file is and which flags make a compiler write to its standard
output.
-/

namespace AsmExplorer

/-- What a compiler is asked for. -/
inductive OutputKind where
  | assembly
  | llvmIr
  | preprocessed
  deriving DecidableEq, Repr, Inhabited

structure Settings where
  /-- The directory of the compilation database, as a template. -/
  compilationDirectory : Text := Template.opening ++ "workspaceFolder".toList ++ Template.closing
  /-- The workspace; without one it is the current directory. -/
  workspaceFolder : Option Path := none
  /-- How many seconds a compilation may take. -/
  timeoutSeconds : Nat := 30
  /-- The name of the demangler, which is looked for beside the compiler. -/
  demangler : Text := "c++filt".toList
  /-- The demangler itself; with one set, none is looked for. -/
  demanglerPath : Option Path := none
  /-- Whether assembly is asked for in the Intel dialect. -/
  intel : Bool := false
  /-- What the compiler is asked for. -/
  output : OutputKind := .assembly
  /-- What a listing leaves out. -/
  filter : Assembly.Filter := {}
  /-- The command to use in place of the ones in the database, unless it is empty. -/
  extraArguments : List Text := []
  deriving DecidableEq, Repr, Inhabited

def databaseName : Path := .ofString "compile_commands.json"

namespace Settings

/-- How many seconds a compilation gets: at least one. -/
def timeout (s : Settings) : Nat :=
  max s.timeoutSeconds 1

/-- The workspace, where the current directory is the given one. -/
def workspace (s : Settings) (currentDirectory : Path) : Path :=
  s.workspaceFolder.getD currentDirectory

def databasePath (s : Settings) (currentDirectory source : Path) : Path :=
  (Template.resolve s.compilationDirectory source (s.workspace currentDirectory)).join databaseName

/-- The flags that make a compiler write the wanted output to its standard output. -/
def outputFlags (s : Settings) : List Text :=
  match s.output with
  | .assembly =>
    ["-g".toList, "-S".toList] ++ (if s.intel then ["-masm=intel".toList] else []) ++
      ["-o".toList, "-".toList]
  | .llvmIr => ["-g".toList, "-S".toList, "-emit-llvm".toList, "-o".toList, "-".toList]
  | .preprocessed => ["-E".toList, "-o".toList, "-".toList]

/-- The kinds of output by their names. -/
def outputKinds : List (Text × OutputKind) :=
  [("assembly".toList, .assembly), ("llvmIr".toList, .llvmIr),
   ("preprocessed".toList, .preprocessed)]

def filterFields : List Text :=
  ["binary".toList, "directives".toList, "commentOnly".toList, "labels".toList]

def filterOfJson? (j : Json) : Option Assembly.Filter :=
  match j.asRecord? filterFields with
  | some [binary, directives, commentOnly, labels] => do
    let default : Assembly.Filter := {}
    return {
      binary := ← Json.fieldOr default.binary Json.asBool? binary
      directives := ← Json.fieldOr default.directives Json.asBool? directives
      commentOnly := ← Json.fieldOr default.commentOnly Json.asBool? commentOnly
      labels := ← Json.fieldOr default.labels Json.asBool? labels }
  | _ => none

def pathOfJson? (j : Json) : Option Path :=
  j.asText?.map Path.mk

/-- The names of the settings, in order. -/
def fields : List Text :=
  ["compilationDirectory".toList, "workspaceFolder".toList, "timeoutSecs".toList,
   "demangler".toList, "demanglerPath".toList, "intelSyntax".toList, "output".toList,
   "filter".toList, "extraArguments".toList]

/-- Reads settings; what is missing is as by default. -/
def ofJson? (j : Json) : Option Settings :=
  match j.asRecord? fields with
  | some [directory, workspace, timeout, demangler, demanglerPath, intel, output, filter, extra] => do
    let default : Settings := {}
    return {
      compilationDirectory := ← Json.fieldOr default.compilationDirectory Json.asText? directory
      workspaceFolder := ← Json.fieldOr none (Json.asOptional? pathOfJson?) workspace
      timeoutSeconds := ← Json.fieldOr default.timeoutSeconds (Json.asNat? (Nat.pow 2 64)) timeout
      demangler := ← Json.fieldOr default.demangler Json.asText? demangler
      demanglerPath := ← Json.fieldOr none (Json.asOptional? pathOfJson?) demanglerPath
      intel := ← Json.fieldOr default.intel Json.asBool? intel
      output := ← Json.fieldOr default.output (Json.asChoice? outputKinds) output
      filter := ← Json.fieldOr default.filter filterOfJson? filter
      extraArguments := ← Json.fieldOr [] (Json.asList? Json.asText?) extra }
  | _ => none

def ofText? (t : Text) : Option Settings :=
  (Json.parse? t).bind ofJson?

def load (host : Host) (p : Path) : Except Failure Settings :=
  match host.readText p with
  | .ok t =>
    match ofText? t with
    | some s => .ok s
    | none => .error (.invalidSettings (p.text ++ ": not a settings record".toList))
  | .error e => .error (.io e.message)

end Settings

end AsmExplorer
