import AsmExplorer.CommandLine.Arguments
import AsmExplorer.Diagnostic
import AsmExplorer.Explorer.Basic
import AsmExplorer.Path.Absolute

/-!
# Running the command line

The command line explores one source file: it prints the document, and its source map if asked for.
A failure is told of on the error channel, with the number of diagnostics that the compiler gave.
-/

namespace AsmExplorer.CommandLine

/-- What the command line leaves behind: its exit code and what it has written. -/
structure Transcript where
  code : Nat
  out : Text := []
  err : Text := []
  deriving DecidableEq, Repr

def usage : Text :=
  ("Usage: asmlens <source> [--build-dir <dir>] [--settings <file>] [--args \"<cmd>\"]\n" ++
    "               [--binary] [--keep-directives] [--keep-comments] [--keep-labels]\n" ++
    "               [--llvm-ir | --preprocess] [--intel] [--timeout <secs>] [--map] [--watch]").toList

def mapLine (entry : Nat × List Nat) : Text :=
  "; ".toList ++ Text.padLeft 5 ' ' (Text.ofNat entry.1) ++ ": ".toList ++
    Text.join ", ".toList (entry.2.map Text.ofNat) ++ ['\n']

/-- The source map of a document as it is printed. -/
def mapText (d : Assembly.Document) : Text :=
  "; ".toList ++ d.source.text ++ " -> ".toList ++ (Assembly.listingPath d.source).text ++ ['\n'] ++
    d.listing.map.entries.flatMap mapLine

def documentText (showMap : Bool) (d : Assembly.Document) : Text :=
  d.render ++ if showMap then mapText d else []

/-- The line that counts the diagnostics in an error output, if there are any. -/
def summaryText (stderr : Text) : Text :=
  match Diagnostic.parse stderr with
  | [] => []
  | ds =>
    let (errors, warnings) := Diagnostic.summarize ds
    Text.ofNat errors ++ " error(s), ".toList ++ Text.ofNat warnings ++ " warning(s)\n".toList

/-- What is told of a failure. A cancelled run is not told of. -/
def failureText (source : Path) (e : Failure) : Text :=
  if e.isCancelled then []
  else
    source.text ++ ": ".toList ++ e.message ++ ['\n'] ++ ((e.stderr?.map summaryText).getD [])

def explore (host : Host) (settings : Settings) (source : Path) (showMap : Bool) : Transcript :=
  match ((Explorer.ofSettings host settings).explore source []).2 with
  | .ok d => { code := 0, out := documentText showMap d }
  | .error e => { code := 1, err := failureText source e }

def run (host : Host) (words : List Text) : Transcript :=
  let a := Arguments.ofWords words
  match a.source with
  | none => { code := 1, err := usage ++ ['\n'] }
  | some source =>
    match a.settingsFor host with
    | .error e => { code := 1, err := e.message ++ ['\n'] }
    | .ok settings => explore host settings (source.absolute host.currentDirectory) a.showMap

end AsmExplorer.CommandLine
