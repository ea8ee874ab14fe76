import AsmExplorer.Command.Words
import AsmExplorer.Host.Basic
import AsmExplorer.Json.Reader

/-!
# Entries and invocations

An entry of a compilation database says in which directory a source file is compiled and by which
command, as it was recorded. From it comes the invocation: the same command without its outputs and
without the source file, which are added anew for each run.
-/

namespace AsmExplorer

/-- A recorded compile command. -/
structure CompileEntry where
  directory : Path
  file : Path
  command : Option Text := none
  arguments : Option (List Text) := none
  deriving DecidableEq, Repr, Inhabited

/-- How a source file is compiled. -/
structure Invocation where
  source : Path
  directory : Path
  executable : Text
  arguments : List Text
  deriving DecidableEq, Repr, Inhabited

namespace CompileEntry

/-- The names of an entry's fields, in order. -/
def fields : List Text :=
  ["directory".toList, "file".toList, "command".toList, "arguments".toList]

/-- Reads an entry. The directory and the file have to be there. -/
def ofJson? (j : Json) : Option CompileEntry :=
  match j.asRecord? fields with
  | some [some directory, some file, command, arguments] => do
    return {
      directory := ⟨← directory.asText?⟩
      file := ⟨← file.asText?⟩
      command := ← Json.fieldOr none (Json.asOptional? Json.asText?) command
      arguments := ← Json.fieldOr none (Json.asOptional? (Json.asList? Json.asText?)) arguments }
  | _ => none

def listOfText? (t : Text) : Option (List CompileEntry) :=
  (Json.parse? t).bind (Json.asList? ofJson?)

/-- The words of the command: those of the text, unless it is blank or missing. -/
def words (e : CompileEntry) : List Text :=
  match e.command with
  | some command =>
    if Text.trim isBlank command = [] then e.arguments.getD [] else Command.splitWords command
  | none => e.arguments.getD []

/-- The directory of the entry, seen from the directory of the database. -/
def directoryFrom (e : CompileEntry) (base : Path) : Path :=
  base.join e.directory

/-- The path of the source file, before links are followed. -/
def joined (e : CompileEntry) (base : Path) : Path :=
  (e.directoryFrom base).join e.file

def source (e : CompileEntry) (host : Host) (base : Path) : Path :=
  host.canonicalPath (e.joined base)

/-- The words that stand for the source file. -/
def sourceWords (e : CompileEntry) (host : Host) (base : Path) : List Text :=
  [e.file.text, (e.joined base).text, (e.source host base).text]

/-- The words that remain of the command: no outputs, and not the source file. -/
def keptWords (e : CompileEntry) (host : Host) (base : Path) : List Text :=
  (Command.dropOutputArguments e.words).filter fun w =>
    !(e.sourceWords host base).contains w

/-- The invocation of an entry whose database is in the given directory; without a command there is
none. -/
def invocation? (e : CompileEntry) (host : Host) (base : Path) : Option Invocation :=
  match e.keptWords host base with
  | [] => none
  | executable :: arguments =>
    some ⟨e.source host base, e.directoryFrom base, executable, arguments⟩

end CompileEntry

end AsmExplorer
