import AsmExplorer.Database.Entry

/-!
# Compilation databases

A compilation database holds one invocation for each source file. It is made from a list of entries,
of which the last one for a file counts, and remembers the file that it was loaded from.
-/

namespace AsmExplorer

/-- The invocations of source files. A path is looked up by its components. -/
structure CompileDatabase where
  origin : Path
  commands : Table (List Component) Invocation

def readEntries (host : Host) (p : Path) : Except Failure (List CompileEntry) :=
  match host.readText p with
  | .ok t =>
    match CompileEntry.listOfText? t with
    | some entries => .ok entries
    | none => .error (.malformedDatabase p)
  | .error .notFound => .error (.databaseNotFound p)
  | .error e => .error (.io e.message)

namespace CompileDatabase

/-- The directory that a database is in: what it was made from itself, or its parent. -/
def baseOf (host : Host) (origin : Path) : Path :=
  if host.isDirectory origin then origin else (origin.parent?).getD (.ofString ".")

def addEntry (host : Host) (base : Path) (commands : Table (List Component) Invocation)
    (e : CompileEntry) : Table (List Component) Invocation :=
  match e.invocation? host base with
  | some invocation => commands.insert invocation.source.key invocation
  | none => commands

def tableOf (host : Host) (base : Path) (entries : List CompileEntry) :
    Table (List Component) Invocation :=
  entries.foldl (addEntry host base) Table.empty

def ofEntries (host : Host) (origin : Path) (entries : List CompileEntry) : CompileDatabase :=
  ⟨origin, tableOf host (baseOf host origin) entries⟩

def load (host : Host) (p : Path) : Except Failure CompileDatabase :=
  (readEntries host p).map (ofEntries host p)

def replace (db : CompileDatabase) (host : Host) (entries : List CompileEntry) : CompileDatabase :=
  ofEntries host db.origin entries

/-- The database with the entries that its file has now. -/
def reload (db : CompileDatabase) (host : Host) : Except Failure CompileDatabase :=
  (readEntries host db.origin).map (db.replace host)

def clear (db : CompileDatabase) : CompileDatabase :=
  ⟨db.origin, Table.empty⟩

/-- The invocation of a source file, under the path as given or under its canonical path. -/
def get? (db : CompileDatabase) (host : Host) (source : Path) : Option Invocation :=
  (db.commands.get? source.key).or (db.commands.get? (host.canonicalPath source).key)

def size (db : CompileDatabase) : Nat :=
  db.commands.size

def isEmpty (db : CompileDatabase) : Bool :=
  db.commands.isEmpty

/-- The source files in ascending order. -/
def sources (db : CompileDatabase) : List Path :=
  (db.commands.values.map Invocation.source).mergeSort fun p q => (p.compare q).isLE

end CompileDatabase

end AsmExplorer
