import AsmExplorer.Database.Basic

/-!
# The registry of databases

Databases are shared: who has asked for one keeps it and sees every later change to it. The registry
therefore keeps all databases under numbers and, apart from that, a table of those that are in use,
one for each database file. A file is known by the canonical path of its directory and by its name,
so that it stays the same file while it is deleted.
-/

namespace AsmExplorer

/-- All databases by their numbers, and the numbers of those in use by the keys of their files. -/
structure Registry where
  databases : List CompileDatabase
  table : Table (List Component) Nat

namespace Registry

def empty : Registry := ⟨[], Table.empty⟩

instance : Inhabited Registry := ⟨empty⟩

/-- The path that identifies a database file. -/
def keyPath (host : Host) (file : Path) : Path :=
  match file.parent?, file.fileName? with
  | some directory, some name =>
    if directory.text = [] then host.canonicalPath file
    else (host.canonicalPath directory).join ⟨name⟩
  | _, _ => host.canonicalPath file

def database? (r : Registry) (id : Nat) : Option CompileDatabase :=
  r.databases[id]?

def modify (r : Registry) (id : Nat) (f : CompileDatabase → CompileDatabase) : Registry :=
  { r with databases := r.databases.modify id f }

/-- The number of the database in use for a file. -/
def get? (r : Registry) (host : Host) (file : Path) : Option Nat :=
  r.table.get? (keyPath host file).key

/-- The registry with a new database under a number of its own, not yet in use. -/
def add (r : Registry) (db : CompileDatabase) : Registry × Nat :=
  ({ r with databases := r.databases ++ [db] }, r.databases.length)

/-- The registry with a database in use for a file, whatever was before. -/
def insert (r : Registry) (host : Host) (file : Path) (id : Nat) : Registry :=
  { r with table := r.table.insert (keyPath host file).key id }

/-- Takes a database that was loaded for a file into use, unless another one has come into use
meanwhile, which then counts. -/
def adopt (r : Registry) (host : Host) (file : Path) (db : CompileDatabase) : Registry × Nat :=
  match r.get? host file with
  | some id => (r, id)
  | none =>
    let (r, id) := r.add db
    (r.insert host file id, id)

/-- The number of the database for a file, which is loaded if none is in use. -/
def getOrLoad (r : Registry) (host : Host) (file : Path) : Registry × Except Failure Nat :=
  match r.get? host file with
  | some id => (r, .ok id)
  | none =>
    match CompileDatabase.load host (keyPath host file) with
    | .ok db =>
      let (r, id) := r.adopt host file db
      (r, .ok id)
    | .error e => (r, .error e)

/-- Reads the file of a database in use again. Tells whether there is one; where reading fails, the
database stays as it is. -/
def reload (r : Registry) (host : Host) (file : Path) : Registry × Except Failure Bool :=
  match r.get? host file with
  | none => (r, .ok false)
  | some id =>
    match (r.database? id).map fun db => readEntries host db.origin with
    | some (.ok entries) => (r.modify id fun db => db.replace host entries, .ok true)
    | some (.error e) => (r, .error e)
    | none => (r, .ok true)

/-- Takes the database for a file out of use and empties it. -/
def remove (r : Registry) (host : Host) (file : Path) : Registry × Option Nat :=
  match r.get? host file with
  | some id =>
    ({ r with table := r.table.erase (keyPath host file).key }.modify id CompileDatabase.clear,
     some id)
  | none => (r, none)

/-- Takes all databases out of use and empties them. -/
def clear (r : Registry) : Registry :=
  { r.table.values.foldl (fun r id => r.modify id CompileDatabase.clear) r with
    table := Table.empty }

def size (r : Registry) : Nat :=
  r.table.size

def isEmpty (r : Registry) : Bool :=
  r.table.isEmpty

end Registry

end AsmExplorer
