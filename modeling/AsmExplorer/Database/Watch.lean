import AsmExplorer.Path.Basic

/-!
# Watching a database file

What an event in the directory of a database file means for the database. Only the names of the files
that an event is about are looked at, so a file that is saved by renaming is seen as well.
-/

namespace AsmExplorer

inductive EventKind where
  | any
  | access
  | create
  | modify
  | remove
  | other
  deriving DecidableEq, Repr

/-- What an event asks for. -/
inductive WatchAction where
  | reload
  | remove
  deriving DecidableEq, Repr

/-- What an event about the given files means for the target. -/
def watchAction (kind : EventKind) (paths : List Path) (target : Path) : Option WatchAction := do
  let name ← target.fileName?
  if paths.any fun p => p.fileName? == some name then
    match kind with
    | .create => some .reload
    | .modify => some .reload
    | .remove => some .remove
    | _ => none
  else none

end AsmExplorer
