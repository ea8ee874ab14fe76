import AsmExplorer.Assembly.Directive
import AsmExplorer.Data.Table
import AsmExplorer.Path.Basic

/-!
# Source files of a listing

Which of the numbered source files is the main one. A file is compared with the main file by its
last name alone. As long as a file has no entry, or no main file is known, the file with the number
one is taken for the main one.
-/

namespace AsmExplorer.Assembly

/-- The name of the main file, if it is known, and the paths of the numbered files. -/
structure SourceFiles where
  main : Option Text
  paths : Table Nat Text

namespace SourceFiles

def start (main : Option Text) : SourceFiles := ⟨main, Table.empty⟩

/-- The files after an entry. An entry without a number names the main file, unless that is known. -/
def record (files : SourceFiles) (entry : FileEntry) : SourceFiles :=
  match entry.index with
  | some index => { files with paths := files.paths.insert index entry.path }
  | none => { files with main := files.main.or (Path.fileName? ⟨entry.path⟩) }

def isMain (files : SourceFiles) (index : Nat) : Bool :=
  match files.main, files.paths.get? index with
  | some main, some path => Path.fileName? ⟨path⟩ == some main
  | _, _ => index == 1

/-- The main file's line that a marker points at: none for the line zero or another file. -/
def correlate (files : SourceFiles) (index line : Nat) : Option Nat :=
  if line = 0 then none else if files.isMain index then some line else none

end SourceFiles

end AsmExplorer.Assembly
