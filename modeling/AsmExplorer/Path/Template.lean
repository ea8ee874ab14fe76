import AsmExplorer.Path.Normalize

/-!
# Path templates

A template is a path with placeholders, each a name in braces behind a dollar sign. A placeholder
whose name is a variable with a value stands for that value; every other one stands for itself. The
values are not read as templates again. What the template stands for is then normalized.
-/

namespace AsmExplorer.Template

/-- What a placeholder can name. -/
inductive Variable where
  /-- The workspace. -/
  | workspaceFolder
  /-- The file name of the workspace. -/
  | workspaceFolderBasename
  /-- The source file. -/
  | file
  /-- The name of the source file. -/
  | fileBasename
  /-- The name of the source file without its extension. -/
  | fileBasenameNoExtension
  /-- The directory of the source file. -/
  | fileDirname
  /-- The extension of the source file with the dot in front. -/
  | fileExtname
  /-- The source file as seen from the workspace. -/
  | relativeFile
  /-- The slash. -/
  | pathSeparator
  deriving DecidableEq, Repr

/-- The variables by their names. -/
def named : List (Text × Variable) :=
  [("workspaceFolder".toList, .workspaceFolder),
   ("workspaceFolderBasename".toList, .workspaceFolderBasename),
   ("file".toList, .file),
   ("fileBasename".toList, .fileBasename),
   ("fileBasenameNoExtension".toList, .fileBasenameNoExtension),
   ("fileDirname".toList, .fileDirname),
   ("fileExtname".toList, .fileExtname),
   ("relativeFile".toList, .relativeFile),
   ("pathSeparator".toList, .pathSeparator)]

/-- The value of a variable for a source file in a workspace. -/
def Variable.value? (source workspace : Path) : Variable → Option Text
  | .workspaceFolder => some workspace.text
  | .workspaceFolderBasename => workspace.fileName?
  | .file => some source.text
  | .fileBasename => source.fileName?
  | .fileBasenameNoExtension => source.fileStem?
  | .fileDirname => source.parent?.map Path.text
  | .fileExtname => some ((source.extension?.map ('.' :: ·)).getD [])
  | .relativeFile => some ((source.stripPrefix? workspace).getD source).text
  | .pathSeparator => some ['/']

/-- What opens a placeholder. -/
def opening : Text := ['$', '\x7b']

/-- What closes a placeholder. -/
def closing : Text := ['\x7d']

inductive Piece where
  | literal (t : Text)
  | placeholder (name : Text)
  deriving DecidableEq, Repr

/-- The parts of a template. An opening without a closing behind it is part of a literal. -/
def pieces (template : Text) : List Piece :=
  match _hopen : Text.splitAtFirst? opening template with
  | none => [.literal template]
  | some (before, after) =>
    match _hclose : Text.splitAtFirst? closing after with
    | none => [.literal template]
    | some (name, rest) => .literal before :: .placeholder name :: pieces rest
termination_by template.length
decreasing_by
  have := congrArg List.length (Text.eq_append_of_splitAtFirst? _hopen)
  have := congrArg List.length (Text.eq_append_of_splitAtFirst? _hclose)
  simp [opening, closing] at *
  omega

def Piece.expand (source workspace : Path) : Piece → Text
  | .literal t => t
  | .placeholder name =>
    (((named.lookup name).bind (Variable.value? source workspace))).getD
      (opening ++ name ++ closing)

/-- What a template stands for, before it is normalized. -/
def expand (template : Text) (source workspace : Path) : Text :=
  (pieces template).flatMap (Piece.expand source workspace)

def resolve (template : Text) (source workspace : Path) : Path :=
  Path.normalize ⟨expand template source workspace⟩

end AsmExplorer.Template
