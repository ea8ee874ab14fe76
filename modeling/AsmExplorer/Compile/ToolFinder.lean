import AsmExplorer.Host.Basic

/-!
# Finding the demangler of a compiler

A toolchain keeps its demangler beside its compiler. In the directory of the compiler, the name made
from the compiler's own is preferred, then the plain name of the tool, then the least name that ends
in it. What has been found for a compiler is kept; when nothing is found, the bare name of the tool
is given and nothing is kept.
-/

namespace AsmExplorer

/-- Finds a tool for compilers and remembers what it has found. -/
structure ToolFinder where
  tool : Text
  /-- The directories for bare compiler names, if not those of the host. -/
  searchPath : Option Text := none
  found : Table Text Path := Table.empty

namespace ToolFinder

/-- The parts of compiler names that the tool's name replaces; the first one that occurs counts. -/
def compilerWords : List Text :=
  ["clang++".toList, "clang".toList, "g++".toList, "gcc".toList, "c++".toList, "cc".toList]

def addExtension (name : Text) : Option Text → Text
  | some ext => name ++ '.' :: ext
  | none => name

/-- How the name of the tool ends: with the extension of the compiler, if it has one. -/
def ending (f : ToolFinder) (compiler : Path) : Text :=
  addExtension f.tool compiler.extension?

/-- The name of the compiler with the tool's name in it. -/
def guessedName? (f : ToolFinder) (compiler : Path) : Option Text := do
  let stem ← compiler.fileStem?
  let word ← compilerWords.find? fun w => Text.occursIn w stem
  return addExtension (Text.replaceFirst word f.tool stem) compiler.extension?

/-- The directory that an entry of a search path stands for. A tilde as its first component is the
user's own directory. -/
def entryDirectory (host : Host) (entry : Text) : Path :=
  match Path.components ⟨entry⟩ with
  | .name ['~'] :: rest =>
    rest.foldl (fun p c => p.join ⟨c.text⟩) ⟨host.home⟩
  | _ => ⟨entry⟩

/-- Where a bare name is found on a search path: the first executable file of that name. -/
def locate? (host : Host) (searchPath name : Text) : Option Path :=
  ((searchPath.splitOn ':').map fun d => (entryDirectory host d).join ⟨name⟩).find? fun p =>
    (host.files.nodeAt? host.directory p).any FileSystem.isExecutable

/-- The directory of a compiler: the one in its path, or else the one it is found in. -/
def directory? (f : ToolFinder) (host : Host) (compiler : Path) : Option Path :=
  match compiler.parent? with
  | some ⟨c :: rest⟩ => some ⟨c :: rest⟩
  | _ => (locate? host (f.searchPath.getD host.searchPath) compiler.text).bind Path.parent?

def least? : List Text → Option Text
  | [] => none
  | name :: rest =>
    match least? rest with
    | some other => if (Text.compare name other).isLE then some name else some other
    | none => some name

/-- The name to take among those in a directory. -/
def choose? (names : List Text) (ending : Text) (preferred : Option Text) : Option Text :=
  let candidates := names.filter ending.isSuffixOf
  match preferred.filter candidates.contains with
  | some name => some name
  | none => if candidates.contains ending then some ending else least? candidates

def inDirectory? (f : ToolFinder) (host : Host) (compiler : Path) : Option Path := do
  let directory ← f.directory? host compiler
  let name ← choose? (host.names directory) (f.ending compiler) (f.guessedName? compiler)
  return directory.join ⟨name⟩

/-- The path of the compiler with the guessed name, if it leads anywhere. -/
def besideCompiler? (f : ToolFinder) (host : Host) (compiler : Path) : Option Path :=
  ((f.guessedName? compiler).map compiler.withFileName).filter host.pathExists

/-- The tool for a compiler, as the files are now. -/
def lookup? (f : ToolFinder) (host : Host) (compiler : Text) : Option Path :=
  (f.inDirectory? host ⟨compiler⟩).or (f.besideCompiler? host ⟨compiler⟩)

/-- What was found for a compiler before. -/
def cached? (f : ToolFinder) (compiler : Text) : Option Path :=
  f.found.get? compiler

def remember (f : ToolFinder) (compiler : Text) (result : Option Path) : ToolFinder :=
  match result with
  | some path => { f with found := f.found.insert compiler path }
  | none => f

/-- The tool for a compiler: what is kept, else what is found now, else the bare name. -/
def resolve (f : ToolFinder) (host : Host) (compiler : Text) : ToolFinder × Path :=
  match f.cached? compiler with
  | some path => (f, path)
  | none =>
    let result := f.lookup? host compiler
    (f.remember compiler result, result.getD ⟨f.tool⟩)

end ToolFinder

end AsmExplorer
