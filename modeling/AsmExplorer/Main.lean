import AsmExplorer.CommandLine.Run

/-!
# The program

The command line on the files of the machine: the current directory and what the words name are taken
into the tree of files, and what the command line has to say is written.
-/

namespace AsmExplorer.CommandLine

/-- How deep directories are taken into the tree. -/
def loadDepth : Nat := 24

/-- The tree with what is at a path of the machine. A file that begins as a script does can be
executed. -/
def load : Nat → String → FileSystem → IO FileSystem
  | 0, _, fs => pure fs
  | n + 1, name, fs => do
    let path ← IO.FS.realPath name
    let here := Path.ofString path.toString
    if ← path.isDir then
      let mut fs := fs.install [] here .directory
      for entry in ← path.readDir do
        fs ← try load n entry.path.toString fs catch _ => pure fs
      return fs
    else if ← path.pathExists then
      let bytes := (← IO.FS.readBinFile path).toList
      return fs.install [] here (.file bytes ("#!".toUTF8.toList.isPrefixOf bytes))
    else return fs

/-- The host on which the command line runs. -/
def hostFor (words : List String) : IO Host := do
  let directory ← IO.FS.realPath "."
  let names := words.filter fun w => w.startsWith "/"
  let mut fs := Programs.install .empty
  for name in directory.toString :: names do
    fs ← try load loadDepth name fs catch _ => pure fs
  let steps := (directory.toString.toList.splitOn '/').filter (· ≠ [])
  return { files := fs, directory := steps, searchPath := Programs.location.toPath.text, home := "/root".toList }

end AsmExplorer.CommandLine

/-- Runs the command line. -/
def main (words : List String) : IO UInt32 := do
  let host ← AsmExplorer.CommandLine.hostFor words
  let t := AsmExplorer.CommandLine.run host (words.map String.toList)
  (← IO.getStdout).putStr (String.ofList t.out)
  (← IO.getStderr).putStr (String.ofList t.err)
  return UInt32.ofNat t.code
