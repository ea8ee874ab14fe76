import AsmExplorer.Path.Basic

/-!
# Absolute form

The path of a file seen from the root, found without a look at any file system: `..` stays as it is,
since what stands before it may be a link.
-/

namespace AsmExplorer.Path

/-- The name that a component is below a directory. -/
def nameOf? : Component → Option Text
  | .name n => some n
  | .parent => some ['.', '.']
  | _ => none

/-- What the absolute form of a path begins with: the current directory for a relative path, and the
root for any other one. Exactly two slashes in front stay two. -/
def startFrom (current p : Path) : Path :=
  if !p.isAbsolute then current
  else if "//".toList.isPrefixOf p.text ∧ ¬ "///".toList.isPrefixOf p.text then .ofString "//"
  else .ofString "/"

/-- The absolute form of a path. Slashes that repeat and every `.` vanish, and a slash at the end
stays. The empty path has no absolute form and is kept. -/
def absolute (p current : Path) : Path :=
  if p.text = [] then p
  else
    let whole := (p.key.filterMap nameOf?).foldl (fun q n => q.join ⟨n⟩) (startFrom current p)
    if p.text.getLast? = some '/' then whole.join ⟨[]⟩ else whole

end AsmExplorer.Path
