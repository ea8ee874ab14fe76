import AsmExplorer.Files.Walk
import AsmExplorer.Shell.Fields
import AsmExplorer.Shell.Pattern
import AsmExplorer.Text.Octets

/-!
# Patterns of paths

A field that is a pattern stands for the files whose paths have it. Components of a path are matched one
by one; a name that begins with a dot is met only by a component that does.
-/

namespace AsmExplorer.Shell

/-- The parts of a path pattern: what comes before the first component that is a pattern, that
component, and what follows it. -/
structure PathPattern where
  before : Text
  component : Text
  rest : Option Text

namespace PathPattern

/-- Whether a bracket in front of a text is closed within the component. -/
def closesBracket : Nat → Text → Bool
  | 0, _ => false
  | n + 1, t =>
    match if t.head? = some '\\' then t.drop 1 else t with
    | [] => false
    | c :: rest => c != '/' && (rest.head? == some ']' || closesBracket n rest)

/-- Looks for the first component that is a pattern, given what has been passed, in reverse. -/
def find? (isPattern : Bool) (before component : Text) : Nat → Text → Option PathPattern
  | 0, _ => none
  | _ + 1, [] => if isPattern then some ⟨before.reverse, component.reverse, none⟩ else none
  | n + 1, c :: rest =>
    let atSlash (passed rest : Text) : Option PathPattern :=
      if isPattern then some ⟨before.reverse, component.reverse, some rest⟩
      else find? false (passed ++ component ++ before) [] n rest
    if c = '*' ∨ c = '?' then find? true before (c :: component) n rest
    else if c = '[' then
      let inner := if rest.head? = some '!' then rest.drop 1 else rest
      find? (isPattern || closesBracket (inner.length + 1) inner) before (c :: component) n rest
    else
      match c, rest with
      | '\\', d :: rest =>
        if d = '/' then atSlash ['/', '\\'] rest
        else find? isPattern before (d :: '\\' :: component) n rest
      | '/', rest => atSlash ['/'] rest
      | c, rest => find? isPattern before (c :: component) n rest

/-- A text without the backslashes in front of other characters. -/
def withoutBackslashes : Text → Text
  | '\\' :: c :: rest => c :: withoutBackslashes rest
  | c :: rest => c :: withoutBackslashes rest
  | [] => []

/-- Whether a path leads to something, a link at its end not being followed. -/
def isThere (fs : FileSystem) (base : Location) (path : Text) : Bool :=
  match fs.walkPath false base ⟨Octets.toText path⟩ with
  | .found _ => true
  | _ => false

def entries (fs : FileSystem) (base : Location) (path : Text) : List Text :=
  match fs.locate base ⟨if path.isEmpty then ['.'] else Octets.toText path⟩ with
  | .ok l =>
    if fs.hasDirectory l then ['.'] :: ['.', '.'] :: (fs.names l).map Octets.ofText else []
  | .error _ => []

/-- The paths that have a pattern, behind a path that has been found. -/
def matchesBehind (fs : FileSystem) (base : Location) : Nat → Text → Text → List Text
  | 0, _, _ => []
  | n + 1, path, pattern =>
    match find? false [] [] (pattern.length + 1) pattern with
    | none =>
      let whole := path ++ withoutBackslashes pattern
      if path.isEmpty ∨ ¬ isThere fs base whole then [] else [whole]
    | some p =>
      let path := path ++ withoutBackslashes p.before
      let showsHidden :=
        (if p.component.head? = some '\\' then p.component.drop 1 else p.component).head? = some '.'
      let tokens := Pattern.ofText p.component
      let names := (entries fs base path).filter fun name =>
        (name.head? ≠ some '.' ∨ showsHidden) ∧ Pattern.fits tokens name
      match p.rest with
      | none => names.map fun name => path ++ name
      | some rest => names.flatMap fun name => matchesBehind fs base n (path ++ name ++ ['/']) rest

/-- Whether a text comes before another one, octet by octet. -/
def precedes (a b : Text) : Bool :=
  Text.compare a b != .gt

/-- The paths that have a pattern, in order. -/
def all (fs : FileSystem) (base : Location) (pattern : Text) : List Text :=
  (matchesBehind fs base (pattern.length + 1) [] pattern).mergeSort precedes

/-- The words that a field stands for: the paths that have it as a pattern, or its characters. -/
def wordsOf (fs : FileSystem) (base : Location) (field : List Cell) : List Text :=
  if Cell.mayBePattern field then
    match all fs base (Cell.pattern field) with
    | [] => [Cell.text field]
    | paths => paths
  else [Cell.text field]

end PathPattern

end AsmExplorer.Shell
