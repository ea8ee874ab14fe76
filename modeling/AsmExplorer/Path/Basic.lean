import AsmExplorer.Text.Basic

/-!
# Paths

A path is a text that is read as a list of components but printed as it is spelled. Slashes that
repeat, a slash at the end, and `.` anywhere but at the front of a relative path do not count. Two
paths are the same when their components are (`Path.key`); what is cut from a path, such as its
parent, keeps the spelling of the part that stays.
-/

namespace AsmExplorer

/-- A path, as it is spelled. -/
structure Path where
  text : Text
  deriving DecidableEq, Repr, Inhabited

/-- One step of a path. -/
inductive Component where
  /-- The slash at the front of an absolute path. -/
  | root
  /-- The `.` at the front of a relative path. -/
  | current
  /-- A `..`. -/
  | parent
  /-- A name in a directory. -/
  | name (n : Text)
  deriving DecidableEq, Repr, Inhabited

namespace Component

def text : Component → Text
  | .root => ['/']
  | .current => ['.']
  | .parent => ['.', '.']
  | .name n => n

/-- The place of a component's kind in the order of components. -/
def rank : Component → Nat
  | .root => 0
  | .current => 1
  | .parent => 2
  | .name _ => 3

/-- Order of components: by kind, and names by their text. -/
def compare (a b : Component) : Ordering :=
  match a, b with
  | .name m, .name n => Text.compare m n
  | a, b => Ord.compare a.rank b.rank

/-- The component of a segment between slashes; an empty segment and `.` have none. -/
def ofSegment? (segment : Text) : Option Component :=
  if segment = [] ∨ segment = ['.'] then none
  else if segment = ['.', '.'] then some .parent
  else some (.name segment)

end Component

/-- Order of lists of components, component by component. -/
def compareComponents : List Component → List Component → Ordering
  | [], [] => .eq
  | [], _ :: _ => .lt
  | _ :: _, [] => .gt
  | a :: s, b :: t => (a.compare b).then (compareComponents s t)

namespace Path

/-- The path that a string literal spells. -/
def ofString (s : String) : Path := ⟨s.toList⟩

/-- Whether the path begins with a slash. -/
def isAbsolute (p : Path) : Bool :=
  p.text.head? == some '/'

/-- The part of the text that is the first component by itself: the slash of an absolute path or the
`.` at the front of a relative one. -/
def front (p : Path) : Text :=
  match p.text with
  | '/' :: _ => ['/']
  | ['.'] => ['.']
  | '.' :: '/' :: _ => ['.']
  | _ => []

def frontComponent (p : Path) : List Component :=
  match p.front with
  | [] => []
  | '/' :: _ => [.root]
  | _ => [.current]

/-- What stands between the slashes behind the front. -/
def segments (p : Path) : List Text :=
  (p.text.drop p.front.length).splitOn '/'

def components (p : Path) : List Component :=
  p.frontComponent ++ p.segments.filterMap Component.ofSegment?

/-- What identifies the path among all spellings of it. -/
def key (p : Path) : List Component := p.components

def compare (p q : Path) : Ordering := compareComponents p.key q.key

/-- Whether a segment does not count as a component. -/
def isSilent (segment : Text) : Bool :=
  (Component.ofSegment? segment).isNone

/-- The segments without the silent ones at the end. -/
def dropSilentEnd (segments : List Text) : List Text :=
  (segments.reverse.dropWhile isSilent).reverse

def ofSegments (front : Text) (segments : List Text) : Path :=
  ⟨front ++ Text.join ['/'] segments⟩

/-- The path without its last component, if that is not the root. -/
def parent? (p : Path) : Option Path :=
  match (dropSilentEnd p.segments).reverse with
  | _ :: before => some (ofSegments p.front (dropSilentEnd before.reverse))
  | [] => if p.front = ['.'] then some ⟨[]⟩ else none

def fileName? (p : Path) : Option Text :=
  match (dropSilentEnd p.segments).getLast? with
  | some name => if name = ['.', '.'] then none else some name
  | none => none

/-- A file name cut at its last dot. A name without a dot, or with its only dot in front, has no
extension. -/
def splitName (name : Text) : Text × Option Text :=
  let ext := (name.reverse.takeWhile (· ≠ '.')).reverse
  let rest := name.take (name.length - ext.length)
  if rest = [] ∨ rest = ['.'] then (name, none) else (rest.dropLast, some ext)

/-- The file name without its extension. -/
def fileStem? (p : Path) : Option Text :=
  p.fileName?.map fun n => (splitName n).1

def extension? (p : Path) : Option Text :=
  p.fileName?.bind fun n => (splitName n).2

/-- The path followed by another one. An absolute one replaces it. -/
def join (p q : Path) : Path :=
  if q.isAbsolute then q
  else if p.text = [] ∨ p.text.getLast? = some '/' then ⟨p.text ++ q.text⟩
  else ⟨p.text ++ '/' :: q.text⟩

/-- The path with the last name replaced, or with the name added when there is none to replace. -/
def withFileName (p : Path) (name : Text) : Path :=
  if p.fileName?.isSome then (p.parent?.getD p).join ⟨name⟩ else p.join ⟨name⟩

/-- The path cut behind the stem of its file name, with the extension added. Without a file name it
is unchanged. -/
def setExtension (p : Path) (ext : Text) : Path :=
  match p.fileName? with
  | none => p
  | some name =>
    let kept := dropSilentEnd p.segments
    ofSegments p.front (kept.dropLast ++ [(splitName name).1 ++ '.' :: ext])

/-- The path with another extension. The old one is first cut off by its length from the end of the
text, and the stem is then read from what remains. -/
def withExtension (p : Path) (ext : Text) : Path :=
  match p.extension? with
  | none => p.setExtension ext
  | some old => setExtension ⟨p.text.take (p.text.length - old.length)⟩ ext

/-- The segments without the silent ones at the front. -/
def dropSilentFront (segments : List Text) : List Text :=
  segments.dropWhile isSilent

/-- The segments behind the first `n` that count. -/
def dropCounted : Nat → List Text → List Text
  | 0, segments => segments
  | n + 1, segments => dropCounted n (dropSilentFront segments).tail

/-- What follows the base in the path, if the path begins with the components of the base. -/
def stripPrefix? (p base : Path) : Option Path :=
  if base.key.isPrefixOf p.key then
    if base.key = [] then some (ofSegments p.front (dropSilentEnd p.segments))
    else
      let rest := dropCounted (base.key.length - p.frontComponent.length) p.segments
      some (ofSegments [] (dropSilentEnd (dropSilentFront rest)))
  else none

/-- The text of a list of components, in its one plain spelling. -/
def ofComponents (cs : List Component) : Path :=
  match cs with
  | .root :: rest => ofSegments ['/'] (rest.map Component.text)
  | cs => ofSegments [] (cs.map Component.text)

end Path

end AsmExplorer
