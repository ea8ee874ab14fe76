import AsmExplorer.Path.Basic

/-!
# Lexical normal form

Removing `.` and `..` from a path without a look at any file system: a component at a time is pushed
on a stack, and a `..` takes the last one off. Any component but the root can be taken off, a `..`
that was kept included; where nothing can be, the `..` is kept.
-/

namespace AsmExplorer

/-- The components after one more, the last one first. -/
def pushComponent (stack : List Component) : Component → List Component
  | .current => stack
  | .parent =>
    match stack with
    | [] => [.parent]
    | .root :: rest => .parent :: .root :: rest
    | _ :: rest => rest
  | c => c :: stack

/-- The components that remain when `.` and `..` are resolved lexically. -/
def normalizeComponents (cs : List Component) : List Component :=
  (cs.foldl pushComponent []).reverse

/-- The path with `.` and `..` resolved lexically; the empty path becomes `.`. -/
def Path.normalize (p : Path) : Path :=
  match normalizeComponents p.components with
  | [] => ⟨['.']⟩
  | cs => Path.ofComponents cs

end AsmExplorer
