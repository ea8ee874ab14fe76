import AsmExplorer.Data.Table
import AsmExplorer.Path.Basic

/-!
# Runs

At most one run of a source file is current. A run that begins takes the place of the current one,
which is then told to stop. A run that ends gives its place back, unless a newer run has it. What
takes a place away and what tells a run to stop are steps of their own.
-/

namespace AsmExplorer

/-- The current run of each source file, the runs that were told to stop, and the next number. -/
structure RunRegistry where
  current : Table (List Component) Nat
  stopped : List Nat
  next : Nat

namespace RunRegistry

def empty : RunRegistry := ⟨Table.empty, [], 0⟩

instance : Inhabited RunRegistry := ⟨empty⟩

def isStopped (r : RunRegistry) (id : Nat) : Bool :=
  r.stopped.contains id

def stop (r : RunRegistry) (id : Nat) : RunRegistry :=
  if r.isStopped id then r else { r with stopped := id :: r.stopped }

def stopAll (r : RunRegistry) (ids : List Nat) : RunRegistry :=
  ids.foldl stop r

@[simp] theorem current_stop (r : RunRegistry) (id : Nat) : (r.stop id).current = r.current := by
  unfold stop
  split <;> rfl

@[simp] theorem next_stop (r : RunRegistry) (id : Nat) : (r.stop id).next = r.next := by
  unfold stop
  split <;> rfl

theorem isStopped_stop {r : RunRegistry} {id x : Nat} :
    (r.stop id).isStopped x = true ↔ r.isStopped x = true ∨ x = id := by
  unfold stop
  split
  · next h =>
    constructor
    · exact Or.inl
    · rintro (hx | rfl)
      · exact hx
      · exact h
  · simp [isStopped, or_comm]

@[simp] theorem current_stopAll (r : RunRegistry) (ids : List Nat) :
    (r.stopAll ids).current = r.current := by
  induction ids generalizing r with
  | nil => rfl
  | cons id rest ih => exact (ih (r.stop id)).trans (current_stop r id)

@[simp] theorem next_stopAll (r : RunRegistry) (ids : List Nat) :
    (r.stopAll ids).next = r.next := by
  induction ids generalizing r with
  | nil => rfl
  | cons id rest ih => exact (ih (r.stop id)).trans (next_stop r id)

/-- A run is stopped by nothing but being told to. -/
theorem isStopped_stopAll {r : RunRegistry} {ids : List Nat} {x : Nat} :
    (r.stopAll ids).isStopped x = true ↔ r.isStopped x = true ∨ x ∈ ids := by
  induction ids generalizing r with
  | nil => simp [stopAll]
  | cons id rest ih =>
    have h : (r.stopAll (id :: rest)).isStopped x = ((r.stop id).stopAll rest).isStopped x := rfl
    rw [h, ih, isStopped_stop, List.mem_cons, or_assoc]

def draw (r : RunRegistry) : RunRegistry × Nat :=
  ({ r with next := r.next + 1 }, r.next)

/-- Gives a run the place of its source file. The run that had it is told apart. -/
def place (r : RunRegistry) (source : Path) (id : Nat) : RunRegistry × Option Nat :=
  ({ r with current := r.current.insert source.key id }, r.current.get? source.key)

/-- Takes the place of a source file away. The run that had it is told apart. -/
def vacate (r : RunRegistry) (source : Path) : RunRegistry × Option Nat :=
  ({ r with current := r.current.erase source.key }, r.current.get? source.key)

def vacateAll (r : RunRegistry) : RunRegistry × List Nat :=
  ({ r with current := Table.empty }, r.current.values)

/-- Begins a run: it gets the place of its source file, and the run that had it is told to stop. -/
def begin (r : RunRegistry) (source : Path) : RunRegistry × Nat :=
  let (r, id) := r.draw
  let (r, previous) := r.place source id
  (r.stopAll previous.toList, id)

/-- Tells the current run of a source file to stop and takes its place away. -/
def cancel (r : RunRegistry) (source : Path) : RunRegistry × Bool :=
  let (r, id) := r.vacate source
  (r.stopAll id.toList, id.isSome)

def cancelAll (r : RunRegistry) : RunRegistry :=
  let (r, ids) := r.vacateAll
  r.stopAll ids

/-- Gives the place of a source file back, if the run has it. -/
def finish (r : RunRegistry) (source : Path) (id : Nat) : RunRegistry :=
  if r.current.get? source.key = some id then { r with current := r.current.erase source.key }
  else r

def active (r : RunRegistry) : Nat :=
  r.current.size

end RunRegistry

end AsmExplorer
