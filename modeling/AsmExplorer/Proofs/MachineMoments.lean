import AsmExplorer.Machine.Outside
import Mathlib.Logic.Relation
import Mathlib.Tactic.Lemma

/-!
# Moments of a machine

A machine lets one program go on at a time. A moment is the machine between two deeds, together with
the program that has its turn and is not put back yet. Whatever a machine does, in whatever order
programs get their turns and however long these are, is a sequence of steps between moments.
-/

namespace AsmExplorer.Proofs

open Machine

/-- A machine, and the program that has its turn, as it is by now. -/
structure Moment where
  machine : Machine
  active : Option (Task × Process)

namespace Moment

/-- The machine when the program that has its turn is put back. -/
def parked (s : Moment) : Machine :=
  match s.active with
  | none => s.machine
  | some (t, p) => s.machine.park t p

/-- The moment when a call is over for now. A program that waits is put back, one that ends is gone. -/
def after : Turn → Moment
  | .goes m t p => ⟨m, some (t, p)⟩
  | .waits m t p => ⟨m.park t p, none⟩
  | .ends m t status => ⟨{ m with tasks := m.tasks.filter fun u => u.id ≠ t.id }.bury t status, none⟩

/-- What a program does next, if it does anything. -/
def deed (m : Machine) (t : Task) : Process → Option Moment
  | .ended status => some ⟨{ m with tasks := m.tasks.filter fun u => u.id ≠ t.id }.bury t status, none⟩
  | .stuck => none
  | .fork c next =>
    let id := m.next
    let m := t.streams.foldl (fun m s => m.retain s.2.opening) m
    some ⟨{ m with
      tasks := m.tasks ++ [child t id c]
      next := id + 1
      strength := m.strength - forkEffort },
      some ({ t with work := t.work + forkEffort }, next id)⟩
  | .call c next =>
    let t := { t with work := t.work + effort c }
    some (after (perform { m with strength := m.strength - effort c } t (.call c next) c next))

/-- A program gets its turn, does something or is put back; or time passes, for sleeps or for work, or
files are edited. -/
inductive Step : Moment → Moment → Prop where
  | take {m : Machine} {t : Task} (htask : m.task? t.id = some t) (hgoing : t.stopped = false) :
      Step ⟨m, none⟩ ⟨m, some (t, t.program)⟩
  | act {m : Machine} {t : Task} {p : Process} {s : Moment} (hdeed : deed m t p = some s) :
      Step ⟨m, some (t, p)⟩ s
  | park (m : Machine) (t : Task) (p : Process) : Step ⟨m, some (t, p)⟩ ⟨m.park t p, none⟩
  | pass (m : Machine) (time : Nat) : Step ⟨m, none⟩ ⟨m.moveTo time, none⟩
  | strengthen (m : Machine) (work : Nat) : Step ⟨m, none⟩ ⟨m.strengthen work, none⟩
  | edit (m : Machine) (files : FileSystem) : Step ⟨m, none⟩ ⟨{ m with files := files }, none⟩

abbrev Steps : Moment → Moment → Prop := Relation.ReflTransGen Step

/-! ### Turns are steps -/

lemma steps_advance (patience calls : Nat) (busy : Bool) (m : Machine) (t : Task) (p : Process) :
    Steps ⟨m, some (t, p)⟩ ⟨(m.advance patience calls busy t p).1, none⟩ := by
  induction calls generalizing busy m t p with
  | zero => exact .single (.park m t p)
  | succ calls ih =>
    have hpark : Steps ⟨m, some (t, p)⟩ ⟨m.park t p, none⟩ := .single (.park m t p)
    unfold advance
    split
    · exact hpark
    · cases p with
      | ended status => exact .single (.act rfl)
      | stuck => exact hpark
      | fork c next => exact .head (.act rfl) (ih ..)
      | call c next =>
        dsimp only
        have hdeed : deed m t (.call c next) = some (after (perform
            { m with strength := m.strength - effort c } { t with work := t.work + effort c }
            (.call c next) c next)) := rfl
        generalize perform _ _ _ _ _ = turn at hdeed ⊢
        cases turn with
        | goes m' t' p' => exact .head (.act hdeed) (ih ..)
        | waits m' t' p' => exact .single (.act hdeed)
        | ends m' t' status => exact .single (.act hdeed)

lemma steps_turn (patience : Nat) (m : Machine) (id : Nat) :
    Steps ⟨m, none⟩ ⟨(m.turn patience id).1, none⟩ := by
  unfold Machine.turn
  split
  · next t htask =>
    split
    · exact .refl
    · next hgoing =>
      have hid : t.id = id := by simpa using List.find?_some htask
      exact .head (.take (hid ▸ htask) (Bool.eq_false_iff.mpr hgoing)) (steps_advance ..)
  · exact .refl

lemma steps_foldl {f : Machine × Bool → Nat → Machine × Bool}
    (hf : ∀ x id, Steps ⟨x.1, none⟩ ⟨(f x id).1, none⟩) (ids : List Nat) (x : Machine × Bool) :
    Steps ⟨x.1, none⟩ ⟨(ids.foldl f x).1, none⟩ := by
  induction ids generalizing x with
  | nil => exact .refl
  | cons id rest ih => exact (hf x id).trans (ih (f x id))

lemma steps_round (patience : Nat) (m : Machine) :
    Steps ⟨m, none⟩ ⟨(m.round patience).1, none⟩ := by
  unfold Machine.round
  refine steps_foldl (fun x id => ?_) _ (m, false)
  exact steps_turn patience x.1 id

/-- What a machine does while the clock stands still. -/
lemma steps_settle (patience : Nat) (isOver : Machine → Bool) (fuel : Nat) (m : Machine) :
    Steps ⟨m, none⟩ ⟨m.settle patience isOver fuel, none⟩ := by
  induction fuel generalizing m with
  | zero => exact .refl
  | succ fuel ih =>
    have hround := steps_round patience m
    unfold settle
    split
    · exact .refl
    · split
      · next m' h =>
        rw [h] at hround
        exact hround.trans (ih m')
      · next m' h =>
        rw [h] at hround
        exact hround

end Moment

end AsmExplorer.Proofs
