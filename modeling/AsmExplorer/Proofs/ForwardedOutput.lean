import AsmExplorer.Proofs.RefusedWrites

/-!
# Output that is passed on

A program passes on what a compiler writes to a demangler. As long as it is at work, whoever writes to
the compiler's output is read.
-/

namespace AsmExplorer.Proofs

open Machine

/-! ### Programs that pass on what they read -/

/-- A program that passes on what it reads from a pipe to another one, and its openings. -/
structure Relay where
  id : Nat
  input : Nat
  source : Nat
  output : Nat
  sink : Nat

namespace Relay

/-- What there is still to do: to read the next piece, or to write the last one. -/
inductive Duty (size : Nat) : Process → Prop where
  | read (fuel : Nat) : Duty size (Process.forward size fuel)
  | write (fuel : Nat) {bytes : Bytes} {next : Except FileError Unit → Process}
      (hok : next (.ok ()) = Process.forward size fuel) :
      Duty size (.call (.write 1 bytes) next)

def guards (r : Relay) : List Guard :=
  [⟨r.input, .source r.source, true, false⟩, ⟨r.output, .sink r.sink, false, true⟩]

variable {r : Relay} {size : Nat} {u v : Task}

structure Runs (r : Relay) (size : Nat) (u : Task) : Prop where
  id : u.id = r.id
  streams : u.streams = [(0, { opening := r.input }), (1, { opening := r.output })]
  dispositions : u.dispositions = [(Signal.pipe, .ignored)]
  arrived : u.arrived = []
  duty : Duty size u.program

lemma Runs.resembles (h : r.Runs size u) (huv : Resembles u v) : r.Runs size v where
  id := huv.id.trans h.id
  streams := huv.streams.trans h.streams
  dispositions := huv.dispositions.trans h.dispositions
  arrived := by
    refine (huv.arrived fun signal => ?_).trans h.arrived
    have hlookup : u.disposition signal = .ignored ∨ u.disposition signal = .byDefault := by
      rw [Task.disposition, h.dispositions, List.lookup_cons]
      split
      · exact Or.inl rfl
      · exact Or.inr rfl
    rcases hlookup with heq | heq <;> rw [heq] <;> decide
  duty := huv.program ▸ h.duty

/-- The relay as a program with openings of its own. -/
def role (r : Relay) (size : Nat) : Role where
  id := r.id
  guards := r.guards
  plays := r.Runs size
  resembles := Runs.resembles

/-- The relay is at work, and nobody else has to do with its openings. -/
abbrev AtWork (r : Relay) (size : Nat) (s : Moment) : Prop :=
  (r.role size).Holds s

end Relay

/-! ### Reasons to stop -/

/-- Whether nothing is in a pipe and nobody writes to it. -/
def Drained (m : Machine) (pipe : Nat) : Prop :=
  ∃ q, m.pipe? pipe = some q ∧ q.queue.size = 0 ∧ q.writers = 0

namespace Relay

/-- Why a relay stops: there is nothing more to read, nobody reads what it writes, or it is sent a
signal. -/
def Stops (r : Relay) (s s' : Moment) : Prop :=
  Drained s.machine r.source ∨ (∃ t, t.id = r.id ∧ s.Refusal s' t r.sink) ∨ s.Signals r.id

variable {r : Relay} {size : Nat} {s s' : Moment} {t : Task}

lemma AtWork.readers_pos (h : r.AtWork size s) :
    ∃ q, s.machine.pipe? r.source = some q ∧ 0 < q.readers := by
  obtain ⟨o, ho, hfits⟩ := h.guarded.guard _ List.mem_cons_self
  exact h.guarded.pipe_of_source ho hfits.target

/-- While the relay is at work nobody is refused who writes what it reads. -/
lemma AtWork.not_refusal (h : r.AtWork size s) : ¬ s.Refusal s' t r.source := by
  rintro ⟨⟨q, hq, hzero⟩, -⟩
  obtain ⟨q', hq', hpos⟩ := h.readers_pos
  obtain rfl : q = q' := Option.some.inj (hq.symm.trans hq')
  omega

/-- What the relay reads it passes on next, and only at the end it reads nothing. -/
lemma AtWork.read {next : Except FileError Bytes → Process} (h : r.AtWork size s) (hsize : 0 < size)
    (hactive : s.active = some (t, .call (.read 0 size) next)) (hid : t.id = r.id)
    (hnext : ∀ bytes, bytes ≠ [] → Duty size (next (.ok bytes)))
    (hdeed : Moment.deed s.machine t (.call (.read 0 size) next) = some s') :
    r.AtWork size s' ∨ Drained s.machine r.source := by
  have hruns : r.Runs size { t with program := .call (.read 0 size) next } :=
    h.active_plays hactive hid
  obtain ⟨o, ho, hfits⟩ := h.guarded.guard _ List.mem_cons_self
  obtain ⟨q, hq, -⟩ := h.readers_pos
  have hsized := h.guarded.sized_of_pipe hq
  have hstream : t.stream? 0 = some { opening := r.input } := by
    rw [Task.stream?, show t.streams = _ from hruns.streams]
    rfl
  have hturn := read_source (m := { s.machine with strength := s.machine.strength - 2 })
    (t := { t with work := t.work + 2 }) (p := .call (.read 0 size) next) size next
    (openingOf?_of_stream hstream ho) hfits.readable hfits.target hq hruns.arrived
  have hguarded : Guarded r.guards { s.machine with strength := s.machine.strength - 2 } :=
    guarded_of_same h.guarded rfl rfl (Nat.le_refl _)
  split at hturn
  · next hempty =>
    split at hturn
    · next hwriters => exact Or.inr ⟨q, hq, hempty, hwriters⟩
    · refine Or.inl (h.call hactive hid hdeed (Or.inr hturn) hguarded rfl rfl ?_)
      exact ⟨hid, hruns.streams, hruns.dispositions, hruns.arrived, hruns.duty⟩
  · next hfull =>
    have hbytes := take_ne_nil hsized hfull hsize
    refine Or.inl (h.call hactive hid hdeed (Or.inl hturn) ?_ rfl rfl ?_)
    · exact guarded_changePipe hguarded r.source (fun _ => Nat.le_refl _) (fun _ => Nat.le_refl _)
        fun _ _ _ => sized_take hsized size
    · exact ⟨hid, hruns.streams, hruns.dispositions, hruns.arrived, hnext _ hbytes⟩

lemma AtWork.write {bytes : Bytes} {next : Except FileError Unit → Process} {fuel : Nat}
    (h : r.AtWork size s) (hactive : s.active = some (t, .call (.write 1 bytes) next))
    (hid : t.id = r.id) (hnext : next (.ok ()) = Process.forward size fuel)
    (hdeed : Moment.deed s.machine t (.call (.write 1 bytes) next) = some s') :
    r.AtWork size s' ∨ s.Refusal s' t r.sink := by
  have hruns : r.Runs size { t with program := .call (.write 1 bytes) next } :=
    h.active_plays hactive hid
  have hstream : t.stream? 1 = some { opening := r.output } := by
    rw [Task.stream?, show t.streams = _ from hruns.streams]
    rfl
  refine Role.Holds.write h hactive hid hdeed (List.mem_cons_of_mem _ List.mem_cons_self) rfl rfl
    hstream hruns.arrived fun work rest hrest => ?_
  refine ⟨hid, hruns.streams, hruns.dispositions, hruns.arrived, ?_⟩
  rcases hrest with rfl | ⟨bytes', rfl⟩
  · exact hnext ▸ .read fuel
  · exact .write fuel hnext

/-- The relay is at work until it has a reason to stop. -/
lemma AtWork.step (h : r.AtWork size s) (hsize : 0 < size) (hstep : Moment.Step s s') :
    r.AtWork size s' ∨ r.Stops s s' := by
  rcases Moment.step_cases hstep h.orderly with hunmoved | ⟨t, p, hactive, hdeed⟩
  · exact Or.inl (h.unmoved hunmoved)
  · by_cases hid : t.id = r.id
    · have hruns : r.Runs size { t with program := p } := h.active_plays hactive hid
      have hduty : Duty size p := hruns.duty
      cases hduty with
      | read fuel =>
        cases fuel with
        | zero => cases hdeed
        | succ fuel =>
          refine (h.read hsize hactive hid (fun bytes hbytes => ?_) hdeed).imp_right Or.inl
          obtain ⟨b, bytes, rfl⟩ := List.exists_cons_of_ne_nil hbytes
          exact .write fuel rfl
      | write fuel hok =>
        rcases h.write hactive hid hok hdeed with hwork | hrefused
        · exact Or.inl hwork
        · exact Or.inr (Or.inr (Or.inl ⟨t, hid, hrefused⟩))
    · by_cases hsignal : s.Signals r.id
      · exact Or.inr (Or.inr (Or.inr hsignal))
      · exact Or.inl (h.other hactive hid hdeed hsignal)

/-- All along a run the relay is at work, or it has had a reason to stop. -/
lemma AtWork.steps (h : r.AtWork size s) (hsize : 0 < size) (hsteps : Moment.Steps s s') :
    r.AtWork size s' ∨
      ∃ g g', Moment.Steps s g ∧ Moment.Step g g' ∧ Moment.Steps g' s' ∧ r.Stops g g' := by
  induction hsteps with
  | refl => exact Or.inl h
  | @tail x y hsteps hstep ih =>
    rcases ih with hwork | ⟨g, g', hfirst, hstop, hlast, hstops⟩
    · rcases hwork.step hsize hstep with hwork | hstops
      · exact Or.inl hwork
      · exact Or.inr ⟨x, y, hsteps, hstep, .refl, hstops⟩
    · exact Or.inr ⟨g, g', hfirst, hstop, hlast.tail hstep, hstops⟩

end Relay

end AsmExplorer.Proofs
