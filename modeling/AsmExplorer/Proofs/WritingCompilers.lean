import AsmExplorer.Proofs.CompilationStart

/-!
# Compilers that write

A compiler that only works, sleeps and writes succeeds if it is never refused and no program sends
signals.
-/

namespace AsmExplorer.Proofs

open Machine

/-! ### Programs that send no signals -/

/-- A program that sends no signals, whatever it is answered. -/
inductive Peaceful : Process → Prop where
  | ended (status : Status) : Peaceful (.ended status)
  | stuck : Peaceful .stuck
  | fork {c : Process} {next : Nat → Process} (hc : Peaceful c) (hnext : ∀ id, Peaceful (next id)) :
      Peaceful (.fork c next)
  | call {c : AsmExplorer.Call} {next : c.Reply → Process}
      (hc : ∀ target signal, c ≠ .send target signal) (hnext : ∀ r, Peaceful (next r)) : Peaceful (.call c next)

section

variable {m : Machine} {s s' : Moment} {t : Task} {p q compiler demangler : Process}

lemma Peaceful.remains (h : Peaceful p) (hremains : Remains p q) : Peaceful q := by
  cases hremains with
  | all => exact h
  | reply r =>
    cases h with
    | call _ hnext => exact hnext r
  | rest n =>
    cases h with
    | call _ hnext => exact .call (fun _ _ h => nomatch h) hnext
  | parent id =>
    cases h with
    | fork _ hnext => exact hnext id
  | child =>
    cases h with
    | fork hc _ => exact hc

lemma peaceful_forward (size fuel : Nat) : Peaceful (Process.forward size fuel) := by
  induction fuel with
  | zero => exact .stuck
  | succ fuel ih =>
    refine .call (fun _ _ h => nomatch h) fun r => ?_
    split
    · refine .call (fun _ _ h => nomatch h) fun r => ?_
      split
      · exact ih
      · exact .ended _
    · exact .ended _

def AtPeace (s : Moment) : Prop :=
  ∀ u ∈ s.parked.tasks, Peaceful u.program

lemma AtPeace.step (h : AtPeace s) (hs : s.Orderly) (hstep : Moment.Step s s') : AtPeace s' := by
  intro v hv
  rcases Moment.step_cases hstep hs with hunmoved | ⟨t, p, hactive, hdeed⟩
  · obtain ⟨u, hu, huv⟩ := hunmoved.tasks v hv
    exact huv.program ▸ h u hu
  · rcases (hs.deed hactive hdeed).tasks v hv with ⟨u, hu, hne, huv⟩ | hheir
    · exact huv.program ▸ h u (Moment.mem_parked_of_ne hactive hu hne)
    · have hp : Peaceful p := h _ (hs.active_mem hactive)
      exact hp.remains hheir.program

lemma AtPeace.not_signals (h : AtPeace s) (hs : s.Orderly) (target : Nat) : ¬ s.Signals target := by
  rintro ⟨t, signal, next, hactive⟩
  have hp : Peaceful (.call (.send target signal) next) := h _ (hs.active_mem hactive)
  cases hp with
  | call hc _ => exact hc target signal rfl

/-! ### Programs that only write -/

/-- A program that works, sleeps and writes, and then ends with success. -/
inductive Writes : Process → Prop where
  | done : Writes (.ended (.code 0))
  | pause (work : Nat) {next : Unit → Process} (hnext : ∀ r, Writes (next r)) :
      Writes (.call (.pause work) next)
  | sleep (nanos : Nat) {next : Bool → Process} (hnext : ∀ r, Writes (next r)) :
      Writes (.call (.sleep nanos) next)
  | write (bytes : Bytes) {next : Except FileError Unit → Process} (hnext : ∀ r, Writes (next r)) :
      Writes (.call (.write 1 bytes) next)

lemma Writes.peaceful (h : Writes p) : Peaceful p := by
  induction h with
  | done => exact .ended _
  | pause _ _ ih => exact .call (fun _ _ h => nomatch h) ih
  | sleep _ _ ih => exact .call (fun _ _ h => nomatch h) ih
  | write _ _ ih => exact .call (fun _ _ h => nomatch h) ih

structure WritesTo (opening : Nat) (u : Task) : Prop where
  parent : u.parent = outside
  stream : u.stream? 1 = some { opening := opening }
  dispositions : u.dispositions = []
  arrived : u.arrived = []
  program : Writes u.program

lemma WritesTo.resembles {opening : Nat} {u v : Task} (h : WritesTo opening u)
    (huv : Resembles u v) : WritesTo opening v where
  parent := huv.parent h.parent
  stream := by
    rw [Task.stream?, huv.streams]
    exact h.stream
  dispositions := huv.dispositions.trans h.dispositions
  arrived := by
    refine (huv.arrived fun signal => ?_).trans h.arrived
    rw [Task.disposition, h.dispositions]
    exact Disposition.noConfusion
  program := huv.program ▸ h.program

/-- A compiler that only writes, with the opening of its output. -/
def writer (id opening pipe : Nat) : Role where
  id := id
  guards := [⟨opening, .sink pipe, false, true⟩]
  plays := WritesTo opening
  resembles := WritesTo.resembles

variable {id opening pipe : Nat}

lemma sleep_cases (m : Machine) (t : Task) (p : Process) {nanos : Nat}
    (next : (AsmExplorer.Call.sleep nanos).Reply → Process) : ∃ wakes q, (q = p ∨ ∃ r, q = next r) ∧
      (perform m t p (.sleep nanos) next = .goes m { t with wakes := wakes } q ∨
        perform m t p (.sleep nanos) next = .waits m { t with wakes := wakes } q) := by
  rw [perform_sleep]
  split
  · split
    · exact ⟨t.wakes, _, Or.inr ⟨true, rfl⟩, Or.inl rfl⟩
    · exact ⟨_, p, Or.inl rfl, Or.inr rfl⟩
  · split
    · exact ⟨none, _, Or.inr ⟨true, rfl⟩, Or.inl rfl⟩
    · split
      · exact ⟨none, _, Or.inr ⟨false, rfl⟩, Or.inl rfl⟩
      · exact ⟨t.wakes, p, Or.inl rfl, Or.inr rfl⟩

/-- What a compiler does that only writes: it goes on unless it is refused, or it has succeeded. -/
lemma writer_deed (h : (writer id opening pipe).Holds s) (hactive : s.active = some (t, p))
    (hid : t.id = id) (hdeed : Moment.deed s.machine t p = some s')
    (hrefusal : ¬ s.Refusal s' t pipe) :
    (writer id opening pipe).Holds s' ∨ s'.machine.status? id = some (.code 0) := by
  have hplays : WritesTo opening { t with program := p } := h.active_plays hactive hid
  have hprogram : Writes p := hplays.program
  have hguarded : ∀ work, Guarded (writer id opening pipe).guards
      { s.machine with strength := s.machine.strength - work } :=
    fun _ => guarded_of_same h.guarded rfl rfl (Nat.le_refl _)
  cases hprogram with
  | done =>
    obtain rfl := Option.some.inj hdeed
    have hself := h.orderly.seat t _ hactive
    have hunended : ∀ e ∈ s.machine.ended, e.id ≠ t.id := fun e he heq =>
      h.orderly.staffed.ended e he (heq ▸ hself)
    subst hid
    exact Or.inr (status_bury_self (m := { s.machine with tasks := _ }) hunended hplays.parent)
  | pause work hnext =>
    refine Or.inl (h.call hactive hid hdeed (Or.inl rfl) (hguarded _) rfl rfl ?_)
    exact ⟨hplays.parent, hplays.stream, hplays.dispositions, hplays.arrived, hnext ()⟩
  | sleep nanos hnext =>
    obtain ⟨wakes, q, hq, hturn⟩ := sleep_cases
      { s.machine with strength := s.machine.strength - effort (.sleep nanos) }
      { t with work := t.work + effort (.sleep nanos) } (.call (.sleep nanos) _) _
    refine Or.inl (h.call hactive hid hdeed hturn (hguarded _) rfl rfl ?_)
    refine ⟨hplays.parent, hplays.stream, hplays.dispositions, hplays.arrived, ?_⟩
    rcases hq with rfl | ⟨r, rfl⟩
    · exact .sleep nanos hnext
    · exact hnext r
  | write bytes hnext =>
    have hwritten := h.write hactive hid hdeed List.mem_cons_self rfl rfl hplays.stream hplays.arrived
      fun work rest hrest => ?_
    · exact Or.inl (hwritten.resolve_right hrefusal)
    · refine ⟨hplays.parent, hplays.stream, hplays.dispositions, hplays.arrived, ?_⟩
      rcases hrest with rfl | ⟨bytes', rfl⟩
      · exact hnext _
      · exact .write bytes' hnext

/-! ### Their runs -/

/-- In a run without refusals and signals the compiler goes on or has succeeded. -/
lemma writer_steps (h : (writer id opening pipe).Holds s) (hpeace : AtPeace s)
    (hsteps : Unrefused pipe s s') :
    s'.Orderly ∧ AtPeace s' ∧
      ((writer id opening pipe).Holds s' ∨ s'.machine.status? id = some (.code 0)) := by
  induction hsteps with
  | refl => exact ⟨h.orderly, hpeace, Or.inl h⟩
  | @tail x y _ hstep ih =>
    obtain ⟨hx, hpeace, ih⟩ := ih
    refine ⟨hx.step hstep.1, hpeace.step hx hstep.1, ?_⟩
    rcases ih with ih | ih
    · rcases Moment.step_cases hstep.1 hx with hunmoved | ⟨t, p, hactive, hdeed⟩
      · exact Or.inl (ih.unmoved hunmoved)
      · by_cases hid : t.id = id
        · exact writer_deed ih hactive hid hdeed (hstep.2 t)
        · exact Or.inl (ih.other hactive hid hdeed (hpeace.not_signals hx id))
    · exact Or.inr (Moment.status_of_steps hx (.single hstep.1) ih)

lemma status_of_holds {role : Role} (h : role.Holds s) : s.machine.status? role.id = none := by
  obtain ⟨u, hu, hid, -⟩ := h.own
  have hmem : role.id ∈ ids s.machine := by
    rw [← Moment.ids_parked, ← hid]
    exact List.mem_map_of_mem hu
  unfold Machine.status?
  rw [Option.map_eq_none_iff, List.find?_eq_none]
  intro e he hmatch
  have heq : e.id = role.id := by
    simp only [Bool.and_eq_true, beq_iff_eq] at hmatch
    exact hmatch.2
  exact h.orderly.staffed.ended e he (heq ▸ hmem)

lemma writer_started (hm : Allotted m) (hcompiler : Writes compiler) (demangler : Process) :
    (writer (m.next + 16) (m.next + 3) (m.next + 1)).Holds (started m compiler demangler) where
  orderly := orderly_started hm compiler demangler
  guarded := (guarded_started hm.plumbed compiler demangler).of_subset fun g hg =>
    List.mem_singleton.mp hg ▸ List.mem_cons_self
  others u hu hid := by
    rcases mem_tasks_started hu with hu | rfl | rfl | rfl
    · refine avoids_of_allotted hm hu fun g hg => ?_
      rw [List.mem_singleton.mp hg]
      exact Nat.le_add_right _ _
    · exact absurd rfl hid
    · simp [Avoids, writer, demanglerTask]
    · simp [Avoids, writer, forwarderTask]
  own := by
    refine ⟨compilerTask m compiler, ?_, rfl, rfl, rfl, rfl, rfl, hcompiler⟩
    change _ ∈ (started m compiler demangler).machine.tasks
    rw [tasks_started]
    simp

/-- A compiler that only writes succeeds whenever nobody is refused and no program sends signals. -/
theorem success_of_writes (hm : Allotted m) (hpeace : ∀ u ∈ m.tasks, Peaceful u.program)
    (hcompiler : Writes compiler) (hdemangler : Peaceful demangler) {status : Status}
    (hrun : Unrefused (forwarding m).source (started m compiler demangler) s)
    (hstatus : s.machine.status? (Toolchain.drive m compiler demangler).2.compiler = some status) :
    status.isSuccess = true := by
  have hstarted : AtPeace (started m compiler demangler) := by
    intro u hu
    rcases mem_tasks_started hu with hu | rfl | rfl | rfl
    · exact hpeace u hu
    · exact hcompiler.peaceful
    · exact hdemangler
    · exact peaceful_forward _ _
  obtain ⟨-, -, hholds | hended⟩ := writer_steps (writer_started hm hcompiler demangler) hstarted hrun
  · have hnone := status_of_holds hholds
    exact absurd (hstatus.symm.trans hnone) (Option.some_ne_none _)
  · obtain rfl := Option.some.inj (hstatus.symm.trans hended)
    rfl

end

end AsmExplorer.Proofs
