import AsmExplorer.Compile.Toolchain
import AsmExplorer.Proofs.ForwardedOutput

/-!
# The start of a compilation

Compiler and demangler have been started, and between them a relay that passes on what the compiler
writes. It is at work from the beginning.
-/

namespace AsmExplorer.Proofs

open Machine

/-- All numbers of programs, openings and pipes are in use already. -/
structure Allotted (m : Machine) : Prop where
  staffed : Staffed m
  plumbed : Plumbed m
  streams : ∀ u ∈ m.tasks, ∀ s ∈ u.streams, s.2.opening < m.next

/-- The moment at which compiler, demangler and what is between them have been started. -/
def started (m : Machine) (compiler demangler : Process) : Moment :=
  ⟨(Toolchain.drive m compiler demangler).1, none⟩

/-- What passes the compiler's output on to the demangler. -/
def forwarding (m : Machine) : Relay :=
  { id := m.next + 18, input := m.next + 2, source := m.next + 1, output := m.next + 9,
    sink := m.next + 7 }

section

variable {m : Machine} {guards : List Guard} {compiler demangler : Process}

lemma Guarded.add (h : Guarded guards m) {g : Guard} {o : Opening}
    (ho : m.opening? g.opening = some o) (hfits : g.Fits o) : Guarded (g :: guards) m where
  toPlumbed := h.toPlumbed
  guard x hx := by
    rcases List.mem_cons.mp hx with rfl | hx
    · exact ⟨o, ho, hfits⟩
    · exact h.guard x hx

lemma opening?_addPipe (m : Machine) (capacity : Option Nat) :
    (m.addPipe capacity).1.opening? (m.next + 1) =
        some { target := .source m.next, readable := true, writable := false } ∧
      (m.addPipe capacity).1.opening? (m.next + 2) =
        some { target := .sink m.next, readable := false, writable := true } := by
  have hne : (m.next == m.next + 1) = false :=
    beq_eq_false_iff_ne.mpr (Nat.ne_of_lt (Nat.lt_succ_self _))
  simp [addPipe, addOpening, opening?, List.lookup_cons, hne]

lemma Guarded.of_subset {guards' : List Guard} (h : Guarded guards m) (hsub : guards' ⊆ guards) :
    Guarded guards' m :=
  ⟨h.toPlumbed, fun g hg => h.guard g (hsub hg)⟩

/-- What the compiler writes to, as it is from the beginning. -/
def compilerOutput (m : Machine) : Guard :=
  ⟨m.next + 3, .sink (m.next + 1), false, true⟩

lemma guarded_started (hm : Plumbed m) (compiler demangler : Process) :
    Guarded (compilerOutput m :: (forwarding m).guards) (started m compiler demangler).machine := by
  have hbefore : Guarded [] m := ⟨hm, fun _ h => absurd h List.not_mem_nil⟩
  have hnothing := guarded_addOpening hbefore
    { target := .device .sink, readable := true, writable := false }
    (fun _ h => Target.noConfusion h) fun _ h => Target.noConfusion h
  have hcompiler := guarded_addPipe hnothing (some pipeCapacity)
  obtain ⟨hsource, hsink⟩ := opening?_addPipe m.addNothing.1 (some pipeCapacity)
  have hinput := hcompiler.add (g := ⟨m.next + 2, .source (m.next + 1), true, false⟩) hsource
    ⟨rfl, rfl, rfl⟩
  have hboth := hinput.add (g := compilerOutput m) hsink ⟨rfl, rfl, rfl⟩
  have hdemangler := guarded_addPipe (guarded_addPipe hboth none) (some pipeCapacity)
  have houtput := hdemangler.add (g := ⟨m.next + 9, .sink (m.next + 7), false, true⟩)
    (opening?_addPipe _ (some pipeCapacity)).2 ⟨rfl, rfl, rfl⟩
  have hrest := guarded_addPipe (guarded_addPipe houtput none) none
  have hentered : Guarded _ (started m compiler demangler).machine :=
    guarded_of_same hrest rfl rfl (Nat.le_add_right _ 3)
  refine hentered.of_subset fun g hg => ?_
  simp only [Relay.guards, forwarding, List.mem_cons, List.not_mem_nil, or_false] at hg ⊢
  tauto

/-! ### The programs of a compilation -/

def compilerTask (m : Machine) (compiler : Process) : Task where
  id := m.next + 16
  parent := outside
  program := compiler
  streams := [(0, { opening := m.next }), (1, { opening := m.next + 3 }), (2, { opening := m.next + 6 })]

def demanglerTask (m : Machine) (demangler : Process) : Task where
  id := m.next + 17
  parent := outside
  program := demangler
  streams :=
    [(0, { opening := m.next + 8 }), (1, { opening := m.next + 12 }), (2, { opening := m.next + 15 })]

def forwarderTask (m : Machine) : Task where
  id := m.next + 18
  parent := outside
  program := Toolchain.forwarder
  streams := [(0, { opening := m.next + 2 }), (1, { opening := m.next + 9 })]
  dispositions := [(Signal.pipe, .ignored)]

lemma tasks_started (m : Machine) (compiler demangler : Process) :
    (started m compiler demangler).machine.tasks =
      m.tasks ++ [compilerTask m compiler, demanglerTask m demangler, forwarderTask m] := by
  show ((m.tasks ++ [_]) ++ [_]) ++ [_] = _
  rw [List.append_assoc, List.append_assoc]
  rfl

lemma mem_tasks_started {u : Task} (h : u ∈ (started m compiler demangler).parked.tasks) :
    u ∈ m.tasks ∨ u = compilerTask m compiler ∨ u = demanglerTask m demangler ∨
      u = forwarderTask m := by
  change u ∈ (started m compiler demangler).machine.tasks at h
  rw [tasks_started] at h
  simpa using h

lemma orderly_started (hm : Allotted m) (compiler demangler : Process) :
    (started m compiler demangler).Orderly := by
  have hids : ids (started m compiler demangler).machine =
      ids m ++ [m.next + 16, m.next + 17, m.next + 18] := by
    rw [ids, tasks_started, List.map_append]
    rfl
  have hmem : ∀ x, x ∈ ids (started m compiler demangler).machine → x < m.next ∧ x ∈ ids m ∨
      m.next + 16 ≤ x ∧ x < m.next + 19 := by
    intro x hx
    rw [hids] at hx
    rcases List.mem_append.mp hx with hx | hx
    · exact Or.inl ⟨hm.staffed.lt x hx, hx⟩
    · have hx : x = m.next + 16 ∨ x = m.next + 17 ∨ x = m.next + 18 := by simpa using hx
      omega
  have hnext : (started m compiler demangler).machine.next = m.next + 19 := rfl
  refine ⟨⟨?_, fun x hx => ?_, fun x hx => ?_, fun e he => ?_, fun e he hx => ?_⟩,
    fun _ _ h => absurd h.symm (Option.some_ne_none _),
    (guarded_started hm.plumbed compiler demangler).of_subset (List.nil_subset _)⟩
  · rw [hids]
    refine List.nodup_append.mpr ⟨hm.staffed.nodup, by simp, fun x hx y hy => ?_⟩
    have hlt := hm.staffed.lt x hx
    have hy : y = m.next + 16 ∨ y = m.next + 17 ∨ y = m.next + 18 := by simpa using hy
    omega
  · have hx := hmem x hx
    omega
  · rcases hmem x hx with hx | hx
    · exact hm.staffed.ne_outside x hx.2
    · exact Nat.ne_of_gt (Nat.lt_of_lt_of_le (Nat.zero_lt_succ _) hx.1)
  · have hlt := hm.staffed.ended_lt e he
    omega
  · rcases hmem _ hx with hx | hx
    · exact hm.staffed.ended e he hx.2
    · have hlt := hm.staffed.ended_lt e he
      omega

/-- No program from before has to do with what has just been opened. -/
lemma avoids_of_allotted (hm : Allotted m) {u : Task} (hu : u ∈ m.tasks)
    (hguards : ∀ g ∈ guards, m.next ≤ g.opening) : Avoids guards u.streams := by
  intro s hs g hg heq
  have hlt := hm.streams u hu s hs
  have hle := hguards g hg
  omega

/-- What passes the compiler's output on is at work from the beginning. -/
lemma atWork_started (hm : Allotted m) (compiler demangler : Process) :
    (forwarding m).AtWork Toolchain.forwardSize (started m compiler demangler) where
  orderly := orderly_started hm compiler demangler
  guarded := (guarded_started hm.plumbed compiler demangler).of_subset (List.subset_cons_self _ _)
  others u hu hid := by
    rcases mem_tasks_started hu with hu | rfl | rfl | rfl
    · refine avoids_of_allotted hm hu fun g hg => ?_
      simp only [Relay.role, Relay.guards, forwarding, List.mem_cons, List.not_mem_nil, or_false] at hg
      rcases hg with rfl | rfl <;> exact Nat.le_add_right _ _
    · simp [Avoids, Relay.role, Relay.guards, forwarding, compilerTask]
    · simp [Avoids, Relay.role, Relay.guards, forwarding, demanglerTask]
    · exact absurd rfl hid
  own := by
    refine ⟨forwarderTask m, ?_, rfl, rfl, rfl, rfl, rfl, .read Program.limit⟩
    change _ ∈ (started m compiler demangler).machine.tasks
    rw [tasks_started]
    simp

lemma parent_compiler (hm : Allotted m) {s : Moment}
    (hrun : Moment.Steps (started m compiler demangler) s) {u : Task} (hu : u ∈ s.parked.tasks)
    (hid : u.id = m.next + 16) : u.parent = outside := by
  have hlt : m.next + 16 < (started m compiler demangler).machine.next :=
    Nat.add_lt_add_left (by decide : 16 < 19) m.next
  refine (Moment.parent_of_steps (orderly_started hm compiler demangler) hlt (fun v hv hvid => ?_)
    hrun).2 u hu hid
  rcases mem_tasks_started hv with hv | rfl | rfl | rfl
  · have hold := hm.staffed.lt v.id (List.mem_map_of_mem hv)
    omega
  all_goals rfl

end

end AsmExplorer.Proofs
