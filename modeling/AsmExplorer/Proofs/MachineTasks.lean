import AsmExplorer.Proofs.MachineMoments
import Mathlib.Data.List.Nodup

/-!
# Programs of a machine

A deed of one program leaves the others as they are, but for signals. How a program that was started
from outside has ended is never forgotten by what programs do, and its number is never used again.
-/

namespace AsmExplorer.Proofs

open Machine

/-- The same program, at which signals may have arrived and whose parent may have ended. -/
structure Resembles (u v : Task) : Prop where
  id : v.id = u.id
  parent : u.parent = outside → v.parent = outside
  program : v.program = u.program
  streams : v.streams = u.streams
  dispositions : v.dispositions = u.dispositions
  arrived : (∀ signal, u.disposition signal ≠ .caught) → v.arrived = u.arrived

namespace Resembles

variable {u v w : Task}

lemma refl (u : Task) : Resembles u u :=
  ⟨rfl, fun h => h, rfl, rfl, rfl, fun _ => rfl⟩

lemma disposition (h : Resembles u v) (signal : Nat) :
    v.disposition signal = u.disposition signal := by
  rw [Task.disposition, Task.disposition, h.dispositions]

lemma trans (huv : Resembles u v) (hvw : Resembles v w) : Resembles u w where
  id := hvw.id.trans huv.id
  parent h := hvw.parent (huv.parent h)
  program := hvw.program.trans huv.program
  streams := hvw.streams.trans huv.streams
  dispositions := hvw.dispositions.trans huv.dispositions
  arrived h := by
    have hcaught : ∀ signal, v.disposition signal ≠ .caught := by
      intro signal
      rw [huv.disposition]
      exact h signal
    exact (hvw.arrived hcaught).trans (huv.arrived h)

lemma of_note (signal : Nat) (h : u.disposition signal = .caught) : Resembles u (u.note signal) := by
  have hnote : ∀ {α : Type} (f : Task → α), (∀ arrived, f { u with arrived := arrived } = f u) →
      f (u.note signal) = f u := by
    intro α f hf
    unfold Task.note
    split
    · rfl
    · exact hf _
  exact ⟨hnote _ fun _ => rfl, fun hparent => (hnote Task.parent fun _ => rfl).trans hparent,
    hnote _ fun _ => rfl, hnote _ fun _ => rfl, hnote _ fun _ => rfl, fun hcaught =>
      absurd h (hcaught signal)⟩

lemma of_take {signal : Nat} (h : u.take signal = some v) : Resembles u v := by
  unfold Task.take at h
  have hsame : some u = some v → Resembles u v := fun h => Option.some.inj h ▸ refl u
  have hstopped : some { u with stopped := true } = some v → Resembles u v :=
    fun h => Option.some.inj h ▸ ⟨rfl, fun h => h, rfl, rfl, rfl, fun _ => rfl⟩
  split at h
  · exact hsame h
  · split at h
    · cases h
    · split at h
      · exact hstopped h
      · split at h
        · exact hsame h
        · next hcaught => exact Option.some.inj h ▸ of_note signal hcaught
        · split at h
          · exact hsame h
          · exact hsame h
          · exact hstopped h
          · cases h

lemma of_takeAll {signals : List Nat} (h : u.takeAll signals = .ok v) : Resembles u v := by
  induction signals generalizing u with
  | nil => exact Except.ok.inj h ▸ refl u
  | cons signal rest ih =>
    rw [Task.takeAll] at h
    split at h
    · next t ht => exact (of_take ht).trans (ih h)
    · cases h

lemma of_receive {signal : Nat} (h : u.receive signal = .ok v) : Resembles u v := by
  unfold Task.receive at h
  split at h
  · have hresumed : Resembles u { u with stopped := false, held := [] } :=
      ⟨rfl, fun h => h, rfl, rfl, rfl, fun _ => rfl⟩
    exact hresumed.trans (of_takeAll h)
  · split at h
    · exact Except.ok.inj h ▸ ⟨rfl, fun h => h, rfl, rfl, rfl, fun _ => rfl⟩
    · exact of_takeAll h

end Resembles

/-! ### Numbers of programs -/

/-- The numbers of the programs that run. -/
def ids (m : Machine) : List Nat :=
  m.tasks.map Task.id

/-- Every number belongs to one program, and one that has ended does not run. -/
structure Staffed (m : Machine) : Prop where
  nodup : (ids m).Nodup
  lt : ∀ id ∈ ids m, id < m.next
  ne_outside : ∀ id ∈ ids m, id ≠ outside
  ended_lt : ∀ e ∈ m.ended, e.id < m.next
  ended : ∀ e ∈ m.ended, e.id ∉ ids m

section

variable {m : Machine} {t u v : Task} {id : Nat} {status : Status}

lemma ids_park (m : Machine) (t : Task) (p : Process) : ids (m.park t p) = ids m := by
  simp only [ids, park, setTask, List.map_map]
  refine List.map_congr_left fun u _ => ?_
  dsimp only [Function.comp]
  split
  · next h => exact h.symm
  · rfl

lemma mem_park {p : Process} (h : u ∈ (m.park t p).tasks) :
    u = { t with program := p } ∨ u ∈ m.tasks ∧ u.id ≠ t.id := by
  obtain ⟨w, hw, rfl⟩ := List.mem_map.mp h
  dsimp only
  split
  · exact Or.inl rfl
  · next hne => exact Or.inr ⟨hw, hne⟩

lemma mem_park_of_ne {p : Process} (h : u ∈ m.tasks) (hne : u.id ≠ t.id) :
    u ∈ (m.park t p).tasks := by
  refine List.mem_map.mpr ⟨u, h, ?_⟩
  exact if_neg hne

lemma mem_park_self {p : Process} (h : t.id ∈ ids m) :
    { t with program := p } ∈ (m.park t p).tasks := by
  obtain ⟨u, hu, hid⟩ := List.mem_map.mp h
  refine List.mem_map.mpr ⟨u, hu, ?_⟩
  exact if_pos hid

structure SameTasks (m m' : Machine) : Prop where
  tasks : m'.tasks = m.tasks
  ended : m'.ended = m.ended
  next : m'.next = m.next

lemma SameTasks.refl (m : Machine) : SameTasks m m := ⟨rfl, rfl, rfl⟩

lemma SameTasks.trans {k l : Machine} (h : SameTasks m k) (h' : SameTasks k l) :
    SameTasks m l :=
  ⟨h'.tasks.trans h.tasks, h'.ended.trans h.ended, h'.next.trans h.next⟩

lemma sameTasks_dropPipe (m : Machine) (n : Nat) : SameTasks m (m.dropPipe n) := by
  unfold dropPipe
  split
  · split
    · exact ⟨rfl, rfl, rfl⟩
    · exact .refl m
  · exact .refl m

lemma sameTasks_release (m : Machine) (n : Nat) : SameTasks m (m.release n) := by
  have hpipe : ∀ (k : Nat) (f : Pipe → Pipe), SameTasks m
      (({ m with openings := discard n m.openings }.changePipe k f).dropPipe k) := fun k f =>
    SameTasks.trans (k := { m with openings := discard n m.openings }.changePipe k f)
      ⟨rfl, rfl, rfl⟩ (sameTasks_dropPipe _ k)
  unfold release
  split
  · split
    · unfold closeOpening
      dsimp only
      split
      · exact hpipe _ _
      · exact hpipe _ _
      · exact ⟨rfl, rfl, rfl⟩
    · exact ⟨rfl, rfl, rfl⟩
  · exact .refl m

lemma sameTasks_foldl {f : Machine → Nat × Stream → Machine} (hf : ∀ m s, SameTasks m (f m s))
    (streams : List (Nat × Stream)) (m : Machine) : SameTasks m (streams.foldl f m) := by
  induction streams generalizing m with
  | nil => exact .refl m
  | cons s rest ih => exact (hf m s).trans (ih (f m s))

lemma sameTasks_releaseAll (streams : List (Nat × Stream)) (m : Machine) :
    SameTasks m (streams.foldl (fun m s => m.release s.2.opening) m) :=
  sameTasks_foldl (fun m s => sameTasks_release m s.2.opening) streams m

lemma sameTasks_retainAll (streams : List (Nat × Stream)) (m : Machine) :
    SameTasks m (streams.foldl (fun m s => m.retain s.2.opening) m) :=
  sameTasks_foldl (f := fun m s => m.retain s.2.opening) (fun _ _ => ⟨rfl, rfl, rfl⟩) streams m

/-! ### Ends of programs -/

/-- What becomes of a program when another one ends. -/
def bereaved (t u : Task) : Task :=
  let u := if u.parent = t.id then { u with parent := nobody } else u
  if u.id = t.parent ∧ u.disposition Signal.child = .caught then u.note Signal.child else u

lemma resembles_bereaved (ht : t.id ≠ outside) (u : Task) : Resembles u (bereaved t u) := by
  have horphaned : Resembles u (if u.parent = t.id then { u with parent := nobody } else u) := by
    split
    · next hparent =>
      exact ⟨rfl, fun h => absurd (hparent.symm.trans h) ht, rfl, rfl, rfl, fun _ => rfl⟩
    · exact .refl u
  unfold bereaved
  generalize (if u.parent = t.id then { u with parent := nobody } else u) = v at horphaned ⊢
  dsimp only
  split
  · next hcaught => exact horphaned.trans (.of_note _ hcaught.2)
  · exact horphaned

lemma tasks_bury (m : Machine) (t : Task) (status : Status) :
    (m.bury t status).tasks = m.tasks.map (bereaved t) := by
  have htasks := (sameTasks_releaseAll t.streams m).tasks
  show ((_ : List Task).map _).map _ = _
  rw [List.map_map, htasks]
  rfl

lemma next_bury (m : Machine) (t : Task) (status : Status) : (m.bury t status).next = m.next :=
  (sameTasks_releaseAll t.streams m).next

lemma ended_bury (m : Machine) (t : Task) (status : Status) :
    (m.bury t status).ended = m.ended.filter (fun e => e.parent ≠ t.id) ++
      if t.parent = outside ∨ (m.task? t.parent).isSome then [⟨t.parent, t.id, status⟩] else [] := by
  have hsame := sameTasks_releaseAll t.streams m
  have htask : ∀ id, (t.streams.foldl (fun m s => m.release s.2.opening) m).task? id = m.task? id := by
    intro id
    rw [task?, task?, hsame.tasks]
  unfold bury
  dsimp only
  rw [hsame.ended, htask]
  split <;> simp

lemma ids_bury (m : Machine) {t : Task} (ht : t.id ≠ outside) (status : Status) :
    ids (m.bury t status) = ids m := by
  rw [ids, tasks_bury, List.map_map]
  exact List.map_congr_left fun u _ => (resembles_bereaved ht u).id

lemma status_bury_of_some {status' : Status} (ht : t.id ≠ outside) (h : m.status? id = some status') :
    (m.bury t status).status? id = some status' := by
  -- only ends of which nobody but the program itself could learn are forgotten with it
  have hkept : (m.ended.filter fun e => e.parent ≠ t.id).find?
      (fun e => e.parent == outside && e.id == id) =
      m.ended.find? fun e => e.parent == outside && e.id == id := by
    rw [List.find?_filter]
    congr 1
    funext e
    by_cases he : e.parent = outside
    · by_cases hid : e.id = id <;> simp [he, hid, ht.symm]
    · simp [he]
  unfold status? at h ⊢
  rw [ended_bury, List.find?_append, hkept]
  obtain ⟨e, he, rfl⟩ := Option.map_eq_some_iff.mp h
  rw [he]
  rfl

lemma status_bury_self (hm : ∀ e ∈ m.ended, e.id ≠ t.id) (hparent : t.parent = outside) :
    (m.bury t status).status? t.id = some status := by
  have hnone : (m.ended.filter fun e => e.parent ≠ t.id).find?
      (fun e => e.parent == outside && e.id == t.id) = none := by
    rw [List.find?_eq_none]
    intro e he
    have hne := hm e (List.mem_filter.mp he).1
    simp [hne]
  unfold status?
  rw [ended_bury, if_pos (Or.inl hparent), List.find?_append, hnone, hparent]
  simp

lemma staffed_bury (hm : Staffed m) (ht : t.id ∈ ids m) (status : Status) :
    Staffed ({ m with tasks := m.tasks.filter fun u => u.id ≠ t.id }.bury t status) := by
  have houtside := hm.ne_outside t.id ht
  have hids : ids ({ m with tasks := m.tasks.filter fun u => u.id ≠ t.id }.bury t status) =
      (ids m).filter (· ≠ t.id) := by
    rw [ids_bury _ houtside, ids, ids, List.filter_map]
    rfl
  have hmem : ∀ x, x ∈ ids ({ m with tasks := m.tasks.filter fun u => u.id ≠ t.id }.bury t status) →
      x ∈ ids m ∧ x ≠ t.id := by
    intro x hx
    rw [hids] at hx
    simpa using hx
  have hended : ∀ e ∈ ({ m with tasks := m.tasks.filter fun u => u.id ≠ t.id }.bury t status).ended,
      e ∈ m.ended ∨ e.id = t.id := by
    intro e he
    rw [ended_bury] at he
    rcases List.mem_append.mp he with he | he
    · exact Or.inl (List.mem_filter.mp he).1
    · split at he
      · exact Or.inr (by rw [List.mem_singleton.mp he])
      · exact absurd he List.not_mem_nil
  refine ⟨?_, fun x hx => ?_, fun x hx => ?_, fun e he => ?_, fun e he hx => ?_⟩
  · rw [hids]
    exact hm.nodup.filter _
  · rw [next_bury]
    exact hm.lt x (hmem x hx).1
  · exact hm.ne_outside x (hmem x hx).1
  · rw [next_bury]
    rcases hended e he with he | he
    · exact hm.ended_lt e he
    · exact he ▸ hm.lt t.id ht
  · rcases hended e he with he | he
    · exact hm.ended e he (hmem _ hx).1
    · exact (hmem _ hx).2 he

/-! ### Signals -/

lemma id_of_task {id : Nat} (h : m.task? id = some t) : t ∈ m.tasks ∧ t.id = id :=
  ⟨List.mem_of_find?_eq_some h, by simpa using List.find?_some h⟩

/-- What a signal does: nothing, something to a program, or its end. -/
lemma signal_cases (m : Machine) (id signal : Nat) :
    m.signal id signal = m ∨
      (∃ u v, u ∈ m.tasks ∧ u.id = id ∧ Resembles u v ∧ m.signal id signal = m.setTask v) ∨
      ∃ u s, u ∈ m.tasks ∧ u.id = id ∧ m.signal id signal =
        { m with tasks := m.tasks.filter fun w => w.id ≠ u.id }.bury u (.signal s) := by
  unfold Machine.signal
  cases htask : m.task? id with
  | none => exact Or.inl rfl
  | some u =>
    obtain ⟨hu, hid⟩ := id_of_task htask
    dsimp only
    cases hreceive : u.receive signal with
    | ok v => exact Or.inr (Or.inl ⟨u, v, hu, hid, .of_receive hreceive, rfl⟩)
    | error s =>
      refine Or.inr (Or.inr ⟨u, s, hu, hid, ?_⟩)
      dsimp only
      rw [finish, htask, hid]

lemma ids_setTask (m : Machine) (t : Task) : ids (m.setTask t) = ids m :=
  ids_park m t t.program

/-- What a call of a program changes of the programs and their ends: at most it sends a signal. -/
structure Frame (c : Call) (m : Machine) (t : Task) (m' : Machine) (t' : Task) : Prop where
  id : t'.id = t.id
  parent : t.parent = outside → t'.parent = outside
  next : m.next ≤ m'.next
  ids : (ids m').Sublist (ids m)
  seat : t.id ∈ Proofs.ids m → t.id ∈ Proofs.ids m'
  tasks : ∀ v ∈ m'.tasks, ∃ u ∈ m.tasks, Resembles u v
  present : ∀ u ∈ m.tasks, (∀ s, c ≠ .send u.id s) → ∃ v ∈ m'.tasks, Resembles u v
  ended : ∀ e ∈ m'.ended, e ∈ m.ended ∨ (e.id ∈ Proofs.ids m ∧ e.id ∉ Proofs.ids m')
  status : ∀ x st, m.status? x = some st → m'.status? x = some st

lemma frame_of_same {c : Call} {m' : Machine} {t' : Task} (hid : t'.id = t.id)
    (hparent : t.parent = outside → t'.parent = outside) (hnext : m.next ≤ m'.next)
    (htasks : m'.tasks = m.tasks) (hended : m'.ended = m.ended) : Frame c m t m' t' where
  id := hid
  parent := hparent
  next := hnext
  ids := by
    rw [Proofs.ids, Proofs.ids, htasks]
  seat h := by
    rwa [Proofs.ids, htasks]
  tasks v hv := ⟨v, htasks ▸ hv, .refl v⟩
  present u hu _ := ⟨u, htasks ▸ hu, .refl u⟩
  ended e he := Or.inl (hended ▸ he)
  status x st h := by
    rwa [status?, hended]

lemma frame_of_sameTasks {c : Call} {m' : Machine} {t' : Task} (hid : t'.id = t.id)
    (hparent : t.parent = outside → t'.parent = outside) (h : SameTasks m m') : Frame c m t m' t' :=
  frame_of_same hid hparent (Nat.le_of_eq h.next.symm) h.tasks h.ended

lemma find?_erase_of_false {α : Type} [DecidableEq α] {q : α → Bool} {x : α} (h : q x = false)
    (xs : List α) : (xs.erase x).find? q = xs.find? q := by
  induction xs with
  | nil => rfl
  | cons y ys ih =>
    by_cases hy : y = x
    · subst hy
      rw [List.erase_cons_head, List.find?_cons, h]
    · rw [List.erase_cons_tail (by simpa using hy), List.find?_cons, List.find?_cons, ih]

/-- To learn of the end of a child is to forget it, but no program is the child of the outside. -/
lemma frame_report {child : Option Nat} {waits : Bool} (ht : t.id ≠ outside) :
    Frame (.await child waits) m t (m.report t.id child).1 t := by
  unfold report
  dsimp only
  split
  · next e he =>
    refine ⟨rfl, id, Nat.le_refl _, List.Sublist.refl _, fun h => h, fun v hv => ⟨v, hv, .refl v⟩,
      fun u hu _ => ⟨u, hu, .refl u⟩, fun x hx => Or.inl (List.mem_of_mem_erase hx), ?_⟩
    intro x st hx
    have hparent : e.parent = t.id := by
      have hmatch := List.find?_some he
      simp only [Bool.and_eq_true, beq_iff_eq] at hmatch
      exact hmatch.1
    have hother : (e.parent == outside && e.id == x) = false := by simp [hparent, ht]
    have hfind := find?_erase_of_false (q := fun e => e.parent == outside && e.id == x) hother m.ended
    exact (congrArg (Option.map Ended.status) hfind).trans hx
  · split <;> exact frame_of_same rfl id (Nat.le_refl _) rfl rfl

lemma frame_signal {target signal : Nat} (hm : Staffed m) (hne : target ≠ t.id) :
    Frame (.send target signal) m t (m.signal target signal) t := by
  rcases signal_cases m target signal with heq | ⟨u, v, hu, hid, hv, heq⟩ | ⟨u, s, hu, hid, heq⟩
  · rw [heq]
    exact frame_of_same rfl id (Nat.le_refl _) rfl rfl
  · rw [heq]
    have hids := ids_setTask m v
    refine ⟨rfl, id, Nat.le_refl _, hids ▸ List.Sublist.refl _, fun h => hids.symm ▸ h, fun w hw => ?_,
      fun w hw _ => ?_, fun e he => Or.inl he, fun _ _ h => h⟩
    · obtain ⟨x, hx, rfl⟩ := List.mem_map.mp hw
      split
      · exact ⟨u, hu, hv⟩
      · exact ⟨x, hx, .refl x⟩
    · by_cases hw' : w.id = v.id
      · have huw : w = u := List.inj_on_of_nodup_map hm.nodup hw hu (hw'.trans hv.id)
        exact ⟨v, List.mem_map.mpr ⟨w, hw, if_pos hw'⟩, huw ▸ hv⟩
      · exact ⟨w, List.mem_map.mpr ⟨w, hw, if_neg hw'⟩, .refl w⟩
  · rw [heq]
    have hmem : u.id ∈ ids m := List.mem_map_of_mem hu
    have houtside := hm.ne_outside u.id hmem
    have hids : ids ({ m with tasks := m.tasks.filter fun w => w.id ≠ u.id }.bury u (.signal s)) =
        (ids m).filter (· ≠ u.id) := by
      rw [ids_bury _ houtside, ids, ids, List.filter_map]
      rfl
    refine ⟨rfl, id, ?_, ?_, fun h => ?_, fun v hv => ?_, fun w hw hsend => ?_, fun e he => ?_, ?_⟩
    · have hnext := next_bury { m with tasks := m.tasks.filter fun w => w.id ≠ u.id } u (.signal s)
      exact Nat.le_of_eq hnext.symm
    · rw [hids]
      exact List.filter_sublist
    · rw [hids]
      exact List.mem_filter.mpr ⟨h, decide_eq_true (hid ▸ hne.symm)⟩
    · rw [tasks_bury] at hv
      obtain ⟨w, hw, rfl⟩ := List.mem_map.mp hv
      exact ⟨w, (List.mem_filter.mp hw).1, resembles_bereaved houtside w⟩
    · have hother : w.id ≠ u.id := by
        rintro hw'
        exact hsend signal (by rw [hw', hid])
      rw [tasks_bury]
      have hkept : w ∈ m.tasks.filter fun w => w.id ≠ u.id :=
        List.mem_filter.mpr ⟨hw, decide_eq_true hother⟩
      exact ⟨bereaved u w, List.mem_map_of_mem hkept, resembles_bereaved houtside w⟩
    · rw [ended_bury] at he
      rcases List.mem_append.mp he with he | he
      · exact Or.inl (List.mem_filter.mp he).1
      · split at he
        · have heid : e.id = u.id := by rw [List.mem_singleton.mp he]
          refine Or.inr ⟨heid ▸ hmem, ?_⟩
          rw [hids, heid]
          simp
        · exact absurd he List.not_mem_nil
    · intro x st hx
      exact status_bury_of_some (m := { m with tasks := _ }) houtside hx

end

end AsmExplorer.Proofs
