import AsmExplorer.Proofs.MachineCalls

/-!
# Deeds of programs

A deed of a program leaves it with what it has still to do, and it may have got a child. All other
programs that still run are as before, but for signals.
-/

namespace AsmExplorer.Proofs

open Machine

/-- What there is left of a program to do, for itself or for a child. -/
inductive Remains : Process → Process → Prop where
  | all (p : Process) : Remains p p
  | reply {c : Call} {next : c.Reply → Process} (r : c.Reply) : Remains (.call c next) (next r)
  | rest {number : Nat} {bytes : Bytes} {next : Except FileError Unit → Process} (n : Nat) :
      Remains (.call (.write number bytes) next) (.call (.write number (bytes.drop n)) next)
  | parent {c : Process} {next : Nat → Process} (id : Nat) : Remains (.fork c next) (next id)
  | child {c : Process} {next : Nat → Process} : Remains (.fork c next) c

/-- Whether a program that goes on after a call is as told. -/
def GoesOn (P : Process → Prop) : Turn → Prop
  | .goes _ _ p => P p
  | .waits _ _ p => P p
  | .ends .. => True

section

variable {m : Machine} {t : Task}

lemma remains_read (m : Machine) (t : Task) (number limit : Nat)
    (next : Except FileError Bytes → Process) :
    GoesOn (Remains (.call (.read number limit) next))
      (m.read t number limit (.call (.read number limit) next) next) := by
  have hreply : ∀ r : Except FileError Bytes, Remains (.call (.read number limit) next) (next r) :=
    fun r => .reply (c := .read number limit) r
  unfold Machine.read
  repeat' split
  all_goals first
    | exact hreply _
    | exact .all _

lemma remains_write (m : Machine) (t : Task) (number : Nat) (bytes : Bytes)
    (next : Except FileError Unit → Process) :
    GoesOn (Remains (.call (.write number bytes) next))
      (m.write t number bytes (.call (.write number bytes) next) next) := by
  have hreply : ∀ r : Except FileError Unit, Remains (.call (.write number bytes) next) (next r) :=
    fun r => .reply (c := .write number bytes) r
  unfold Machine.write writePipe
  dsimp only
  repeat' split
  all_goals first
    | exact hreply _
    | exact .all _
    | exact .rest _
    | exact trivial

/-- After a call a program goes on with the answer or calls again. -/
lemma remains_perform (m : Machine) (t : Task) (c : Call) (next : c.Reply → Process) :
    GoesOn (Remains (.call c next)) (perform m t (.call c next) c next) := by
  cases c with
  | read number limit => exact remains_read m t number limit next
  | write number bytes => exact remains_write m t number bytes next
  | await child waits =>
    rw [perform_await]
    generalize m.report t.id child = report
    obtain ⟨m', r⟩ := report
    cases r with
    | going =>
      dsimp only
      split
      · exact .reply _
      · split
        · exact .all _
        · exact .reply _
    | ended | childless | interrupted => exact .reply _
  | sleep nanos =>
    rw [perform_sleep]
    repeat' split
    all_goals first
      | exact .reply _
      | exact .all _
  | send target signal =>
    rw [perform_send]
    repeat' split
    all_goals first
      | exact .reply _
      | exact trivial
  | _ => exact .reply _

/-! ### What a deed leaves -/

/-- A program after its deed, or its new child. Guarded openings that the program had no stream to
are out of reach for it still. -/
structure Heir (guards : List Guard) (m : Machine) (t : Task) (p : Process) (v : Task) : Prop where
  id : v.id = t.id ∨ v.id = m.next ∧ ∃ next, p = .fork v.program next
  parent : v.id = t.id → t.parent = outside → v.parent = outside
  program : Remains p v.program
  avoids : Avoids guards v.streams

/-- What a deed of a program leaves, as told of the moment after it. -/
structure Deed (guards : List Guard) (m : Machine) (t : Task) (p : Process) (s : Moment) : Prop where
  staffed : Staffed s.machine
  seat : ∀ u q, s.active = some (u, q) → u.id ∈ ids s.machine
  next : m.next ≤ s.machine.next
  tasks : ∀ v ∈ s.parked.tasks, (∃ u ∈ m.tasks, u.id ≠ t.id ∧ Resembles u v) ∨ Heir guards m t p v
  present : ∀ u ∈ m.tasks, u.id ≠ t.id →
    (∀ signal next, p ≠ .call (.send u.id signal) next) → ∃ v ∈ s.parked.tasks, Resembles u v
  status : ∀ id st, m.status? id = some st → s.machine.status? id = some st
  guarded : Guarded guards s.machine

variable {guards : List Guard} {p : Process} {s : Moment}

lemma staffed_of_sublist {m' : Machine} (hm : Staffed m) (hnext : m.next ≤ m'.next)
    (hids : (ids m').Sublist (ids m))
    (hended : ∀ e ∈ m'.ended, e ∈ m.ended ∨ (e.id ∈ ids m ∧ e.id ∉ ids m')) : Staffed m' where
  nodup := hm.nodup.sublist hids
  lt id hid := Nat.lt_of_lt_of_le (hm.lt id (hids.subset hid)) hnext
  ne_outside id hid := hm.ne_outside id (hids.subset hid)
  ended_lt e he := by
    refine Nat.lt_of_lt_of_le ?_ hnext
    rcases hended e he with he | he
    · exact hm.ended_lt e he
    · exact hm.lt e.id he.1
  ended e he hid := by
    rcases hended e he with he | he
    · exact hm.ended e he (hids.subset hid)
    · exact he.2 hid

lemma staffed_park (hm : Staffed m) (u : Task) (q : Process) : Staffed (m.park u q) := by
  have hids := ids_park m u q
  exact staffed_of_sublist hm (Nat.le_refl _) (hids ▸ List.Sublist.refl _) fun e he => Or.inl he

lemma guarded_park (hm : Guarded guards m) (u : Task) (q : Process) : Guarded guards (m.park u q) :=
  guarded_of_same hm rfl rfl (Nat.le_refl _)

variable {m' : Machine} {t' : Task} {c : Call} {q : Process}

lemma effect_of_work {strength work : Nat}
    (h : Effect c { m with strength := strength } { t with work := work } m' t') :
    Effect c m t m' t' := by
  obtain ⟨hframe, hguarded⟩ := h
  refine ⟨⟨hframe.id, hframe.parent, hframe.next, hframe.ids, hframe.seat, hframe.tasks,
    hframe.present, hframe.ended, hframe.status⟩, fun guards hm => ?_⟩
  exact hguarded guards (guarded_of_same hm rfl rfl (Nat.le_refl _))

/-- Whoever is sent a signal has nothing to do with guarded openings or goes on. -/
lemma Effect.keeps (h : Effect c m t m' t') (ht : t.id ∈ ids m) (hguarded : Guarded guards m)
    (havoids : Avoids guards t.streams)
    (hspared : ∀ u ∈ m.tasks, u.id ≠ t.id → Avoids guards u.streams ∨ u.id ∈ ids m') :
    Guarded guards m' ∧ Avoids guards t'.streams := by
  refine h.guarded guards hguarded havoids fun target _ _ u hu hid => ?_
  by_cases hself : u.id = t.id
  · exact Or.inr (hid ▸ hself ▸ h.frame.seat ht)
  · exact hid ▸ hspared u hu hself

lemma deed_of_goes {next : c.Reply → Process} (heffect : Effect c m t m' t')
    (hremains : Remains (.call c next) q) (hm : Staffed m) (ht : t.id ∈ ids m)
    (hguarded : Guarded guards m) (havoids : Avoids guards t.streams)
    (hspared : ∀ u ∈ m.tasks, u.id ≠ t.id → Avoids guards u.streams ∨ u.id ∈ ids m') :
    Deed guards m t (.call c next) ⟨m', some (t', q)⟩ := by
  obtain ⟨hguarded', havoids'⟩ := heffect.keeps ht hguarded havoids hspared
  obtain ⟨hid, hparent, hnext, hids, hseat, htasks, hpresent, hended, hstatus⟩ := heffect.frame
  refine ⟨staffed_of_sublist hm hnext hids hended, ?_, hnext, fun v hv => ?_, fun u hu hne hsend => ?_,
    hstatus, hguarded'⟩
  · intro u q h
    obtain ⟨rfl, -⟩ := Prod.mk.inj (Option.some.inj h)
    exact hid ▸ hseat ht
  · rcases mem_park hv with rfl | ⟨hv, hne⟩
    · exact Or.inr ⟨Or.inl hid, fun _ => hparent, hremains, havoids'⟩
    · obtain ⟨u, hu, huv⟩ := htasks v hv
      exact Or.inl ⟨u, hu, fun h => hne (huv.id.trans (h.trans hid.symm)), huv⟩
  · obtain ⟨v, hv, huv⟩ := hpresent u hu fun signal h => hsend signal (h ▸ next) (by subst h; rfl)
    exact ⟨v, mem_park_of_ne hv fun h => hne (huv.id.symm.trans (h.trans hid)), huv⟩

/-- It makes no difference whether a program that waits is put back at once. -/
lemma deed_of_waits (h : Deed guards m t p ⟨m', some (t', q)⟩) :
    Deed guards m t p ⟨m'.park t' q, none⟩ :=
  ⟨staffed_park h.staffed t' q, fun _ _ hactive => (nomatch hactive), h.next, h.tasks, h.present,
    h.status, guarded_park h.guarded t' q⟩

lemma deed_of_ends (heffect : Effect c m t m' t') (status : Status)
    (hc : ∀ id, (∀ signal next, p ≠ .call (.send id signal) next) → ∀ signal, c ≠ .send id signal)
    (hm : Staffed m) (ht : t.id ∈ ids m) (hguarded : Guarded guards m)
    (havoids : Avoids guards t.streams)
    (hspared : ∀ u ∈ m.tasks, u.id ≠ t.id → Avoids guards u.streams ∨
      u.id ∈ ids ({ m' with tasks := m'.tasks.filter fun u => u.id ≠ t'.id }.bury t' status)) :
    Deed guards m t p
      ⟨{ m' with tasks := m'.tasks.filter fun u => u.id ≠ t'.id }.bury t' status, none⟩ := by
  have hleft : ids ({ m' with tasks := m'.tasks.filter fun u => u.id ≠ t'.id }.bury t' status) ⊆
      ids m' := by
    rw [ids_bury _ (heffect.frame.id ▸ hm.ne_outside _ ht)]
    exact (List.filter_sublist.map Task.id).subset
  obtain ⟨hguarded', havoids'⟩ := heffect.keeps ht hguarded havoids fun u hu hne =>
    (hspared u hu hne).imp_right fun h => hleft h
  obtain ⟨hid, hparent, hnext, hids, hseat, htasks, hpresent, hended, hstatus⟩ := heffect.frame
  have hm' : Staffed m' := staffed_of_sublist hm hnext hids hended
  have ht' : t'.id ∈ ids m' := hid ▸ hseat ht
  have houtside := hm'.ne_outside _ ht'
  have htold := tasks_bury { m' with tasks := m'.tasks.filter fun u => u.id ≠ t'.id } t' status
  refine ⟨staffed_bury hm' ht' status, fun _ _ h => (nomatch h), ?_, fun v hv => ?_,
    fun u hu hne hsend => ?_, fun x st h => ?_, guarded_bury hguarded' havoids' status _⟩
  · rw [next_bury]
    exact hnext
  · obtain ⟨x, hx, rfl⟩ := List.mem_map.mp (htold ▸ hv)
    obtain ⟨hx, hne⟩ := List.mem_filter.mp hx
    obtain ⟨u, hu, hux⟩ := htasks x hx
    have hne : u.id ≠ t.id := fun h => of_decide_eq_true hne (hux.id.trans (h.trans hid.symm))
    exact Or.inl ⟨u, hu, hne, hux.trans (resembles_bereaved houtside x)⟩
  · obtain ⟨x, hx, hux⟩ := hpresent u hu (hc u.id hsend)
    have hne : x.id ≠ t'.id := fun h => hne (hux.id.symm.trans (h.trans hid))
    have hkept : x ∈ m'.tasks.filter fun u => u.id ≠ t'.id :=
      List.mem_filter.mpr ⟨hx, decide_eq_true hne⟩
    refine ⟨bereaved t' x, ?_, hux.trans (resembles_bereaved houtside x)⟩
    exact htold.symm ▸ List.mem_map_of_mem hkept
  · exact status_bury_of_some (m := { m' with tasks := _ }) houtside (hstatus x st h)

/-- A program gets a child that shares its streams. -/
lemma deed_of_fork {c : Process} {next : Nat → Process} (hm : Staffed m) (ht : t.id ∈ ids m)
    (hguarded : Guarded guards m) (havoids : Avoids guards t.streams)
    (hdeed : Moment.deed m t (.fork c next) = some s) : Deed guards m t (.fork c next) s := by
  obtain rfl := Option.some.inj hdeed
  -- the child comes last and has a new number, so that whatever is known of the others stays
  have hsame := sameTasks_retainAll t.streams m
  have hids : ∀ m' : Machine, m'.tasks =
      (t.streams.foldl (fun m s => m.retain s.2.opening) m).tasks ++ [child t m.next c] →
      ids m' = ids m ++ [m.next] := by
    intro m' htasks
    rw [ids, htasks, hsame.tasks, List.map_append]
    rfl
  have hmem : ∀ x, x ∈ ids m ++ [m.next] → x ∈ ids m ∨ x = m.next := by
    intro x hx
    simpa using hx
  refine ⟨⟨?_, fun x hx => ?_, fun x hx => ?_, fun e he => ?_, fun e he hx => ?_⟩, ?_, ?_, ?_, ?_,
    ?_, ?_⟩
  · rw [hids _ rfl]
    refine List.nodup_append.mpr ⟨hm.nodup, List.nodup_singleton _, fun x hx y hy => ?_⟩
    have hlt := hm.lt x hx
    have hy := List.mem_singleton.mp hy
    omega
  · rw [hids _ rfl] at hx
    rcases hmem x hx with hx | rfl
    · exact Nat.lt_succ_of_lt (hm.lt x hx)
    · exact Nat.lt_succ_self _
  · rw [hids _ rfl] at hx
    rcases hmem x hx with hx | rfl
    · exact hm.ne_outside x hx
    · have hlt := hm.lt t.id ht
      exact Nat.ne_of_gt (Nat.zero_lt_of_lt hlt)
  · exact Nat.lt_succ_of_lt (hm.ended_lt e (hsame.ended ▸ he))
  · have he : e ∈ m.ended := hsame.ended ▸ he
    rw [hids _ rfl] at hx
    rcases hmem _ hx with hx | hx
    · exact hm.ended e he hx
    · exact Nat.ne_of_lt (hm.ended_lt e he) hx
  · intro u q h
    obtain ⟨rfl, -⟩ := Prod.mk.inj (Option.some.inj h)
    rw [hids _ rfl]
    exact List.mem_append_left _ ht
  · exact Nat.le_succ _
  · intro v hv
    rcases mem_park hv with rfl | ⟨hv, hne⟩
    · exact Or.inr ⟨Or.inl rfl, fun _ h => h, .parent _, havoids⟩
    · rcases List.mem_append.mp hv with hv | hv
      · exact Or.inl ⟨v, hsame.tasks ▸ hv, hne, .refl v⟩
      · obtain rfl := List.mem_singleton.mp hv
        refine Or.inr ⟨Or.inr ⟨rfl, next, rfl⟩, fun h => ?_, .child, havoids⟩
        exact absurd h (Nat.ne_of_gt (hm.lt t.id ht))
  · intro u hu hne _
    refine ⟨u, mem_park_of_ne (List.mem_append_left _ ?_) hne, .refl u⟩
    rw [hsame.tasks]
    exact hu
  · intro x st h
    rwa [status?, hsame.ended]
  · have hretained := guarded_retainAll t.streams hguarded
    exact guarded_of_same hretained rfl rfl (Nat.le_succ_of_le (Nat.le_of_eq hsame.next))

lemma deed_of (hm : Staffed m) (ht : t.id ∈ ids m) (hguarded : Guarded guards m)
    (havoids : Avoids guards t.streams) (hdeed : Moment.deed m t p = some s)
    (hspared : ∀ u ∈ m.tasks, u.id ≠ t.id → Avoids guards u.streams ∨ u.id ∈ ids s.machine) :
    Deed guards m t p s := by
  cases p with
  | ended status =>
    obtain rfl := Option.some.inj hdeed
    -- an end without a call is one after a call that does nothing and is no signal
    have hc : ∀ id, (∀ signal next, Process.ended status ≠ .call (.send id signal) next) →
        ∀ signal, Call.pause 0 ≠ .send id signal := fun _ _ _ => Call.noConfusion
    exact deed_of_ends effect_refl status hc hm ht hguarded havoids hspared
  | stuck => cases hdeed
  | fork c next => exact deed_of_fork hm ht hguarded havoids hdeed
  | call c next =>
    have hremains := remains_perform { m with strength := m.strength - effort c }
      { t with work := t.work + effort c } c next
    have heffect := effect_perform (m := { m with strength := m.strength - effort c })
      (t := { t with work := t.work + effort c })
      ⟨hm.nodup, hm.lt, hm.ne_outside, hm.ended_lt, hm.ended⟩ ht (.call c next) c next
    have hsend : ∀ id, (∀ signal next', Process.call c next ≠ .call (.send id signal) next') →
        ∀ signal, c ≠ .send id signal := by
      intro id h signal hc
      subst hc
      exact h signal next rfl
    unfold Moment.deed at hdeed
    dsimp only at hdeed
    generalize perform _ _ _ _ _ = turn at hremains heffect hdeed
    cases turn with
    | goes m' t' q =>
      obtain rfl := Option.some.inj hdeed
      exact deed_of_goes (effect_of_work heffect) hremains hm ht hguarded havoids hspared
    | waits m' t' q =>
      obtain rfl := Option.some.inj hdeed
      have hspared : ∀ u ∈ m.tasks, u.id ≠ t.id → Avoids guards u.streams ∨ u.id ∈ ids m' := by
        intro u hu hne
        have hids := ids_park m' t' q
        exact hids ▸ hspared u hu hne
      have hgoes := deed_of_goes (effect_of_work heffect) hremains hm ht hguarded havoids hspared
      exact deed_of_waits hgoes
    | ends m' t' status =>
      obtain rfl := Option.some.inj hdeed
      exact deed_of_ends (effect_of_work heffect) status hsend hm ht hguarded havoids hspared

end

end AsmExplorer.Proofs
