import AsmExplorer.Proofs.MachineDeeds

/-!
# Runs of a machine

Between two moments either one program has done something or nothing has happened to any program. So
the ends of programs that were started from outside are remembered all along a run.
-/

namespace AsmExplorer.Proofs

open Machine

namespace Moment

structure Unmoved (s s' : Moment) : Prop where
  ids : ids s'.machine = ids s.machine
  seat : ∀ t p, s'.active = some (t, p) → t.id ∈ Proofs.ids s'.machine
  next : s'.machine.next = s.machine.next
  ended : s'.machine.ended = s.machine.ended
  openings : s'.machine.openings = s.machine.openings
  pipes : s'.machine.pipes = s.machine.pipes
  tasks : ∀ v ∈ s'.parked.tasks, ∃ u ∈ s.parked.tasks, Resembles u v
  present : ∀ u ∈ s.parked.tasks, ∃ v ∈ s'.parked.tasks, Resembles u v

/-- Every number belongs to one program or one opening. -/
structure Orderly (s : Moment) : Prop where
  staffed : Staffed s.machine
  seat : ∀ t p, s.active = some (t, p) → t.id ∈ ids s.machine
  numbered : Guarded [] s.machine

section

variable {s s' : Moment} {m : Machine} {t u v : Task} {p : Process}

lemma avoids_nothing (streams : List (Nat × Stream)) : Avoids [] streams :=
  fun _ _ _ hg => absurd hg List.not_mem_nil

lemma Orderly.active_mem (h : Orderly s) (hactive : s.active = some (t, p)) :
    { t with program := p } ∈ s.parked.tasks := by
  have hseat := h.seat t p hactive
  unfold parked
  rw [hactive]
  exact mem_park_self hseat

lemma ids_parked (s : Moment) : ids s.parked = ids s.machine := by
  unfold parked
  split
  · rfl
  · exact ids_park _ _ _

lemma guarded_parked {guards : List Guard} : Guarded guards s.parked ↔ Guarded guards s.machine := by
  unfold parked
  split
  · exact Iff.rfl
  · exact ⟨fun h => guarded_of_same h rfl rfl (Nat.le_refl _), fun h => guarded_park h _ _⟩

lemma Orderly.eq_of_id (h : Orderly s) (hu : u ∈ s.parked.tasks) (hv : v ∈ s.parked.tasks)
    (hid : u.id = v.id) : u = v := by
  have hnodup : (ids s.parked).Nodup := ids_parked s ▸ h.staffed.nodup
  exact List.inj_on_of_nodup_map hnodup hu hv hid

lemma mem_parked_of_ne (hactive : s.active = some (t, p)) (hu : u ∈ s.machine.tasks)
    (hne : u.id ≠ t.id) : u ∈ s.parked.tasks := by
  unfold parked
  rw [hactive]
  exact mem_park_of_ne hu hne

lemma mem_machine_of_ne (hactive : s.active = some (t, p)) (hu : u ∈ s.parked.tasks)
    (hne : u.id ≠ t.id) : u ∈ s.machine.tasks := by
  unfold parked at hu
  rw [hactive] at hu
  rcases mem_park hu with rfl | ⟨hu, -⟩
  · exact absurd rfl hne
  · exact hu

lemma unmoved_take (hm : Staffed m) (htask : m.task? t.id = some t) :
    Unmoved ⟨m, none⟩ ⟨m, some (t, t.program)⟩ := by
  obtain ⟨ht, -⟩ := id_of_task htask
  have hmem : t.id ∈ ids m := List.mem_map_of_mem ht
  refine ⟨rfl, fun u q h => ?_, rfl, rfl, rfl, rfl, fun v hv => ⟨v, ?_, .refl v⟩,
    fun u hu => ⟨u, ?_, .refl u⟩⟩
  · obtain ⟨rfl, -⟩ := Prod.mk.inj (Option.some.inj h)
    exact hmem
  · rcases mem_park hv with rfl | ⟨hv, -⟩
    · exact ht
    · exact hv
  · by_cases hid : u.id = t.id
    · obtain rfl : u = t := List.inj_on_of_nodup_map hm.nodup hu ht hid
      exact mem_park_self hmem
    · exact mem_park_of_ne hu hid

lemma unmoved_pass (m : Machine) (time : Nat) : Unmoved ⟨m, none⟩ ⟨m.moveTo time, none⟩ := by
  have hrested : ∀ u : Task, Resembles u { u with work := 0 } :=
    fun u => ⟨rfl, fun h => h, rfl, rfl, rfl, fun _ => rfl⟩
  refine ⟨?_, fun _ _ h => (nomatch h), rfl, rfl, rfl, rfl, fun v hv => ?_, fun u hu => ?_⟩
  · show (m.tasks.map _).map Task.id = m.tasks.map Task.id
    rw [List.map_map]
    rfl
  · obtain ⟨u, hu, rfl⟩ := List.mem_map.mp hv
    exact ⟨u, hu, hrested u⟩
  · exact ⟨_, List.mem_map_of_mem hu, hrested u⟩

/-- Either nothing happens to any program, or one does something. -/
lemma step_cases (h : Step s s') (hs : Orderly s) :
    Unmoved s s' ∨ ∃ t p, s.active = some (t, p) ∧ deed s.machine t p = some s' := by
  have hsame : ∀ {m m' : Machine}, m'.tasks = m.tasks → m'.next = m.next → m'.ended = m.ended →
      m'.openings = m.openings → m'.pipes = m.pipes → Unmoved ⟨m, none⟩ ⟨m', none⟩ := by
    intro m m' htasks hnext hended hopenings hpipes
    refine ⟨congrArg (List.map Task.id) htasks, fun _ _ h => (nomatch h), hnext, hended, hopenings,
      hpipes, fun v hv => ⟨v, ?_, .refl v⟩, fun u hu => ⟨u, ?_, .refl u⟩⟩
    · exact htasks ▸ hv
    · exact htasks.symm ▸ hu
  cases h with
  | take htask _ => exact Or.inl (unmoved_take hs.staffed htask)
  | act hdeed => exact Or.inr ⟨_, _, rfl, hdeed⟩
  | park m t p =>
    exact Or.inl ⟨ids_park m t p, fun _ _ h => (nomatch h), rfl, rfl, rfl, rfl,
      fun v hv => ⟨v, hv, .refl v⟩, fun u hu => ⟨u, hu, .refl u⟩⟩
  | pass m time => exact Or.inl (unmoved_pass m time)
  | strengthen m work => exact Or.inl (hsame rfl rfl rfl rfl rfl)
  | edit m files => exact Or.inl (hsame rfl rfl rfl rfl rfl)

lemma Unmoved.guarded {guards : List Guard} (h : Unmoved s s') (hs : Guarded guards s.machine) :
    Guarded guards s'.machine :=
  guarded_of_same hs h.openings h.pipes (Nat.le_of_eq h.next.symm)

lemma Unmoved.orderly (h : Unmoved s s') (hs : Orderly s) : Orderly s' where
  staffed := staffed_of_sublist hs.staffed (Nat.le_of_eq h.next.symm) (h.ids ▸ List.Sublist.refl _)
    fun _ he => Or.inl (h.ended ▸ he)
  seat := h.seat
  numbered := h.guarded hs.numbered

lemma Orderly.deed (hs : Orderly s) (hactive : s.active = some (t, p))
    (hdeed : Moment.deed s.machine t p = some s') : Deed [] s.machine t p s' :=
  deed_of hs.staffed (hs.seat t p hactive) hs.numbered (avoids_nothing _) hdeed fun u _ _ =>
    Or.inl (avoids_nothing u.streams)

lemma Orderly.step (hs : Orderly s) (h : Step s s') : Orderly s' := by
  rcases step_cases h hs with hunmoved | ⟨t, p, hactive, hdeed⟩
  · exact hunmoved.orderly hs
  · have hdone := hs.deed hactive hdeed
    exact ⟨hdone.staffed, hdone.seat, hdone.guarded⟩

lemma Orderly.steps (hs : Orderly s) (h : Steps s s') : Orderly s' := by
  induction h with
  | refl => exact hs
  | tail _ hstep ih => exact ih.step hstep

/-- How a program that was started from outside has ended is not forgotten. -/
lemma status_of_steps {id : Nat} {status : Status} (hs : Orderly s) (h : Steps s s')
    (hstatus : s.machine.status? id = some status) : s'.machine.status? id = some status := by
  induction h with
  | refl => exact hstatus
  | tail hsteps hstep ih =>
    have hs := hs.steps hsteps
    rcases step_cases hstep hs with hunmoved | ⟨t, p, hactive, hdeed⟩
    · rwa [status?, hunmoved.ended]
    · exact (hs.deed hactive hdeed).status id status ih

/-- A program that was started from outside stays one. -/
lemma parent_of_steps {id : Nat} (hs : Orderly s) (hlt : id < s.machine.next)
    (hparent : ∀ u ∈ s.parked.tasks, u.id = id → u.parent = outside) (h : Steps s s') :
    id < s'.machine.next ∧ ∀ u ∈ s'.parked.tasks, u.id = id → u.parent = outside := by
  induction h with
  | refl => exact ⟨hlt, hparent⟩
  | @tail x y hsteps hstep ih =>
    obtain ⟨hlt, hparent⟩ := ih
    have hx := hs.steps hsteps
    rcases step_cases hstep hx with hunmoved | ⟨t, p, hactive, hdeed⟩
    · refine ⟨hunmoved.next ▸ hlt, fun v hv hid => ?_⟩
      obtain ⟨u, hu, huv⟩ := hunmoved.tasks v hv
      exact huv.parent (hparent u hu (huv.id.symm.trans hid))
    · have hdone := hx.deed hactive hdeed
      refine ⟨Nat.lt_of_lt_of_le hlt hdone.next, fun v hv hid => ?_⟩
      rcases hdone.tasks v hv with ⟨u, hu, hne, huv⟩ | hheir
      · exact huv.parent (hparent u (mem_parked_of_ne hactive hu hne) (huv.id.symm.trans hid))
      · rcases hheir.id with heq | ⟨heq, -⟩
        · have hbefore := hparent { t with program := p } (hx.active_mem hactive) (heq.symm.trans hid)
          exact hheir.parent heq hbefore
        · omega

/-- A program sends a signal to another one. -/
def Signals (s : Moment) (target : Nat) : Prop :=
  ∃ t signal next, s.active = some (t, .call (.send target signal) next)

end

end Moment

/-! ### Programs with openings of their own -/

/-- A program with openings of its own, and how it is known to be still at what it does. -/
structure Role where
  id : Nat
  guards : List Guard
  plays : Task → Prop
  resembles : ∀ {u v : Task}, plays u → Resembles u v → plays v

namespace Role

/-- The program is at what it does, and nobody else has to do with its openings. -/
structure Holds (role : Role) (s : Moment) : Prop where
  orderly : s.Orderly
  guarded : Guarded role.guards s.machine
  others : ∀ u ∈ s.parked.tasks, u.id ≠ role.id → Avoids role.guards u.streams
  own : ∃ u ∈ s.parked.tasks, u.id = role.id ∧ role.plays u

variable {role : Role} {s s' : Moment} {m' : Machine} {t t' : Task} {p q : Process}

lemma Holds.active_plays (h : role.Holds s) (hactive : s.active = some (t, p))
    (hid : t.id = role.id) :
    role.plays { t with program := p } := by
  obtain ⟨u, hu, hrole, hplays⟩ := h.own
  have heq := h.orderly.eq_of_id hu (h.orderly.active_mem hactive) (hrole.trans hid.symm)
  exact heq ▸ hplays

lemma Holds.unmoved (h : role.Holds s) (hstep : s.Unmoved s') : role.Holds s' where
  orderly := hstep.orderly h.orderly
  guarded := hstep.guarded h.guarded
  others v hv hid := by
    obtain ⟨u, hu, huv⟩ := hstep.tasks v hv
    exact huv.streams ▸ h.others u hu fun hu => hid (huv.id.trans hu)
  own := by
    obtain ⟨u, hu, hrole, hplays⟩ := h.own
    obtain ⟨v, hv, huv⟩ := hstep.present u hu
    exact ⟨v, hv, huv.id.trans hrole, role.resembles hplays huv⟩

/-- What another program does concerns it only if that sends a signal to it. -/
lemma Holds.other (h : role.Holds s) (hactive : s.active = some (t, p)) (hid : t.id ≠ role.id)
    (hdeed : Moment.deed s.machine t p = some s') (hsignal : ¬ s.Signals role.id) :
    role.Holds s' := by
  obtain ⟨u, hu, hrole, hplays⟩ := h.own
  have hne : u.id ≠ t.id := fun heq => hid (heq.symm.trans hrole)
  have hsend : ∀ signal next, p ≠ .call (.send u.id signal) next := by
    rintro signal next rfl
    exact hsignal ⟨t, signal, next, hrole ▸ hactive⟩
  have hu := Moment.mem_machine_of_ne hactive hu hne
  -- the deed is told of twice: without guards it shows that the program is still there, and this
  -- is what its guards need
  have hdone := h.orderly.deed hactive hdeed
  obtain ⟨v, hv, huv⟩ := hdone.present u hu hne hsend
  have hpresent : role.id ∈ ids s'.machine := by
    rw [← Moment.ids_parked, ← hrole, ← huv.id]
    exact List.mem_map_of_mem hv
  have hspared : ∀ u ∈ s.machine.tasks, u.id ≠ t.id →
      Avoids role.guards u.streams ∨ u.id ∈ ids s'.machine := by
    intro u hu hne
    by_cases hur : u.id = role.id
    · exact Or.inr (hur ▸ hpresent)
    · exact Or.inl (h.others u (Moment.mem_parked_of_ne hactive hu hne) hur)
  have havoids : Avoids role.guards t.streams :=
    h.others { t with program := p } (h.orderly.active_mem hactive) hid
  have hdone' := deed_of h.orderly.staffed (h.orderly.seat t p hactive) h.guarded havoids hdeed hspared
  refine ⟨⟨hdone.staffed, hdone.seat, hdone.guarded⟩, hdone'.guarded, fun v hv hvr => ?_,
    v, hv, huv.id.trans hrole, role.resembles hplays huv⟩
  rcases hdone'.tasks v hv with ⟨x, hx, hxt, hxv⟩ | hheir
  · have hxr : x.id ≠ role.id := fun heq => hvr (hxv.id.trans heq)
    exact hxv.streams ▸ h.others x (Moment.mem_parked_of_ne hactive hx hxt) hxr
  · exact hheir.avoids

/-- It has made a call itself, which leaves all programs alone. -/
lemma Holds.call {c : Call} {next : c.Reply → Process} (h : role.Holds s)
    (hactive : s.active = some (t, .call c next)) (hid : t.id = role.id)
    (hdeed : Moment.deed s.machine t (.call c next) = some s')
    (hturn : perform { s.machine with strength := s.machine.strength - effort c }
        { t with work := t.work + effort c } (.call c next) c next = .goes m' t' q ∨
      perform { s.machine with strength := s.machine.strength - effort c }
        { t with work := t.work + effort c } (.call c next) c next = .waits m' t' q)
    (hguarded : Guarded role.guards m') (htasks : m'.tasks = s.machine.tasks) (ht' : t'.id = t.id)
    (hplays : role.plays { t' with program := q }) : role.Holds s' := by
  have hdone := h.orderly.deed hactive hdeed
  obtain rfl : Moment.after _ = s' := Option.some.inj hdeed
  have hparked : (Moment.after (perform { s.machine with strength := s.machine.strength - effort c }
      { t with work := t.work + effort c } (.call c next) c next)).parked = m'.park t' q := by
    rcases hturn with hturn | hturn
    · rw [hturn]
      rfl
    · rw [hturn]
      rfl
  refine ⟨⟨hdone.staffed, hdone.seat, hdone.guarded⟩, ?_, fun v hv hvr => ?_,
    { t' with program := q }, ?_, ht'.trans hid, hplays⟩
  · rw [← Moment.guarded_parked, hparked]
    exact guarded_park hguarded t' q
  · rw [hparked] at hv
    rcases mem_park hv with rfl | ⟨hv, hne⟩
    · exact absurd (ht'.trans hid) hvr
    · have hne : v.id ≠ t.id := fun heq => hvr (heq.trans hid)
      exact h.others v (Moment.mem_parked_of_ne hactive (htasks ▸ hv) hne) hvr
  · rw [hparked]
    refine mem_park_self ?_
    have hself := h.orderly.seat t _ hactive
    rw [ids, htasks, ht']
    exact hself

end Role

end AsmExplorer.Proofs
