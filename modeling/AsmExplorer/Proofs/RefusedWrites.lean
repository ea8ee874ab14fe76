import AsmExplorer.Proofs.MachineRuns

/-!
# Writing where nobody reads

What is written to a pipe goes into it as long as somebody reads it. Otherwise it is refused, and the
program that wrote it ends unless it has taken precautions.
-/

namespace AsmExplorer.Proofs

open Machine

/-! ### Reading from a pipe and writing to one -/

section

variable {m : Machine} {t : Task} {number n pipe : Nat} {o : Opening} {q : Pipe} {p : Process}

lemma openingOf?_of_stream {s : Stream} (hs : t.stream? number = some s)
    (ho : m.opening? s.opening = some o) : m.openingOf? t number = some (s.opening, o) := by
  unfold openingOf?
  rw [hs, Option.bind_some, ho]
  rfl

lemma read_source (limit : Nat) (next : Except FileError Bytes → Process)
    (ho : m.openingOf? t number = some (n, o)) (hreadable : o.readable = true)
    (htarget : o.target = .source pipe) (hq : m.pipe? pipe = some q) (harrived : t.arrived = []) :
    m.read t number limit p next =
      if q.queue.size = 0 then
        if q.writers = 0 then .goes m t (next (.ok [])) else .waits m t p
      else .goes (m.changePipe pipe fun q' => { q' with queue := (q.queue.take limit).2 }) t
        (next (.ok (q.queue.take limit).1)) := by
  unfold Machine.read
  simp only [ho, hreadable, htarget, hq, harrived]
  simp

lemma write_to_sink (bytes : Bytes) (next : Except FileError Unit → Process)
    (ho : m.openingOf? t number = some (n, o)) (hwritable : o.writable = true)
    (htarget : o.target = .sink pipe) (hq : m.pipe? pipe = some q) :
    m.write t number bytes p next = m.writePipe t number pipe q bytes p next := by
  unfold Machine.write
  simp only [ho, hwritable, htarget, hq]
  simp

/-- Who writes where nobody reads, and has taken no precaution, ends by the signal for it. -/
lemma write_unread (bytes : Bytes) (next : Except FileError Unit → Process)
    (ho : m.openingOf? t number = some (n, o)) (hwritable : o.writable = true)
    (htarget : o.target = .sink pipe) (hq : m.pipe? pipe = some q) (hreaders : q.readers = 0)
    (hprecaution : t.disposition Signal.pipe = .byDefault) :
    m.write t number bytes p next = .ends m t .brokenPipe := by
  have htake : t.take Signal.pipe = none := by
    unfold Task.take
    rw [hprecaution]
    rfl
  rw [write_to_sink bytes next ho hwritable htarget hq]
  unfold writePipe
  dsimp only
  rw [if_pos hreaders, htake]
  rfl

/-- What is written to a pipe goes into it, now or later, as long as somebody reads it. -/
lemma write_sink (bytes : Bytes) (next : Except FileError Unit → Process)
    (ho : m.openingOf? t number = some (n, o)) (hwritable : o.writable = true)
    (htarget : o.target = .sink pipe) (hq : m.pipe? pipe = some q) (hreaders : q.readers ≠ 0)
    (harrived : t.arrived = []) :
    m.write t number bytes p next = .waits m t p ∨
      ∃ written : Bytes, ∃ rest : Process,
        (rest = next (.ok ()) ∨ ∃ bytes', rest = .call (.write number bytes') next) ∧
        m.write t number bytes p next =
          .goes (m.changePipe pipe fun q' => { q' with queue := q'.queue.put written }) t rest := by
  rw [write_to_sink bytes next ho hwritable htarget hq]
  unfold writePipe
  simp only [hreaders, harrived, if_false]
  split
  · exact Or.inr ⟨bytes, _, Or.inl rfl, rfl⟩
  · split
    · exact Or.inr ⟨bytes, _, Or.inl rfl, rfl⟩
    · rw [if_neg (by simp)]
      split
      · exact Or.inl rfl
      · exact Or.inr ⟨_, _, Or.inr ⟨_, rfl⟩, rfl⟩

end

/-! ### Refusals -/

/-- A program writes to a pipe that nobody reads. -/
structure Moment.Refusal (s s' : Moment) (t : Task) (pipe : Nat) : Prop where
  unread : ∃ q, s.machine.pipe? pipe = some q ∧ q.readers = 0
  writes : ∃ number bytes next n o, s.active = some (t, .call (.write number bytes) next) ∧
    deed s.machine t (.call (.write number bytes) next) = some s' ∧
    s.machine.openingOf? t number = some (n, o) ∧ o.writable = true ∧ o.target = .sink pipe

/-- From moment to moment, where nobody is refused who writes to a pipe. -/
abbrev Unrefused (pipe : Nat) : Moment → Moment → Prop :=
  Relation.ReflTransGen fun s s' => Moment.Step s s' ∧ ∀ t, ¬ s.Refusal s' t pipe

section

variable {pipe : Nat} {s s' : Moment} {t : Task}

lemma Moment.Refusal.step (h : s.Refusal s' t pipe) : Moment.Step s s' := by
  obtain ⟨number, bytes, next, n, o, hactive, hdeed, -⟩ := h.writes
  obtain ⟨m, active⟩ := s
  obtain rfl : active = _ := hactive
  exact .act hdeed

lemma steps_of_unrefused (h : Unrefused pipe s s') : Moment.Steps s s' :=
  h.lift id fun _ _ hstep => hstep.1

/-- In a run nobody is refused, or there is somebody who is refused first. -/
lemma unrefused_or_refusal (pipe : Nat) (h : Moment.Steps s s') : Unrefused pipe s s' ∨
    ∃ r r' t, Unrefused pipe s r ∧ r.Refusal r' t pipe ∧ Moment.Steps r' s' := by
  induction h with
  | refl => exact Or.inl .refl
  | @tail x y _ hstep ih =>
    rcases ih with hsteps | ⟨r, r', t, hfirst, hrefusal, hlast⟩
    · by_cases hrefusal : ∃ t, x.Refusal y t pipe
      · obtain ⟨t, hrefusal⟩ := hrefusal
        exact Or.inr ⟨x, y, t, hsteps, hrefusal, .refl⟩
      · exact Or.inl (hsteps.tail ⟨hstep, not_exists.mp hrefusal⟩)
    · exact Or.inr ⟨r, r', t, hfirst, hrefusal, hlast.tail hstep⟩

/-- Who is refused and has taken no precaution ends by the signal for it. -/
lemma status_of_refusal (hs : s.Orderly) (h : s.Refusal s' t pipe) (hparent : t.parent = outside)
    (hprecaution : t.disposition Signal.pipe = .byDefault) :
    s'.machine.status? t.id = some .brokenPipe := by
  obtain ⟨q, hq, hreaders⟩ := h.unread
  obtain ⟨number, bytes, next, n, o, hactive, hdeed, ho, hwritable, htarget⟩ := h.writes
  have hturn := write_unread
    (m := { s.machine with strength := s.machine.strength - effort (.write number bytes) })
    (t := { t with work := t.work + effort (.write number bytes) })
    (p := .call (.write number bytes) next) bytes next ho hwritable htarget hq hreaders hprecaution
  have hself := hs.seat t _ hactive
  have hunended : ∀ e ∈ s.machine.ended, e.id ≠ t.id := fun e he hid =>
    hs.staffed.ended e he (hid ▸ hself)
  obtain rfl : Moment.after _ = s' := Option.some.inj hdeed
  change (Moment.after (Machine.write _ _ _ _ _ _)).machine.status? t.id = _
  rw [hturn]
  exact status_bury_self (m := { s.machine with strength := _, tasks := _ }) hunended hparent

/-- What a program writes through an opening of its own goes on its way, unless it is refused. -/
lemma Role.Holds.write {role : Role} {g : Guard} {number : Nat} {bytes : Bytes}
    {next : Except FileError Unit → Process} (h : role.Holds s)
    (hactive : s.active = some (t, .call (.write number bytes) next)) (hid : t.id = role.id)
    (hdeed : Moment.deed s.machine t (.call (.write number bytes) next) = some s')
    (hg : g ∈ role.guards) (hwritable : g.writable = true) (htarget : g.target = .sink pipe)
    (hstream : t.stream? number = some { opening := g.opening }) (harrived : t.arrived = [])
    (hplays : ∀ work rest,
      (rest = next (.ok ()) ∨ ∃ bytes', rest = .call (.write number bytes') next) →
      role.plays { t with work := work, program := rest }) :
    role.Holds s' ∨ s.Refusal s' t pipe := by
  obtain ⟨o, ho, hfits⟩ := h.guarded.guard g hg
  have hwritable := hfits.writable.trans hwritable
  have htarget := hfits.target.trans htarget
  have hopening := openingOf?_of_stream hstream ho
  obtain ⟨q, hq⟩ := h.guarded.pipe_of_sink ho htarget
  by_cases hreaders : q.readers = 0
  · exact Or.inr ⟨⟨q, hq, hreaders⟩, number, bytes, next, _, o, hactive, hdeed, hopening, hwritable,
      htarget⟩
  have hguarded : Guarded role.guards
      { s.machine with strength := s.machine.strength - effort (.write number bytes) } :=
    guarded_of_same h.guarded rfl rfl (Nat.le_refl _)
  have hturn := write_sink
    (m := { s.machine with strength := s.machine.strength - effort (.write number bytes) })
    (t := { t with work := t.work + effort (.write number bytes) })
    (p := .call (.write number bytes) next) bytes next hopening hwritable htarget hq hreaders harrived
  rcases hturn with hturn | ⟨written, rest, hrest, hturn⟩
  · exact Or.inl (h.call hactive hid hdeed (Or.inr hturn) hguarded rfl rfl
      (hplays _ _ (Or.inr ⟨bytes, rfl⟩)))
  · refine Or.inl (h.call hactive hid hdeed (Or.inl hturn) ?_ rfl rfl (hplays _ _ hrest))
    exact guarded_changePipe hguarded pipe (fun _ => Nat.le_refl _) (fun _ => Nat.le_refl _)
      fun _ _ hsized => sized_put hsized written

end

end AsmExplorer.Proofs
