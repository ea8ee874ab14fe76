import AsmExplorer.Proofs.RunHolders

/-!
# Interleavings of runs

What holds behind every interleaving of calls and cancellations: the invariant about holders, that
cancellations which have returned have told all their runs to stop, and that a run keeps the number
of its call.
-/

namespace AsmExplorer.Proofs

open Compilations

/-! ### Cancellations -/

/-- The places of these runs, and no others, are taken away. -/
structure Takes (old new : RunRegistry) (ids : List Nat) : Prop where
  next_eq : new.next = old.next
  stopped_eq : new.stopped = old.stopped
  taken : ∀ a ∈ ids, ∃ key, old.current.get? key = some a
  current_iff : ∀ key a, new.current.get? key = some a ↔ old.current.get? key = some a ∧ a ∉ ids

namespace Compilations

variable {s t : Compilations} {a b id : Nat} {call : Call} {h : Holder}

lemma takes_vacate (hs : Sound s) (source : Path) :
    Takes s.pipeline.runs (s.pipeline.runs.vacate source).1
      (s.pipeline.runs.vacate source).2.toList where
  next_eq := rfl
  stopped_eq := rfl
  taken a ha := ⟨source.key, Option.mem_toList.mp ha⟩
  current_iff key a := by
    have hget : (s.pipeline.runs.vacate source).1.current.get? key =
        if key = source.key then none else s.pipeline.runs.current.get? key := Table.get?_erase ..
    have hmem : a ∈ (s.pipeline.runs.vacate source).2.toList ↔
        s.pipeline.runs.current.get? source.key = some a := Option.mem_toList
    rw [hget, hmem]
    by_cases hkey : key = source.key
    · simp [hkey]
    · rw [if_neg hkey, iff_self_and]
      intro ha hsource
      exact hkey (Holder.place.inj (hs.held_once a (.place key) (.place source.key) ha hsource))

lemma takes_vacateAll (r : RunRegistry) : Takes r r.vacateAll.1 r.vacateAll.2 where
  next_eq := rfl
  stopped_eq := rfl
  taken _ ha := Table.mem_values_iff.mp ha
  current_iff key a := by
    have hget : r.vacateAll.1.current.get? key = none := Table.get?_empty key
    rw [hget]
    constructor
    · exact fun ha => absurd ha (Option.some_ne_none a).symm
    · exact fun ⟨ha, hnot⟩ => absurd (Table.mem_values_iff.mpr ⟨key, ha⟩) hnot

/-- A cancellation holds the runs whose places it took away. -/
lemma holds_take {runs : RunRegistry} {ids : List Nat} (hs : Sound s) (hlock : s.removal = none)
    (ht : Takes s.pipeline.runs runs ids) :
    (s.take runs ids).Holds a h ↔ (h = .removal ∧ a ∈ ids) ∨ (a ∉ ids ∧ s.Holds a h) := by
  cases h with
  | place key =>
    have hplace : (s.take runs ids).Holds a (.place key) ↔ runs.current.get? key = some a := Iff.rfl
    rw [hplace, ht.current_iff]
    simp [Holds, and_comm]
  | begin d =>
    have hsame : (s.take runs ids).Holds a (.begin d) ↔ s.Holds a (.begin d) := Iff.rfl
    have hnot : s.Holds a (.begin d) → a ∉ ids := by
      intro hheld hmem
      obtain ⟨key, hplace⟩ := ht.taken a hmem
      exact Holder.noConfusion (hs.held_once a (.begin d) (.place key) hheld hplace)
    simpa [hsame] using hnot
  | removal => simp [Holds, take, hlock]

lemma sound_take {runs : RunRegistry} {ids : List Nat} (hs : Sound s) (hlock : s.removal = none)
    (ht : Takes s.pipeline.runs runs ids) : Sound (s.take runs ids) := by
  have hholds := fun a h => holds_take (a := a) (h := h) hs hlock ht
  have hstopped : ∀ a, (s.take runs ids).isStopped a = s.isStopped a :=
    fun a => congrArg (List.contains · a) ht.stopped_eq
  -- what is held afterwards was held before, by a place if a cancellation holds it now
  have hbefore : ∀ a h, (s.take runs ids).Holds a h →
      ∃ h', s.Holds a h' ∧ ((∀ d, h ≠ .begin d) → ∀ d, h' ≠ .begin d) := by
    intro a h hheld
    rcases (hholds a h).mp hheld with ⟨-, hmem⟩ | ⟨-, hheld⟩
    · obtain ⟨key, hplace⟩ := ht.taken a hmem
      exact ⟨.place key, hplace, fun _ _ => Holder.noConfusion⟩
    · exact ⟨h, hheld, id⟩
  refine ⟨?_, hs.placed_iff, ?_, ?_, ?_, ?_, ?_, ?_, ?_⟩
  · intro x stage hx
    exact ht.next_eq.symm ▸ hs.known_lt x stage hx
  · exact fun x hx => hs.stopped_placed x (hstopped x ▸ hx)
  · intro a h hheld
    obtain ⟨h', hheld', -⟩ := hbefore a h hheld
    exact hs.held_placed a h' hheld'
  · intro a h hheld
    obtain ⟨h', hheld', -⟩ := hbefore a h hheld
    rw [hstopped]
    exact hs.held_unstopped a h' hheld'
  · intro a h h' hheld hheld'
    rcases (hholds a h).mp hheld with ⟨heq, hmem⟩ | ⟨hmem, hheld⟩
    · rcases (hholds a h').mp hheld' with ⟨heq', -⟩ | ⟨hnot, -⟩
      · exact heq.trans heq'.symm
      · exact absurd hmem hnot
    · rcases (hholds a h').mp hheld' with ⟨-, hmem'⟩ | ⟨-, hheld'⟩
      · exact absurd hmem' hmem
      · exact hs.held_once a h h' hheld hheld'
  · intro a ha
    rw [hstopped]
    rcases hs.held_or_told a ha with ⟨h, hheld⟩ | htold
    · by_cases hmem : a ∈ ids
      · exact Or.inl ⟨.removal, (hholds a _).mpr (Or.inl ⟨rfl, hmem⟩)⟩
      · exact Or.inl ⟨h, (hholds a h).mpr (Or.inr ⟨hmem, hheld⟩)⟩
    · exact Or.inr htold
  · intro a key hheld
    rcases (hholds a _).mp hheld with ⟨heq, -⟩ | ⟨-, hheld⟩
    · exact Holder.noConfusion heq
    · exact hs.place_key a key hheld
  · intro a h hheld hne
    obtain ⟨h', hheld', hne'⟩ := hbefore a h hheld
    exact hs.latest a h' hheld' (hne' hne)

/-! ### Every interleaving -/

lemma sound_step (hs : Sound s) (hstep : Step s t) : Sound t := by
  cases hstep with
  | draw i given => exact sound_draw hs i given
  | place hcall hstage hlock => exact sound_place hs hcall hstage hlock
  | tell hcall hstage => exact sound_of_narrows hs (narrows_tell hcall hstage)
  | advance w hcall hstage hwork =>
    exact sound_of_narrows hs (narrows_advance hcall hstage (Progress.advance_spec hwork).1)
  | leave hcall hstage _ => exact sound_of_narrows hs (narrows_leave hcall hstage)
  | vacate source hlock => exact sound_take hs hlock (takes_vacate hs source)
  | vacateAll hlock => exact sound_take hs hlock (takes_vacateAll _)
  | strike hremoval hid => exact sound_of_narrows hs (narrows_strike hremoval hid)
  | release hremoval htold => exact sound_of_narrows hs (narrows_release hremoval htold)

/-- No step takes back that a run was told to stop. -/
lemma stopped_step (hstep : Step s t) (ha : s.isStopped a = true) :
    t.isStopped a = true := by
  cases hstep with
  | draw i given => exact ha
  | place hcall hstage hlock => exact ha
  | tell hcall hstage => exact (narrows_tell hcall hstage).stopped_mono a ha
  | advance w hcall hstage hwork =>
    exact (narrows_advance hcall hstage (Progress.advance_spec hwork).1).stopped_mono a ha
  | leave hcall hstage _ => exact (narrows_leave hcall hstage).stopped_mono a ha
  | vacate source hlock => exact ha
  | vacateAll hlock => exact ha
  | strike hremoval hid => exact (narrows_strike hremoval hid).stopped_mono a ha
  | release hremoval htold => exact ha

/-- A cancellation has told every run that it need not tell any more, and one that has returned has
told them all. -/
structure Told (s : Compilations) : Prop where
  taken : ∀ r, s.removal = some r → ∀ a ∈ r.taken, a ∈ r.untold ∨ s.isStopped a = true
  removed : ∀ a ∈ s.removed, s.isStopped a = true

lemma told_step (ht : Told s) (hstep : Step s t) : Told t := by
  have hmono : ∀ a, s.isStopped a = true → t.isStopped a = true :=
    fun a ha => stopped_step hstep ha
  have hsame : t.removal = s.removal → t.removed = s.removed → Told t := by
    intro hremoval hremoved
    refine ⟨fun r hr a ha => ?_, fun a ha => hmono a (ht.removed a (hremoved ▸ ha))⟩
    exact (ht.taken r (hremoval ▸ hr) a ha).imp_right (hmono a)
  have htake : ∀ runs ids, t = s.take runs ids → Told t := by
    rintro runs ids rfl
    refine ⟨fun r hr a ha => ?_, fun a ha => hmono a (ht.removed a ha)⟩
    obtain rfl := Option.some.inj hr
    exact Or.inl ha
  cases hstep with
  | draw i given => exact hsame rfl rfl
  | place hcall hstage hlock => exact hsame rfl rfl
  | tell hcall hstage => exact hsame rfl rfl
  | advance w hcall hstage hwork => exact hsame rfl rfl
  | leave hcall hstage _ => exact hsame rfl rfl
  | vacate source hlock => exact htake _ _ rfl
  | vacateAll hlock => exact htake _ _ rfl
  | @strike r id hremoval hid =>
    refine ⟨fun r' hr a ha => ?_, fun a ha => hmono a (ht.removed a ha)⟩
    obtain rfl := Option.some.inj hr
    rcases ht.taken r hremoval a ha with hmem | hstopped
    · by_cases heq : a = id
      · exact Or.inr ((isStopped_strike s r id).mpr (Or.inr heq))
      · exact Or.inl (List.mem_filter.mpr ⟨hmem, by simpa using heq⟩)
    · exact Or.inr (hmono a hstopped)
  | @release r hremoval htold =>
    refine ⟨fun r' hr => absurd hr (Option.some_ne_none r').symm, fun a ha => ?_⟩
    rcases List.mem_append.mp ha with ha | ha
    · exact (ht.taken r hremoval a ha).resolve_left (htold ▸ List.not_mem_nil)
    · exact ht.removed a ha

/-- A run has the number of its call. -/
def Numbered (s : Compilations) : Prop :=
  ∀ id progress run, s.stage? id = some (.inside progress) → progress.run? = some run → run.id = id

lemma numbered_reach (hn : Numbered s) {stage : Stage}
    (hreach : ∀ x, t.stage? x = if x = id then some stage else s.stage? x)
    (hstage : ∀ progress run, stage = .inside progress → progress.run? = some run → run.id = id) :
    Numbered t := by
  intro x progress run hx hrun
  rw [hreach] at hx
  split at hx
  · next heq => exact heq ▸ hstage progress run (Option.some.inj hx) hrun
  · exact hn x progress run hx hrun

lemma numbered_step (hn : Numbered s) (hstep : Step s t) : Numbered t := by
  cases hstep with
  | draw i given =>
    exact numbered_reach hn (stage?_reach _ _ _ _) fun _ _ heq => Stage.noConfusion heq
  | place hcall hstage hlock =>
    exact numbered_reach hn (stage?_reach _ _ _ _) fun _ _ heq => Stage.noConfusion heq
  | tell hcall hstage =>
    refine numbered_reach hn (stage?_reach _ _ _ _) fun progress run heq hrun => ?_
    rw [← Stage.inside.inj heq] at hrun
    exact absurd hrun (Option.some_ne_none run).symm
  | @advance id call progress next p w hcall hstage hwork =>
    refine numbered_reach hn (stage?_reach _ _ _ _) fun progress' run heq hrun => ?_
    rw [← Stage.inside.inj heq] at hrun
    rcases (Progress.advance_spec hwork).2.2 run hrun with hrun | hid
    · exact hn id progress run ((stage?_of_call hcall).trans (congrArg some hstage)) hrun
    · exact hid
  | leave hcall hstage hlock =>
    exact numbered_reach hn (stage?_reach _ _ _ _) fun _ _ heq => Stage.noConfusion heq
  | vacate source hlock => exact hn
  | vacateAll hlock => exact hn
  | strike hremoval hid => exact hn
  | release hremoval htold => exact hn

end Compilations

section Reachable

variable {options : CompileOptions} {s : Compilations}

lemma sound_of_reachable (h : Reachable options s) : Sound s := by
  induction h with
  | start => exact sound_ofOptions options
  | step _ hstep ih => exact sound_step ih hstep

lemma told_of_reachable (h : Reachable options s) : Told s := by
  induction h with
  | start =>
    refine ⟨fun r hr => ?_, fun a ha => absurd ha List.not_mem_nil⟩
    exact absurd hr (Option.some_ne_none r).symm
  | step _ hstep ih => exact told_step ih hstep

lemma numbered_of_reachable (h : Reachable options s) : Numbered s := by
  induction h with
  | start => exact fun id progress run hid => absurd hid (Option.some_ne_none _).symm
  | step _ hstep ih => exact numbered_step ih hstep

end Reachable

end AsmExplorer.Proofs
