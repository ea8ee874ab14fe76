import AsmExplorer.Compile.Session
import Mathlib.Tactic.Lemma

/-!
# What a session knows of its compilations

A compilation that goes on has a ticket of its own, of which nothing is known. It comes to one
result, and whatever a session does later, that result stays.
-/

namespace AsmExplorer.Proofs

/-- Compilations that go on have tickets of their own that have been drawn and have no result. -/
structure Ticketed (s : Session) : Prop where
  nodup : (s.flights.map Flight.ticket).Nodup
  flight_lt : ∀ f ∈ s.flights, f.ticket < s.tickets
  flight_open : ∀ f ∈ s.flights, s.result? f.ticket = none
  result_lt : ∀ k r, s.result? k = some r → k < s.tickets

/-- A ticket that no compilation that goes on has, and that has no result. -/
def Unused (s : Session) (k : Nat) : Prop :=
  s.result? k = none ∧ ∀ f ∈ s.flights, f.ticket ≠ k

/-- A session later than another one. -/
structure Continues (s t : Session) : Prop where
  ticketed : Ticketed t
  tickets_le : s.tickets ≤ t.tickets
  kept : ∀ k r, s.result? k = some r → t.result? k = some r
  unused : ∀ k, k < s.tickets → Unused s k → Unused t k

variable {s t u : Session}

lemma ticketed_ofPipeline (host : Host) (p : Pipeline) : Ticketed (.ofPipeline host p) where
  nodup := List.nodup_nil
  flight_lt _ h := absurd h List.not_mem_nil
  flight_open _ h := absurd h List.not_mem_nil
  result_lt _ _ h := absurd h (Option.some_ne_none _).symm

lemma Continues.trans (hst : Continues s t) (htu : Continues t u) : Continues s u where
  ticketed := htu.ticketed
  tickets_le := Nat.le_trans hst.tickets_le htu.tickets_le
  kept k r h := htu.kept k r (hst.kept k r h)
  unused k hk h := htu.unused k (Nat.lt_of_lt_of_le hk hst.tickets_le) (hst.unused k hk h)

/-- Machine and pipeline do not matter. -/
lemma continues_of_same (h : Ticketed s) (hflights : t.flights = s.flights)
    (hresults : t.results = s.results) (htickets : s.tickets ≤ t.tickets) : Continues s t := by
  have hresult : ∀ k, t.result? k = s.result? k := by
    intro k
    rw [Session.result?, Session.result?, hresults]
  refine ⟨⟨?_, ?_, ?_, ?_⟩, htickets, ?_, ?_⟩
  · rw [hflights]
    exact h.nodup
  · intro f hf
    exact Nat.lt_of_lt_of_le (h.flight_lt f (hflights ▸ hf)) htickets
  · intro f hf
    rw [hresult]
    exact h.flight_open f (hflights ▸ hf)
  · intro k r hr
    rw [hresult] at hr
    exact Nat.lt_of_lt_of_le (h.result_lt k r hr) htickets
  · intro k r hr
    rwa [hresult]
  · intro k _ hk
    exact ⟨hresult k ▸ hk.1, fun f hf => hk.2 f (hflights ▸ hf)⟩

lemma Continues.refl (h : Ticketed s) : Continues s s :=
  continues_of_same h rfl rfl (Nat.le_refl _)

/-! ### Ends of compilations -/

lemma result?_settle (s : Session) (ticket : Nat) (run : Run) (r : Except Failure Text) (k : Nat) :
    (s.settle ticket run r).result? k = if k = ticket then some r else s.result? k := by
  rw [Session.result?, Session.settle, List.lookup_cons]
  by_cases hk : k = ticket
  · rw [if_pos hk, hk, beq_self_eq_true]
  · rw [if_neg hk, beq_eq_false_iff_ne.mpr hk]
    rfl

/-- A ticket of which nothing was known gets a result. -/
lemma continues_settle {ticket : Nat} (h : Ticketed s) (hunused : Unused s ticket)
    (hlt : ticket < s.tickets) (run : Run) (r : Except Failure Text) :
    Ticketed (s.settle ticket run r) ∧
      ∀ k r', s.result? k = some r' → (s.settle ticket run r).result? k = some r' := by
  refine ⟨⟨h.nodup, h.flight_lt, ?_, ?_⟩, ?_⟩
  · intro f hf
    rw [result?_settle, if_neg (hunused.2 f hf)]
    exact h.flight_open f hf
  · intro k r' hr
    rw [result?_settle] at hr
    split at hr
    · next hk => exact hk ▸ hlt
    · exact h.result_lt k r' hr
  · intro k r' hr
    have hne : k ≠ ticket := by
      rintro rfl
      rw [hunused.1] at hr
      exact absurd hr (Option.some_ne_none _).symm
    rw [result?_settle, if_neg hne]
    exact hr

/-- The session without a compilation. -/
def aloft (s : Session) (f : Flight) : Session :=
  { s with
    machine := f.crew.dismiss s.machine
    flights := s.flights.filter fun g => g.ticket ≠ f.ticket }

lemma land_eq (s : Session) (f : Flight) (r : Except Failure Text) :
    s.land f r = (aloft s f).settle f.ticket f.run r := rfl

lemma mem_flights_land {f g : Flight} {r : Except Failure Text} :
    g ∈ (s.land f r).flights ↔ g ∈ s.flights ∧ g.ticket ≠ f.ticket := by
  show g ∈ s.flights.filter _ ↔ _
  rw [List.mem_filter, decide_eq_true_iff]

lemma continues_land {f : Flight} (h : Ticketed s) (hf : f ∈ s.flights) (r : Except Failure Text) :
    Continues s (s.land f r) := by
  have hmem : ∀ g, g ∈ (aloft s f).flights → g ∈ s.flights := fun g hg => (List.mem_filter.mp hg).1
  have hrest : Ticketed (aloft s f) :=
    ⟨h.nodup.sublist (List.filter_sublist.map _), fun g hg => h.flight_lt g (hmem g hg),
      fun g hg => h.flight_open g (hmem g hg), h.result_lt⟩
  have hunused : Unused (aloft s f) f.ticket := by
    refine ⟨h.flight_open f hf, fun g hg => ?_⟩
    simpa using (List.mem_filter.mp hg).2
  obtain ⟨hticketed, hkept⟩ := continues_settle hrest hunused (h.flight_lt f hf) f.run r
  refine ⟨hticketed, Nat.le_refl _, hkept, fun k _ hk => ⟨?_, ?_⟩⟩
  · rw [land_eq, result?_settle, if_neg (hk.2 f hf).symm]
    exact hk.1
  · intro g hg
    exact hk.2 g (mem_flights_land.mp hg).1

/-- What programs and time lead to: the machine goes on, and compilations end. -/
inductive Later : Session → Session → Prop where
  | refl (s : Session) : Later s s
  | work {s t : Session} (h : Later s t) (machine : Machine) : Later s { t with machine := machine }
  | land {s t : Session} {f : Flight} (h : Later s t) (hf : f ∈ t.flights)
      (r : Except Failure Text) : Later s (t.land f r)

lemma Later.trans (hst : Later s t) (htu : Later t u) : Later s u := by
  induction htu with
  | refl => exact hst
  | work _ machine ih => exact ih.work machine
  | land _ hf r ih => exact ih.land hf r

lemma continues_of_later (h : Ticketed s) (hlater : Later s t) : Continues s t := by
  induction hlater with
  | refl => exact .refl h
  | work _ machine ih => exact ih.trans (continues_of_same ih.ticketed rfl rfl (Nat.le_refl _))
  | land _ hf r ih => exact ih.trans (continues_land ih.ticketed hf r)

/-- Some of the compilations are ended, one after the other. -/
lemma later_foldl {close : Session → Flight → Session}
    (hclose : ∀ s f, close s f = s ∨ ∃ r, close s f = s.land f r) (fs : List Flight)
    (hmem : ∀ f ∈ fs, f ∈ s.flights) (hnodup : (fs.map Flight.ticket).Nodup) :
    Later s (fs.foldl close s) := by
  induction fs generalizing s with
  | nil => exact .refl s
  | cons f rest ih =>
    obtain ⟨hfresh, hrest⟩ := List.nodup_cons.mp (List.map_cons ▸ hnodup)
    rw [List.foldl_cons]
    rcases hclose s f with hs | ⟨r, hs⟩
    · rw [hs]
      exact ih (fun g hg => hmem g (List.mem_cons_of_mem f hg)) hrest
    · rw [hs]
      have hland := (Later.refl s).land (hmem f List.mem_cons_self) r
      -- the others still go on: their tickets differ from the one that has landed
      refine hland.trans (ih (fun g hg => ?_) hrest)
      refine mem_flights_land.mpr ⟨hmem g (List.mem_cons_of_mem f hg), fun heq => hfresh ?_⟩
      exact heq ▸ List.mem_map_of_mem hg

lemma later_harvest (h : Ticketed s) : Later s s.harvest := by
  refine later_foldl (fun s f => ?_) s.flights (fun _ hf => hf) h.nodup
  split
  · exact Or.inr ⟨_, rfl⟩
  · exact Or.inl rfl

lemma later_reap (h : Ticketed s) : Later s s.reap :=
  later_foldl (fun _ _ => Or.inr ⟨_, rfl⟩) _ (fun _ hf => (List.mem_filter.mp hf).1)
    (h.nodup.sublist (List.filter_sublist.map _))

lemma later_expire (h : Ticketed s) : Later s s.expire :=
  later_foldl (fun _ _ => Or.inr ⟨_, rfl⟩) _ (fun _ hf => (List.mem_filter.mp hf).1)
    (h.nodup.sublist (List.filter_sublist.map _))

/-! ### What sessions do -/

lemma later_proceed (h : Ticketed s) : Later s s.proceed := by
  have hmachine : ∀ machine, Later s { s with machine := machine } := (Later.refl s).work
  exact (hmachine _).trans (later_harvest (continues_of_later h (hmachine _)).ticketed)

lemma later_moveTo (h : Ticketed s) (time : Nat) : Later s (s.moveTo time) := by
  have hmachine : Later s { s with machine := s.machine.moveTo time } := (Later.refl s).work _
  exact hmachine.trans (later_expire (continues_of_later h hmachine).ticketed)

lemma later_runUntil (isOver : Session → Bool) (limit : Option Nat) (n : Nat) (h : Ticketed s) :
    Later s (s.runUntil isOver limit n) := by
  induction n generalizing s with
  | zero => exact .refl s
  | succ n ih =>
    have hproceed := later_proceed h
    have hticketed := (continues_of_later h hproceed).ticketed
    have hmove := fun time => hproceed.trans (later_moveTo hticketed time)
    rw [Session.runUntil]
    dsimp only
    split
    · exact .refl s
    · split
      · exact hproceed
      · split
        · exact hproceed.trans (ih hticketed)
        · split
          · exact (hmove _).trans (ih (continues_of_later h (hmove _)).ticketed)
          · split
            · exact hmove _
            · exact hproceed

lemma continues_reap (h : Ticketed s) : Continues s s.reap :=
  continues_of_later h (later_reap h)

lemma continues_wait (h : Ticketed s) (ticket : Nat) : Continues s (s.wait ticket).1 :=
  continues_of_later h (later_runUntil _ _ _ h)

lemma continues_waitForFile (h : Ticketed s) (p : Path) (millis : Nat) :
    Continues s (s.waitForFile p millis).1 :=
  continues_of_later h (later_runUntil _ _ _ h)

lemma continues_withFiles (h : Ticketed s) (files : FileSystem) : Continues s (s.withFiles files) :=
  continues_of_same h rfl rfl (Nat.le_refl _)

lemma continues_cancel (h : Ticketed s) (source : Path) : Continues s (s.cancel source).1 := by
  have hpipeline : ∀ p, Continues s { s with pipeline := p } := fun _ =>
    continues_of_same h rfl rfl (Nat.le_refl _)
  exact (hpipeline _).trans (continues_reap (hpipeline _).ticketed)

lemma continues_cancelAll (h : Ticketed s) : Continues s s.cancelAll := by
  have hpipeline : ∀ p, Continues s { s with pipeline := p } := fun _ =>
    continues_of_same h rfl rfl (Nat.le_refl _)
  exact (hpipeline _).trans (continues_reap (hpipeline _).ticketed)

lemma ticketed_append {f : Flight} (h : Ticketed s) (hunused : Unused s f.ticket)
    (hlt : f.ticket < s.tickets) (machine : Machine) :
    Ticketed { s with machine := machine, flights := s.flights ++ [f] } where
  nodup := by
    rw [List.map_append, List.nodup_append]
    refine ⟨h.nodup, by simp, fun a ha b hb => ?_⟩
    obtain ⟨g, hg, rfl⟩ := List.mem_map.mp ha
    obtain rfl := List.mem_singleton.mp hb
    exact hunused.2 g hg
  flight_lt g hg := by
    rcases List.mem_append.mp hg with hg | hg
    · exact h.flight_lt g hg
    · exact List.mem_singleton.mp hg ▸ hlt
  flight_open g hg := by
    rcases List.mem_append.mp hg with hg | hg
    · exact h.flight_open g hg
    · exact List.mem_singleton.mp hg ▸ hunused.1
  result_lt := h.result_lt

lemma ticketed_launch {f : Flight} (h : Ticketed s) (hunused : Unused s f.ticket)
    (hlt : f.ticket < s.tickets) (machine : Machine) :
    let t : Session := { s with machine := machine, flights := s.flights ++ [f] }.expire.proceed
    Ticketed t ∧ s.tickets ≤ t.tickets ∧ ∀ k r, s.result? k = some r → t.result? k = some r := by
  have happend := ticketed_append h hunused hlt machine
  have hexpire := continues_of_later happend (later_expire happend)
  have hproceed := hexpire.trans (continues_of_later hexpire.ticketed (later_proceed hexpire.ticketed))
  exact ⟨hproceed.ticketed, hproceed.tickets_le, hproceed.kept⟩

lemma unused_tickets (h : Ticketed s) : Unused s s.tickets := by
  refine ⟨?_, fun f hf => Nat.ne_of_lt (h.flight_lt f hf)⟩
  cases hr : s.result? s.tickets with
  | none => rfl
  | some r => exact absurd (h.result_lt _ r hr) (Nat.lt_irrefl _)

/-- A compilation begins under the next ticket. -/
lemma continues_spawn (h : Ticketed s) (i : Invocation) (given : List Text) :
    (s.spawn i given).2 = s.tickets ∧ Ticketed (s.spawn i given).1 ∧
      s.tickets < (s.spawn i given).1.tickets ∧
      ∀ k r, s.result? k = some r → (s.spawn i given).1.result? k = some r := by
  rw [Session.spawn]
  dsimp only
  generalize s.pipeline.begin s.host i given = begun
  have hdrawn : Continues s { s with pipeline := begun.1, tickets := s.tickets + 1 } :=
    continues_of_same h rfl rfl (Nat.le_succ _)
  have hreap := continues_reap hdrawn.ticketed
  have hlt := Nat.lt_of_lt_of_le (Nat.lt_succ_self s.tickets) hreap.tickets_le
  have hkept := (hdrawn.trans hreap).kept
  -- the ticket is drawn before other compilations end, and none of them has it
  have hunused := hreap.unused s.tickets (Nat.lt_succ_self _) (unused_tickets h)
  split
  · obtain ⟨hsettled, hrest⟩ := continues_settle hreap.ticketed hunused hlt begun.2 (.error _)
    exact ⟨rfl, hsettled, hlt, fun k r hr => hrest k r (hkept k r hr)⟩
  · obtain ⟨hlaunched, hle, hrest⟩ :=
      ticketed_launch (f := ⟨s.tickets, begun.2, _, _⟩) hreap.ticketed hunused hlt _
    exact ⟨rfl, hlaunched, Nat.lt_of_lt_of_le hlt hle, fun k r hr => hrest k r (hkept k r hr)⟩

end AsmExplorer.Proofs
