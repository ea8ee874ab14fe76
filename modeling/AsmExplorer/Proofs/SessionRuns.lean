import AsmExplorer.Proofs.ConcurrentRuns
import AsmExplorer.Proofs.RunHistory
import AsmExplorer.Proofs.SessionResults

/-!
# The runs of a session

A session uses its registry of runs as one that is asked to begin, end and cancel runs: the runs that
are held are those of the compilations that go on. A run that is told to stop is gone before anything
else happens, so the current run of a source file is always that of a compilation that goes on.
-/

namespace AsmExplorer.Proofs

open HeldRuns

/-- The runs with numbers of their own that a registry is held by. -/
def HeldBy (registry : RunRegistry) (runs : List Run) : Prop :=
  ∃ d, Linked d ∧ d.registry = registry ∧ (runs.map Run.id).Nodup ∧
    ∀ id source, d.held.get? id = some source ↔ ∃ run ∈ runs, run.id = id ∧ run.source = source

section

variable {registry : RunRegistry} {runs : List Run} {run : Run}

lemma heldBy_empty : HeldBy .empty [] :=
  ⟨.empty, linked_empty, rfl, List.nodup_nil, fun id source => by simp [HeldRuns.empty]⟩

lemma current_of_heldBy (h : HeldBy registry runs) (key : List Component) (id : Nat) :
    registry.current.get? key = some id ↔
      ∃ run ∈ runs, run.id = id ∧ run.source.key = key ∧ registry.isStopped id = false := by
  obtain ⟨d, hlinked, rfl, -, hheld⟩ := h
  rw [hlinked.current_iff]
  constructor
  · rintro ⟨source, ⟨hsource, hlive⟩, hkey⟩
    obtain ⟨run, hrun, hid, rfl⟩ := (hheld id source).mp hsource
    exact ⟨run, hrun, hid, hkey, hlive⟩
  · rintro ⟨run, hrun, hid, hkey, hlive⟩
    exact ⟨run.source, ⟨(hheld id run.source).mpr ⟨run, hrun, hid, rfl⟩, hlive⟩, hkey⟩

lemma heldBy_begin (h : HeldBy registry runs) (hid : run.id = registry.next) :
    HeldBy (registry.begin run.source).1 (runs ++ [run]) := by
  obtain ⟨d, hlinked, rfl, hnodup, hheld⟩ := h
  have hnew : ∀ x ∈ runs, x.id ≠ run.id := by
    intro x hx heq
    have hlt := hlinked.held_lt x.id x.source ((hheld _ _).mpr ⟨x, hx, rfl, rfl⟩)
    omega
  refine ⟨d.serve (.begin run.source), linked_serve hlinked _, rfl, ?_, fun id source => ?_⟩
  · rw [List.map_append, List.nodup_append]
    refine ⟨hnodup, by simp, fun a ha b hb => ?_⟩
    obtain ⟨x, hx, rfl⟩ := List.mem_map.mp ha
    obtain rfl : b = run.id := by simpa using hb
    exact hnew x hx
  · rw [held_serve hlinked, hheld]
    constructor
    · rintro (⟨hbegin, hnext⟩ | ⟨⟨x, hx, hmatch⟩, -⟩)
      · exact ⟨run, by simp, hid.trans hnext.symm, RunRequest.begin.inj hbegin⟩
      · exact ⟨x, List.mem_append_left _ hx, hmatch⟩
    · rintro ⟨x, hx, rfl, rfl⟩
      rcases List.mem_append.mp hx with hx | hx
      · exact Or.inr ⟨⟨x, hx, rfl, rfl⟩, RunRequest.noConfusion⟩
      · obtain rfl := List.mem_singleton.mp hx
        exact Or.inl ⟨rfl, hid⟩

lemma heldBy_finish (h : HeldBy registry runs) (hrun : run ∈ runs) :
    HeldBy (registry.finish run.source run.id) (runs.filter fun x => x.id ≠ run.id) := by
  obtain ⟨d, hlinked, rfl, hnodup, hheld⟩ := h
  have hmem := (hheld run.id run.source).mpr ⟨run, hrun, rfl, rfl⟩
  refine ⟨d.serve (.drop run.id), linked_serve hlinked _, ?_, ?_, fun id source => ?_⟩
  · rw [serve_drop_of_held hmem]
  · exact hnodup.sublist (List.filter_sublist.map _)
  · rw [held_serve hlinked, hheld]
    constructor
    · rintro (⟨hdrop, -⟩ | ⟨⟨x, hx, rfl, hsource⟩, hne⟩)
      · exact absurd hdrop RunRequest.noConfusion
      · refine ⟨x, List.mem_filter.mpr ⟨hx, ?_⟩, rfl, hsource⟩
        exact decide_eq_true fun heq => hne (congrArg _ heq.symm)
    · rintro ⟨x, hx, rfl, hsource⟩
      obtain ⟨hx, hne⟩ := List.mem_filter.mp hx
      refine Or.inr ⟨⟨x, hx, rfl, hsource⟩, fun heq => ?_⟩
      exact of_decide_eq_true hne (RunRequest.drop.inj heq).symm

lemma heldBy_cancel (h : HeldBy registry runs) (source : Path) :
    HeldBy (registry.cancel source).1 runs := by
  obtain ⟨d, hlinked, rfl, hnodup, hheld⟩ := h
  refine ⟨d.serve (.cancel source), linked_serve hlinked _, rfl, hnodup, fun id other => ?_⟩
  rw [held_serve hlinked, hheld]
  simp

lemma heldBy_cancelAll (h : HeldBy registry runs) : HeldBy registry.cancelAll runs := by
  obtain ⟨d, hlinked, rfl, hnodup, hheld⟩ := h
  refine ⟨d.serve .cancelAll, linked_serve hlinked _, rfl, hnodup, fun id other => ?_⟩
  rw [held_serve hlinked, hheld]
  simp

lemma isStopped_finish (registry : RunRegistry) (source : Path) (id x : Nat) :
    (registry.finish source id).isStopped x = registry.isStopped x := by
  unfold RunRegistry.finish
  split <;> rfl

lemma isStopped_cancel (registry : RunRegistry) (source : Path) (x : Nat) :
    (registry.cancel source).1.isStopped x = true ↔
      registry.isStopped x = true ∨ registry.current.get? source.key = some x := by
  have hstop : (registry.cancel source).1.isStopped x = true ↔
      registry.isStopped x = true ∨ x ∈ (registry.current.get? source.key).toList :=
    RunRegistry.isStopped_stopAll
  rw [hstop, Option.mem_toList]

end

/-! ### Compilations and their runs -/

/-- The runs of a session are held by its compilations, and by begins without a compilation yet. -/
structure Manned (s : Session) (begun : List Run) : Prop where
  ticketed : Ticketed s
  held : HeldBy s.pipeline.runs (s.flights.map Flight.run ++ begun)

section

variable {s t : Session} {begun : List Run} {f g : Flight}

lemma Manned.ids (h : Manned s begun) : (s.flights.map fun f => f.run.id).Nodup := by
  obtain ⟨d, -, -, hnodup, -⟩ := h.held
  rw [List.map_append, List.map_map] at hnodup
  exact (List.nodup_append.mp hnodup).1

lemma Manned.eq_of_ticket (h : Manned s begun) (hf : f ∈ s.flights) (hg : g ∈ s.flights)
    (heq : g.ticket = f.ticket) : g = f :=
  List.inj_on_of_nodup_map h.ticketed.nodup hg hf heq

lemma Manned.eq_of_id (h : Manned s begun) (hf : f ∈ s.flights) (hg : g ∈ s.flights)
    (heq : g.run.id = f.run.id) : g = f :=
  List.inj_on_of_nodup_map h.ids hg hf heq

/-- The runs that are left when a compilation has ended. -/
lemma runs_without (h : Manned s begun) (hf : f ∈ s.flights) :
    (s.flights.map Flight.run ++ begun).filter (fun run => run.id ≠ f.run.id) =
      (s.flights.filter fun g => g.ticket ≠ f.ticket).map Flight.run ++ begun := by
  have hbegun : begun.filter (fun run => run.id ≠ f.run.id) = begun := by
    obtain ⟨d, -, -, hnodup, -⟩ := h.held
    rw [List.map_append, List.nodup_append] at hnodup
    refine List.filter_eq_self.mpr fun run hrun => decide_eq_true fun heq => ?_
    have hid := List.mem_map_of_mem (f := Run.id) (List.mem_map_of_mem (f := Flight.run) hf)
    exact hnodup.2.2 _ hid _ (List.mem_map_of_mem hrun) heq.symm
  have hsame : ∀ g ∈ s.flights, decide (g.run.id ≠ f.run.id) = decide (g.ticket ≠ f.ticket) := by
    intro g hg
    refine decide_eq_decide.mpr (not_congr ⟨fun heq => ?_, fun heq => ?_⟩)
    · rw [h.eq_of_id hf hg heq]
    · rw [h.eq_of_ticket hf hg heq]
  rw [List.filter_append, hbegun, List.filter_map]
  exact congrArg (fun flights => flights.map Flight.run ++ begun) (List.filter_congr hsame)

lemma manned_land (h : Manned s begun) (hf : f ∈ s.flights) (r : Except Failure Text) :
    Manned (s.land f r) begun := by
  have hrun : f.run ∈ s.flights.map Flight.run ++ begun :=
    List.mem_append_left _ (List.mem_map_of_mem hf)
  refine ⟨(continues_land h.ticketed hf r).ticketed, ?_⟩
  have hheld := heldBy_finish h.held hrun
  rwa [runs_without h hf] at hheld

/-- Compilations that end leave the others as they are, and tell nobody to stop. -/
structure Leaves (begun : List Run) (s t : Session) : Prop where
  manned : Manned t begun
  flights_subset : t.flights ⊆ s.flights
  isStopped_eq : ∀ id, t.pipeline.runs.isStopped id = s.pipeline.runs.isStopped id
  options_eq : t.pipeline.options = s.pipeline.options

lemma leaves_of_later (h : Manned s begun) (hlater : Later s t) : Leaves begun s t := by
  induction hlater with
  | refl => exact ⟨h, List.Subset.refl _, fun _ => rfl, rfl⟩
  | work hst machine ih =>
    have hcontinues := continues_of_later h.ticketed (hst.work machine)
    exact ⟨⟨hcontinues.ticketed, ih.manned.held⟩, ih.flights_subset, ih.isStopped_eq, ih.options_eq⟩
  | land _ hf r ih =>
    refine ⟨manned_land ih.manned hf r, fun g hg => ?_, fun id => ?_, ih.options_eq⟩
    · exact ih.flights_subset (mem_flights_land.mp hg).1
    · exact (isStopped_finish ..).trans (ih.isStopped_eq id)

lemma mem_flights_foldl_land (r : Except Failure Text) (fs : List Flight) :
    g ∈ (fs.foldl (fun s f => s.land f r) s).flights ↔
      g ∈ s.flights ∧ ∀ f ∈ fs, g.ticket ≠ f.ticket := by
  induction fs generalizing s with
  | nil => simp
  | cons f rest ih => rw [List.foldl_cons, ih, mem_flights_land, List.forall_mem_cons, and_assoc]

lemma result?_foldl_land (r : Except Failure Text) (fs : List Flight) (k : Nat) :
    (fs.foldl (fun s f => s.land f r) s).result? k =
      if ∃ f ∈ fs, f.ticket = k then some r else s.result? k := by
  induction fs generalizing s with
  | nil => simp
  | cons f rest ih =>
    have hland : (s.land f r).result? k = if k = f.ticket then some r else s.result? k :=
      result?_settle ..
    rw [List.foldl_cons, ih, hland]
    by_cases hrest : ∃ g ∈ rest, g.ticket = k
    · simp [hrest]
    · by_cases hk : f.ticket = k
      · simp [hk]
      · simp [hrest, hk, Ne.symm hk]

lemma mem_flights_reap (h : Manned s begun) :
    g ∈ s.reap.flights ↔ g ∈ s.flights ∧ s.pipeline.runs.isStopped g.run.id = false := by
  have hreap : g ∈ s.reap.flights ↔ g ∈ s.flights ∧
      ∀ f ∈ s.flights.filter (fun f => s.pipeline.isStopped f.run), g.ticket ≠ f.ticket :=
    mem_flights_foldl_land _ _
  rw [hreap]
  refine and_congr_right fun hg => ⟨fun hne => ?_, fun hgoing f hf heq => ?_⟩
  · refine Bool.eq_false_iff.mpr fun hstopped => ?_
    exact hne g (List.mem_filter.mpr ⟨hg, hstopped⟩) rfl
  · obtain ⟨hf, hstopped⟩ := List.mem_filter.mp hf
    rw [← h.eq_of_ticket hf hg heq] at hstopped
    exact Bool.false_ne_true (hgoing.symm.trans hstopped)

lemma result?_reap (hf : f ∈ s.flights) (hstopped : s.pipeline.runs.isStopped f.run.id = true) :
    s.reap.result? f.ticket = some (.error .cancelled) := by
  refine (result?_foldl_land _ _ _).trans (if_pos ?_)
  exact ⟨f, List.mem_filter.mpr ⟨hf, hstopped⟩, rfl⟩

/-! ### Between two requests -/

/-- No compilation goes on that was told to stop. -/
structure Quiet (s : Session) : Prop where
  manned : Manned s []
  unstopped : ∀ f ∈ s.flights, s.pipeline.runs.isStopped f.run.id = false

lemma quiet_ofPipeline (host : Host) (options : CompileOptions) :
    Quiet (.ofPipeline host (.ofOptions options)) :=
  ⟨⟨ticketed_ofPipeline host _, heldBy_empty⟩, fun _ hf => absurd hf List.not_mem_nil⟩

lemma quiet_of_later (h : Quiet s) (hlater : Later s t) : Quiet t := by
  have hleaves := leaves_of_later h.manned hlater
  refine ⟨hleaves.manned, fun f hf => ?_⟩
  rw [hleaves.isStopped_eq]
  exact h.unstopped f (hleaves.flights_subset hf)

lemma unstopped_reap (h : Manned s begun) :
    ∀ f ∈ s.reap.flights, s.reap.pipeline.runs.isStopped f.run.id = false := by
  intro f hf
  rw [(leaves_of_later h (later_reap h.ticketed)).isStopped_eq]
  exact ((mem_flights_reap h).mp hf).2

lemma quiet_reap (h : Manned s []) : Quiet s.reap :=
  ⟨(leaves_of_later h (later_reap h.ticketed)).manned, unstopped_reap h⟩

/-- The current run of a source file is that of the compilation that goes on for it. -/
lemma Quiet.current_iff (h : Quiet s) (key : List Component) (id : Nat) :
    s.pipeline.runs.current.get? key = some id ↔
      ∃ f ∈ s.flights, f.run.id = id ∧ f.run.source.key = key := by
  rw [current_of_heldBy h.manned.held, List.append_nil]
  constructor
  · rintro ⟨run, hrun, hid, hkey, -⟩
    obtain ⟨f, hf, rfl⟩ := List.mem_map.mp hrun
    exact ⟨f, hf, hid, hkey⟩
  · rintro ⟨f, hf, rfl, hkey⟩
    exact ⟨f.run, List.mem_map_of_mem hf, rfl, hkey, h.unstopped f hf⟩

lemma Manned.withPipeline (h : Manned s []) (p : Pipeline)
    (hheld : HeldBy p.runs (s.flights.map Flight.run ++ begun)) :
    Manned { s with pipeline := p } begun :=
  have hcontinues : Continues s { s with pipeline := p } :=
    continues_of_same h.ticketed rfl rfl (Nat.le_refl _)
  ⟨hcontinues.ticketed, hheld⟩

lemma manned_cancel (h : Quiet s) (source : Path) :
    Manned { s with pipeline := (s.pipeline.cancel source).1 } [] :=
  h.manned.withPipeline _ (heldBy_cancel h.manned.held source)

lemma quiet_cancel (h : Quiet s) (source : Path) : Quiet (s.cancel source).1 :=
  quiet_reap (manned_cancel h source)

lemma quiet_cancelAll (h : Quiet s) : Quiet s.cancelAll :=
  quiet_reap (h.manned.withPipeline s.pipeline.cancelAll (heldBy_cancelAll h.manned.held))

lemma quiet_withFiles (h : Quiet s) (files : FileSystem) : Quiet (s.withFiles files) :=
  quiet_of_later h ((Later.refl s).work _)

/-- A compilation of the source file is there exactly if there is one to cancel. -/
lemma cancel_found_iff (h : Quiet s) (source : Path) :
    (s.cancel source).2 = true ↔ ∃ f ∈ s.flights, f.run.source.key = source.key := by
  show (s.pipeline.runs.current.get? source.key).isSome = true ↔ _
  rw [Option.isSome_iff_exists]
  simp only [h.current_iff]
  constructor
  · rintro ⟨id, f, hf, -, hkey⟩
    exact ⟨f, hf, hkey⟩
  · rintro ⟨f, hf, hkey⟩
    exact ⟨f.run.id, f, hf, rfl, hkey⟩

/-- Whether a compilation that goes on is told to stop by a cancellation. -/
lemma isStopped_cancel_flight (h : Quiet s) (source : Path) (hf : f ∈ s.flights) :
    (s.pipeline.cancel source).1.runs.isStopped f.run.id = true ↔
      f.run.source.key = source.key := by
  have hcancel := isStopped_cancel s.pipeline.runs source f.run.id
  rw [h.unstopped f hf, h.current_iff] at hcancel
  rw [show (s.pipeline.cancel source).1.runs = (s.pipeline.runs.cancel source).1 from rfl, hcancel]
  constructor
  · rintro (hstopped | ⟨g, hg, hid, hkey⟩)
    · exact absurd hstopped Bool.false_ne_true
    · exact h.manned.eq_of_id hf hg hid ▸ hkey
  · intro hkey
    exact Or.inr ⟨f, hf, rfl, hkey⟩

lemma mem_flights_cancel (h : Quiet s) (source : Path) :
    f ∈ (s.cancel source).1.flights ↔ f ∈ s.flights ∧ f.run.source.key ≠ source.key := by
  refine (mem_flights_reap (manned_cancel h source)).trans (and_congr_right fun hf => ?_)
  rw [Bool.eq_false_iff, Ne, Ne, not_iff_not]
  exact isStopped_cancel_flight h source hf

lemma result?_cancel (h : Quiet s) (source : Path) (hf : f ∈ s.flights)
    (hkey : f.run.source.key = source.key) :
    (s.cancel source).1.result? f.ticket = some (.error .cancelled) :=
  result?_reap (s := { s with pipeline := (s.pipeline.cancel source).1 }) hf
    ((isStopped_cancel_flight h source hf).mpr hkey)

/-! ### A compilation that begins -/

lemma begin_spec (p : Pipeline) (host : Host) (i : Invocation) (given : List Text) :
    (p.begin host i given).1.runs = (p.runs.begin i.source).1 ∧
      (p.begin host i given).2.id = p.runs.next ∧ (p.begin host i given).2.source = i.source :=
  ⟨Progress.runs_demanglerFor _ host _, rfl, rfl⟩

lemma unstopped_of_start {p : Pipeline} {host : Host} {run : Run} {directory : Path}
    {programs : Process × Process} (h : p.start host run directory = .ok programs) :
    p.runs.isStopped run.id = false := by
  rw [Pipeline.start] at h
  split at h
  · cases h
  · next hgoing => exact Bool.eq_false_iff.mpr hgoing

/-- A run that does not come to a compilation gives its place back. -/
lemma quiet_settle {run : Run} {ticket : Nat} (h : Manned s [run])
    (hgoing : ∀ f ∈ s.flights, s.pipeline.runs.isStopped f.run.id = false)
    (hunused : Unused s ticket) (hlt : ticket < s.tickets) (r : Except Failure Text) :
    Quiet (s.settle ticket run r) := by
  have hothers : ∀ x ∈ s.flights.map Flight.run, x.id ≠ run.id := by
    intro x hx
    obtain ⟨d, -, -, hnodup, -⟩ := h.held
    rw [List.map_append, List.nodup_append] at hnodup
    exact hnodup.2.2 _ (List.mem_map_of_mem hx) _ (by simp)
  have hrest : (s.flights.map Flight.run ++ [run]).filter (fun x => x.id ≠ run.id) =
      s.flights.map Flight.run ++ [] := by
    rw [List.filter_append, List.filter_eq_self.mpr fun x hx => decide_eq_true (hothers x hx)]
    simp
  have hbegun : run ∈ s.flights.map Flight.run ++ [run] := by simp
  have hheld := heldBy_finish h.held hbegun
  rw [hrest] at hheld
  have hsettled := (continues_settle h.ticketed hunused hlt run r).1
  exact ⟨⟨hsettled, hheld⟩, fun f hf => (isStopped_finish ..).trans (hgoing f hf)⟩

lemma quiet_append (h : Manned s [f.run])
    (hgoing : ∀ g ∈ s.flights, s.pipeline.runs.isStopped g.run.id = false)
    (hnew : s.pipeline.runs.isStopped f.run.id = false) (hunused : Unused s f.ticket)
    (hlt : f.ticket < s.tickets) (machine : Machine) :
    Quiet { s with machine := machine, flights := s.flights ++ [f] } := by
  refine ⟨⟨ticketed_append h.ticketed hunused hlt machine, ?_⟩, fun g hg => ?_⟩
  · have hheld := h.held
    simpa using hheld
  · rcases List.mem_append.mp hg with hg | hg
    · exact hgoing g hg
    · rw [List.mem_singleton.mp hg]
      exact hnew

lemma quiet_launch (h : Manned s [f.run])
    (hgoing : ∀ g ∈ s.flights, s.pipeline.runs.isStopped g.run.id = false)
    (hnew : s.pipeline.runs.isStopped f.run.id = false) (hunused : Unused s f.ticket)
    (hlt : f.ticket < s.tickets) (machine : Machine) :
    let t : Session := { s with machine := machine, flights := s.flights ++ [f] }.expire.proceed
    Quiet t ∧ ∀ g ∈ t.flights, g ∈ s.flights ∨ g = f := by
  have hquiet := quiet_append h hgoing hnew hunused hlt machine
  have hexpire := later_expire hquiet.manned.ticketed
  have hlater := hexpire.trans
    (later_proceed (continues_of_later hquiet.manned.ticketed hexpire).ticketed)
  refine ⟨quiet_of_later hquiet hlater, fun g hg => ?_⟩
  have hsubset := (leaves_of_later hquiet.manned hlater).flights_subset
  exact (List.mem_append.mp (hsubset hg)).imp_right List.mem_singleton.mp

/-- A compilation that begins takes at most the place of the one for the same source file, and is
known by its ticket. -/
lemma quiet_spawn (h : Quiet s) (i : Invocation) (given : List Text) :
    Quiet (s.spawn i given).1 ∧ ∀ f ∈ (s.spawn i given).1.flights,
      f ∈ s.flights ∨ f.ticket = s.tickets ∧ f.run.source = i.source := by
  obtain ⟨hruns, hid, hsource⟩ := begin_spec s.pipeline s.host i given
  rw [Session.spawn]
  dsimp only
  generalize s.pipeline.begin s.host i given = begun at hruns hid hsource
  obtain ⟨p, run⟩ := begun
  dsimp only at hruns hid hsource ⊢
  have hbegun : HeldBy p.runs (s.flights.map Flight.run ++ [run]) := by
    have hheld := heldBy_begin h.manned.held hid
    rwa [hsource, ← hruns, List.append_nil] at hheld
  have hcontinues : Continues s { s with pipeline := p, tickets := s.tickets + 1 } :=
    continues_of_same h.manned.ticketed rfl rfl (Nat.le_succ _)
  have hdrawn : Manned { s with pipeline := p, tickets := s.tickets + 1 } [run] :=
    ⟨hcontinues.ticketed, hbegun⟩
  have hlater := later_reap hdrawn.ticketed
  have hleaves := leaves_of_later hdrawn hlater
  have hends := continues_of_later hdrawn.ticketed hlater
  have hgoing := unstopped_reap hdrawn
  have hunused := hends.unused s.tickets (Nat.lt_succ_self _) (unused_tickets h.manned.ticketed)
  have hlt := Nat.lt_of_lt_of_le (Nat.lt_succ_self s.tickets) hends.tickets_le
  -- the compilation whose place was taken has ended by now, and the new run is the only one without
  generalize Session.reap { s with pipeline := p, tickets := s.tickets + 1 } = u
    at hleaves hgoing hunused hlt
  cases hstart : p.start u.host run i.directory with
  | error e =>
    exact ⟨quiet_settle hleaves.manned hgoing hunused hlt _, fun f hf =>
      Or.inl (hleaves.flights_subset hf)⟩
  | ok programs =>
    have hnew := (hleaves.isStopped_eq run.id).trans (unstopped_of_start hstart)
    refine (quiet_launch (f := ⟨s.tickets, run, _, _⟩) hleaves.manned hgoing hnew hunused hlt
      _).imp_right fun hflights f hf => ?_
    rcases hflights f hf with hf | rfl
    · exact Or.inl (hleaves.flights_subset hf)
    · exact Or.inr ⟨rfl, hsource⟩

end

end AsmExplorer.Proofs
