import AsmExplorer.Proofs.DatabaseHistory
import AsmExplorer.Proofs.DatabaseLookup
import AsmExplorer.Proofs.KeptOutputs
import AsmExplorer.Proofs.SessionRuns

/-!
# The path of a request

What a request compiles and keeps stands under the source of its invocation; a cancellation and an
invalidation go by the canonical path of what they name. The two are the same path unless the lookup
took a detour: the database has nothing for the canonical path, and something for the canonical path
of that. Only a path that leads nowhere and is not in normal form can have two canonical paths.
-/

namespace AsmExplorer.Proofs

/-! ### Databases in a registry -/

/-- Whether the invocations of a database stand under the keys of their sources. -/
def KeyedBySource (db : CompileDatabase) : Prop :=
  ∀ k i, db.commands.get? k = some i → i.source.key = k

def AllKeyed (r : Registry) : Prop :=
  ∀ id db, r.database? id = some db → KeyedBySource db

/-- A registry that requests lead to, where everything in it was built somewhere. -/
structure Sourced (r : Registry) : Prop where
  valid : Valid r
  keyed : AllKeyed r

/-- Whether a database that a request brings along was built somewhere. -/
def DatabaseRequest.IsBuilt : DatabaseRequest → Prop
  | .build db => ∃ host, Built host db
  | _ => True

section

variable {r t : Registry} {q : DatabaseRequest} {a : DatabaseAnswer} {db : CompileDatabase}

lemma keyedBySource_of_built {host : Host} (h : Built host db) : KeyedBySource db :=
  (keyed_of_built h).source

lemma keyedBySource_replace (host : Host) (entries : List CompileEntry) (db : CompileDatabase) :
    KeyedBySource (db.replace host entries) :=
  (keyed_ofEntries host db.origin entries).source

lemma keyedBySource_clear (db : CompileDatabase) : KeyedBySource db.clear :=
  fun _ i h => absurd h (Option.some_ne_none i).symm

lemma allKeyed_add (hr : AllKeyed r) (hdb : KeyedBySource db) : AllKeyed (r.add db).1 := by
  intro id x hx
  rw [database?_add] at hx
  split at hx
  · exact Option.some.inj hx ▸ hdb
  · exact hr id x hx

lemma allKeyed_modify (hr : AllKeyed r) (id : Nat) {f : CompileDatabase → CompileDatabase}
    (hf : ∀ db, KeyedBySource (f db)) : AllKeyed (r.modify id f) := by
  intro id' x hx
  rw [database?_modify] at hx
  split at hx
  · obtain ⟨db, -, rfl⟩ := Option.map_eq_some_iff.mp hx
    exact hf db
  · exact hr id' x hx

lemma allKeyed_clear (hr : AllKeyed r) : AllKeyed r.clear := by
  intro id x hx
  have hclear := database?_clearAll r r.table.values id
  rw [show r.clear.database? id = _ from hclear] at hx
  split at hx
  · obtain ⟨db, -, rfl⟩ := Option.map_eq_some_iff.mp hx
    exact keyedBySource_clear db
  · exact hr id x hx

lemma sourced_of_served (hr : Sourced r) (h : Served r q t a) (hbuilt : q.IsBuilt) : Sourced t := by
  refine ⟨valid_of_served hr.valid h, ?_⟩
  cases h with
  | nothing | insert => exact hr.keyed
  | load unused loaded => exact allKeyed_add hr.keyed (keyedBySource_of_built (.load loaded))
  | reload used there read => exact allKeyed_modify hr.keyed _ (keyedBySource_replace _ _)
  | remove used => exact allKeyed_modify (r := { r with table := _ }) hr.keyed _ keyedBySource_clear
  | clear => exact allKeyed_clear hr.keyed
  | build db =>
    obtain ⟨host, hdb⟩ := hbuilt
    exact allKeyed_add hr.keyed (keyedBySource_of_built hdb)
  | replace host id entries => exact allKeyed_modify hr.keyed _ (keyedBySource_replace _ _)

lemma sourced_serve (hr : Sourced r) (hbuilt : q.IsBuilt) : Sourced (serve r q).1 :=
  sourced_of_served hr (served_serve hr.valid q) hbuilt

lemma sourced_empty : Sourced .empty :=
  ⟨valid_registryAfter [], fun _ _ h => absurd h (Option.some_ne_none _).symm⟩

/-- Every history of requests keeps the invocations under the keys of their sources. -/
lemma sourced_registryAfter (history : List DatabaseRequest) (hbuilt : ∀ q ∈ history, q.IsBuilt) :
    Sourced (registryAfter history) := by
  induction history using List.reverseRecOn with
  | nil => exact sourced_empty
  | append_singleton history q ih =>
    rw [registryAfter_append_singleton]
    exact sourced_serve (ih fun x hx => hbuilt x (List.mem_append_left _ hx)) (hbuilt q (by simp))

lemma serve_getOrLoad (r : Registry) (host : Host) (file : Path) :
    (serve r (.getOrLoad host file)).1 = (r.getOrLoad host file).1 := by
  rw [serve]
  split <;> simp_all

end

/-! ### The source of an invocation -/

/-- The lookup misses the canonical path of a request and hits the canonical path of that. -/
def Detour (e : Explorer) (s : Path) : Prop :=
  ∃ id db, (e.databaseFor s).2 = .ok id ∧
    (e.databaseFor s).1.registry.database? id = some db ∧
    db.commands.get? (e.host.canonicalPath s).key = none ∧
    ∃ i, db.commands.get? (e.host.canonicalPath (e.host.canonicalPath s)).key = some i

section

variable {e : Explorer} {s : Path} {given : List Text} {i : Invocation}

lemma source_of_orOwn {source : Path} {r : Except Failure Invocation}
    (h : Explorer.orOwn source given r = .ok i) : i.source = source ∨ r = .ok i := by
  unfold Explorer.orOwn at h
  split at h
  · split at h
    · exact Or.inl (congrArg Invocation.source (Except.ok.inj h)).symm
    · cases h
  · split at h
    · exact Or.inl (congrArg Invocation.source (Except.ok.inj h)).symm
    · cases h
  · exact Or.inr h

lemma sourced_databaseFor (he : Sourced e.registry) (s : Path) :
    Sourced (e.databaseFor s).1.registry := by
  have hserve := sourced_serve he (q := .getOrLoad e.host (e.databasePath s)) trivial
  rwa [serve_getOrLoad] at hserve

lemma invocationFor_eq (e : Explorer) (s : Path) (given : List Text) :
    (e.invocationFor s given).2 = Explorer.orOwn (e.host.canonicalPath s) given
      ((e.databaseFor s).2.bind fun id =>
        (e.databaseFor s).1.invocationIn id (e.host.canonicalPath s)) := rfl

lemma invocationIn_eq_ok {id : Nat} {p : Path} :
    e.invocationIn id p = .ok i ↔
      ∃ db, e.registry.database? id = some db ∧ db.get? e.host p = some i := by
  rw [Explorer.invocationIn, ← Option.bind_eq_some_iff]
  cases (e.registry.database? id).bind fun db => db.get? e.host p with
  | none => simp
  | some j => simp

lemma source_of_detour (he : Sourced e.registry) (hdetour : Detour e s)
    (hi : (e.invocationFor s given).2 = .ok i) :
    i.source.key = (e.host.canonicalPath (e.host.canonicalPath s)).key := by
  obtain ⟨id, db, hid, hdb, hmiss, j, hj⟩ := hdetour
  have hget : db.get? e.host (e.host.canonicalPath s) = some j := by
    rw [CompileDatabase.get?, hmiss, hj]
    rfl
  have hfound : (e.databaseFor s).1.invocationIn id (e.host.canonicalPath s) = .ok j :=
    invocationIn_eq_ok.mpr ⟨db, hdb, hget⟩
  rw [invocationFor_eq, hid, Except.bind, hfound] at hi
  obtain rfl := Except.ok.inj hi
  exact (sourced_databaseFor he s).keyed id db hdb _ _ hj

lemma source_of_direct (he : Sourced e.registry) (hdirect : ¬Detour e s)
    (hi : (e.invocationFor s given).2 = .ok i) :
    i.source.key = (e.host.canonicalPath s).key := by
  rcases source_of_orOwn ((invocationFor_eq e s given).symm.trans hi) with hown | hfound
  · exact congrArg Path.key hown
  · cases hid : (e.databaseFor s).2 with
    | error failure =>
      rw [hid] at hfound
      cases hfound
    | ok id =>
      rw [hid] at hfound
      obtain ⟨db, hdb, hget⟩ := invocationIn_eq_ok.mp hfound
      rw [CompileDatabase.get?] at hget
      rcases Option.or_eq_some_iff.mp hget with hhit | ⟨hmiss, hhit⟩
      · exact (sourced_databaseFor he s).keyed id db hdb _ _ hhit
      · exact absurd ⟨id, db, hid, hdb, hmiss, i, hhit⟩ hdirect

/-- A lookup that takes a detour has two canonical paths before it. -/
lemma ne_of_detour (h : Detour e s) :
    (e.host.canonicalPath (e.host.canonicalPath s)).key ≠ (e.host.canonicalPath s).key := by
  obtain ⟨id, db, -, -, hmiss, j, hj⟩ := h
  intro heq
  rw [heq, hmiss] at hj
  exact absurd hj.symm (Option.some_ne_none j)

lemma source_key_iff (he : Sourced e.registry) (hi : (e.invocationFor s given).2 = .ok i) :
    i.source.key = (e.host.canonicalPath s).key ↔ ¬Detour e s := by
  constructor
  · intro hkey hdetour
    exact ne_of_detour hdetour ((source_of_detour he hdetour hi).symm.trans hkey)
  · intro hdirect
    exact source_of_direct he hdirect hi

/-- There is no detour for a path that leads to a file, or that is in normal form. -/
lemma nowhere_of_detour (hdirectory : LinkFree e.host.files e.host.directory) (h : Detour e s) :
    (∀ l, e.host.files.resolve e.host.directory s ≠ .ok l) ∧ s.normalize ≠ s :=
  ⟨fun _ hfound => ne_of_detour h (congrArg Path.key (canonicalPath_of_found hdirectory hfound)),
    fun hnormal => ne_of_detour h (congrArg Path.key (canonicalPath_of_normal hdirectory hnormal))⟩

end

/-! ### What is recorded of compilations -/

/-- Compilations that go on and texts that are to be kept belong to requests in the record. -/
structure Filed (r : Recorded) : Prop where
  quiet : Quiet r.explorer.session
  ticket_lt : ∀ a, .begun a ∈ r.log → a.ticket < r.explorer.session.tickets
  unique : ∀ a b, .begun a ∈ r.log → .begun b ∈ r.log → a.ticket = b.ticket → a = b
  flight : ∀ f ∈ r.explorer.session.flights,
    ∃ a, .begun a ∈ r.log ∧ a.ticket = f.ticket ∧ a.source = f.run.source
  pending : ∀ p ∈ r.explorer.pending,
    ∃ a, .begun a ∈ r.log ∧ a.ticket = p.ticket ∧ a.source = p.source

section

variable {r u : Recorded} {a : Attempt}

lemma begun_perform (r : Recorded) (action : Action) :
    .begun a ∈ (r.perform action).log ↔
      .begun a ∈ action.opening r.explorer ∨ .begun a ∈ r.log := by
  have hclosing : .begun a ∉ action.closing r.explorer := by
    cases action <;> simp [Action.closing]
  simp [Recorded.perform, hclosing, endings]

/-- Nothing begins: compilations end, and texts are no longer waited for. -/
lemma filed_of_subset (h : Filed r) (hquiet : Quiet u.explorer.session)
    (hlog : ∀ a, .begun a ∈ u.log ↔ .begun a ∈ r.log)
    (htickets : r.explorer.session.tickets ≤ u.explorer.session.tickets)
    (hflights : u.explorer.session.flights ⊆ r.explorer.session.flights)
    (hpending : u.explorer.pending ⊆ r.explorer.pending) : Filed u where
  quiet := hquiet
  ticket_lt a ha := Nat.lt_of_lt_of_le (h.ticket_lt a ((hlog a).mp ha)) htickets
  unique a b ha hb heq := h.unique a b ((hlog a).mp ha) ((hlog b).mp hb) heq
  flight f hf := by
    obtain ⟨a, ha, hmatch⟩ := h.flight f (hflights hf)
    exact ⟨a, (hlog a).mpr ha, hmatch⟩
  pending p hp := by
    obtain ⟨a, ha, hmatch⟩ := h.pending p (hpending hp)
    exact ⟨a, (hlog a).mpr ha, hmatch⟩

lemma begun_quiet (r : Recorded) {action : Action} (h : action.opening r.explorer = []) (a : Attempt) :
    .begun a ∈ (r.perform action).log ↔ .begun a ∈ r.log := by
  rw [begun_perform, h]
  simp

lemma pending_collect_subset (e : Explorer) : e.collect.pending ⊆ e.pending :=
  fun _ hp => (of_mem_pending_collect hp).1

lemma flights_cancel_subset {s : Session} (h : Quiet s) (source : Path) :
    (s.cancel source).1.flights ⊆ s.flights :=
  fun _ hf => ((mem_flights_cancel h source).mp hf).1

lemma filed_of_later (h : Filed r) {e : Explorer} {log : List Event}
    (hlater : Later r.explorer.session e.session) (hpending : e.pending = r.explorer.pending)
    (hlog : ∀ a, .begun a ∈ log ↔ .begun a ∈ r.log) : Filed ⟨e.collect, log⟩ := by
  have hticketed := h.quiet.manned.ticketed
  refine filed_of_subset h (quiet_of_later h.quiet hlater) hlog
    (continues_of_later hticketed hlater).tickets_le
    (leaves_of_later h.quiet.manned hlater).flights_subset ?_
  exact hpending ▸ pending_collect_subset e

lemma filed_request (h : Filed r) (source : Path) (given : List Text) :
    Filed (r.perform (.request source given)) := by
  have hticketed := h.quiet.manned.ticketed
  have happly : (r.perform (.request source given)).explorer =
      (r.explorer.request source given).1 := rfl
  cases handled_request r.explorer source given with
  | refused registry failure hasked hrequest =>
    have hopening : (Action.request source given).opening r.explorer = [] := by
      rw [Action.opening, hrequest]
    rw [hrequest] at happly
    refine filed_of_subset h ?_ (begun_quiet r hopening) ?_ ?_ ?_ <;> rw [happly]
    · exact h.quiet
    · exact List.Subset.refl _
    · exact List.Subset.refl _
  | reused registry b o hasked hfound hstamp hcommand hrequest =>
    have hopening : (Action.request source given).opening r.explorer = [] := by
      rw [Action.opening, hrequest]
    rw [hrequest] at happly
    refine filed_of_subset h ?_ (begun_quiet r hopening) ?_ ?_ ?_ <;> rw [happly]
    · exact quiet_cancel h.quiet b.source
    · exact (continues_cancel hticketed b.source).tickets_le
    · exact flights_cancel_subset h.quiet b.source
    · exact pending_collect_subset _
  | compiled registry b i hasked hticket hsource hcommand hrequest =>
    have hlog : ∀ a, .begun a ∈ (r.perform (.request source given)).log ↔
        a = b ∨ .begun a ∈ r.log := by
      intro a
      rw [begun_perform, Action.opening, hrequest, hasked]
      simp
    obtain ⟨hspawned, -, hlt, -⟩ := continues_spawn hticketed i (r.explorer.givenOr given)
    obtain ⟨hquiet, hflights⟩ := quiet_spawn h.quiet i (r.explorer.givenOr given)
    rw [hrequest] at happly
    have hnew : ∀ a, .begun a ∈ r.log → a.ticket ≠ b.ticket := by
      intro a ha
      have hbefore := h.ticket_lt a ha
      omega
    refine ⟨?_, fun a ha => ?_, fun a c ha hc heq => ?_, fun f hf => ?_, fun p hp => ?_⟩
    · rw [happly]
      exact hquiet
    · rw [happly]
      rcases (hlog a).mp ha with rfl | ha
      · exact hticket ▸ hlt
      · exact Nat.lt_trans (h.ticket_lt a ha) hlt
    · rcases (hlog a).mp ha with rfl | ha
      · rcases (hlog c).mp hc with rfl | hc
        · rfl
        · exact absurd heq.symm (hnew c hc)
      · rcases (hlog c).mp hc with rfl | hc
        · exact absurd heq (hnew a ha)
        · exact h.unique a c ha hc heq
    · rw [happly] at hf
      rcases hflights f hf with hf | ⟨hfticket, hfsource⟩
      · obtain ⟨a, ha, hmatch⟩ := h.flight f hf
        exact ⟨a, (hlog a).mpr (Or.inr ha), hmatch⟩
      · exact ⟨b, (hlog b).mpr (Or.inl rfl), hticket.trans hfticket.symm,
          hsource.trans hfsource.symm⟩
    · rw [happly] at hp
      rcases List.mem_append.mp (pending_collect_subset _ hp) with hp | hp
      · obtain ⟨a, ha, hmatch⟩ := h.pending p hp
        exact ⟨a, (hlog a).mpr (Or.inr ha), hmatch⟩
      · obtain ⟨stamp, -, rfl⟩ := Option.map_eq_some_iff.mp (Option.mem_toList.mp hp)
        exact ⟨b, (hlog b).mpr (Or.inl rfl), hticket.trans hspawned.symm, hsource⟩

lemma filed_perform (h : Filed r) (action : Action) : Filed (r.perform action) := by
  have hticketed := h.quiet.manned.ticketed
  cases action with
  | request source given => exact filed_request h source given
  | wait ticket =>
    exact filed_of_later (e := { r.explorer with session := (r.explorer.session.wait ticket).1 }) h
      (later_runUntil _ _ _ hticketed) rfl (begun_quiet r rfl)
  | waitForFile p millis =>
    exact filed_of_later
      (e := { r.explorer with session := (r.explorer.session.waitForFile p millis).1 }) h
      (later_runUntil _ _ _ hticketed) rfl (begun_quiet r rfl)
  | cancel source =>
    exact filed_of_subset h (quiet_cancel h.quiet _) (begun_quiet r rfl)
      (continues_cancel hticketed _).tickets_le (flights_cancel_subset h.quiet _)
      (pending_collect_subset _)
  | invalidate source =>
    exact filed_of_subset h h.quiet (begun_quiet r rfl) (Nat.le_refl _) (List.Subset.refl _)
      (List.Subset.refl _)
  | shutdown =>
    have hmanned := h.quiet.manned.withPipeline r.explorer.session.pipeline.cancelAll
      (heldBy_cancelAll h.quiet.manned.held)
    exact filed_of_subset h (quiet_cancelAll h.quiet) (begun_quiet r rfl)
      (continues_cancelAll hticketed).tickets_le
      (leaves_of_later hmanned (later_reap hmanned.ticketed)).flights_subset
      (pending_collect_subset { r.explorer with session := r.explorer.session.cancelAll })
  | edit files =>
    exact filed_of_subset h (quiet_withFiles h.quiet files) (begun_quiet r rfl) (Nat.le_refl _)
      (List.Subset.refl _) (List.Subset.refl _)
  | share registry =>
    exact filed_of_subset h h.quiet (begun_quiet r rfl) (Nat.le_refl _) (List.Subset.refl _)
      (List.Subset.refl _)

end

/-! ### Whole histories -/

namespace Recorded

/-- What is recorded after further actions. -/
def after (r : Recorded) (later : List Action) : Recorded :=
  later.foldl perform r

end Recorded

section

variable {r : Recorded} {a : Attempt}

lemma filed_after (h : Filed r) (later : List Action) : Filed (r.after later) := by
  induction later generalizing r with
  | nil => exact h
  | cons action rest ih => exact ih (filed_perform h action)

lemma filed_ofHistory (host : Host) (settings : Settings) (history : List Action) :
    Filed (.ofHistory host settings history) := by
  refine filed_after ⟨quiet_ofPipeline host _, ?_, ?_, ?_, ?_⟩ history
  · exact fun a ha => absurd ha List.not_mem_nil
  · exact fun a b ha => absurd ha List.not_mem_nil
  · exact fun f hf => absurd hf List.not_mem_nil
  · exact fun p hp => absurd hp List.not_mem_nil

lemma begun_after (h : .begun a ∈ r.log) (later : List Action) :
    .begun a ∈ (r.after later).log := by
  induction later generalizing r with
  | nil => exact h
  | cons action rest ih => exact ih ((begun_perform r action).mpr (Or.inr h))

lemma registry_request (e : Explorer) (source : Path) (given : List Text) :
    (e.request source given).1.registry = (e.databaseFor source).1.registry := by
  have hlook : ∀ given, (e.invocationFor source given).1 = (e.databaseFor source).1 := fun _ => rfl
  rw [Explorer.request]
  split
  · next e' failure h => rw [← hlook (e.givenOr given), h]
  · next e' i h =>
    rw [← hlook (e.givenOr given), h]
    dsimp only
    split
    · next e'' t hr =>
      obtain ⟨o, -, -, -, heq⟩ := of_reuse hr
      rw [(Prod.mk.inj heq).1]
      rfl
    · rw [run_eq]
      rfl

lemma sourced_perform (h : Sourced r.explorer.registry) {action : Action}
    (hshared : ∀ registry, action = .share registry → Sourced registry) :
    Sourced (r.perform action).explorer.registry := by
  cases action with
  | request source given =>
    show Sourced (r.explorer.request source given).1.registry
    rw [registry_request]
    exact sourced_databaseFor h source
  | share registry => exact hshared registry rfl
  | shutdown => exact sourced_serve h (q := .clear) trivial
  | wait | waitForFile | cancel | invalidate | edit => exact h

lemma sourced_ofHistory (host : Host) (settings : Settings) {history : List Action}
    (hshared : ∀ registry, .share registry ∈ history → Sourced registry) :
    Sourced (Recorded.ofHistory host settings history).explorer.registry := by
  have hafter : ∀ (history : List Action) (r : Recorded), Sourced r.explorer.registry →
      (∀ registry, .share registry ∈ history → Sourced registry) →
      Sourced (r.after history).explorer.registry := by
    intro history
    induction history with
    | nil => exact fun _ h _ => h
    | cons action rest ih =>
      intro r h hshared
      refine ih (r.perform action) (sourced_perform h fun registry heq => ?_) fun registry hmem => ?_
      · exact hshared registry (heq ▸ List.mem_cons_self)
      · exact hshared registry (List.mem_cons_of_mem action hmem)
  exact hafter history _ sourced_empty hshared

end

/-- Cancelling and invalidating a path reach what a compilation has, and nothing else. -/
structure Reaches (t : Explorer) (s : Path) (a : Attempt) : Prop where
  found_iff : (t.cancel s).2 = true ↔ ∃ f ∈ t.session.flights, f.run.source.key = a.source.key
  cancelled : ∀ f ∈ t.session.flights, f.ticket = a.ticket →
    (t.cancel s).2 = true ∧ (t.cancel s).1.session.result? a.ticket = some (.error .cancelled)
  others : ∀ f ∈ t.session.flights, f.run.source.key ≠ a.source.key →
    f ∈ (t.cancel s).1.session.flights
  forgotten : ∀ key, (t.invalidate s).outputs.get? key =
    if key = a.source.key then none else t.outputs.get? key

/-- Cancelling and invalidating a path leave alone what a compilation has. -/
structure Misses (t : Explorer) (s : Path) (a : Attempt) : Prop where
  going : ∀ f ∈ t.session.flights, f.ticket = a.ticket → f ∈ (t.cancel s).1.session.flights
  kept : (t.invalidate s).outputs.get? a.source.key = t.outputs.get? a.source.key

/-- What a compilation has stands under its source: its run, and the text that is to be kept. -/
structure StandsUnder (t : Explorer) (a : Attempt) : Prop where
  run : ∀ f ∈ t.session.flights, f.ticket = a.ticket → f.run.source = a.source
  pending : ∀ p ∈ t.pending, p.ticket = a.ticket → p.source = a.source

section

variable {r : Recorded} {t : Explorer} {s : Path} {a : Attempt}

lemma standsUnder_of_filed (h : Filed r) (ha : .begun a ∈ r.log) : StandsUnder r.explorer a := by
  constructor
  · intro f hf hticket
    obtain ⟨b, hb, hbticket, hsource⟩ := h.flight f hf
    rw [h.unique a b ha hb (hticket.symm.trans hbticket.symm), hsource]
  · intro p hp hticket
    obtain ⟨b, hb, hbticket, hsource⟩ := h.pending p hp
    rw [h.unique a b ha hb (hticket.symm.trans hbticket.symm), hsource]

lemma get?_invalidate (t : Explorer) (s : Path) (key : List Component) :
    (t.invalidate s).outputs.get? key =
      if key = (t.host.canonicalPath s).key then none else t.outputs.get? key :=
  Table.get?_erase ..

lemma reaches_of_key (hquiet : Quiet t.session) (hstands : StandsUnder t a)
    (hkey : a.source.key = (t.host.canonicalPath s).key) : Reaches t s a := by
  have hfound := cancel_found_iff hquiet (t.host.canonicalPath s)
  refine ⟨hkey ▸ hfound, fun f hf hticket => ?_, fun f hf hne => ?_, fun key => ?_⟩
  · have hsource : f.run.source.key = (t.host.canonicalPath s).key := by
      rw [hstands.run f hf hticket, hkey]
    refine ⟨hfound.mpr ⟨f, hf, hsource⟩, ?_⟩
    exact hticket ▸ result?_cancel hquiet _ hf hsource
  · exact (mem_flights_cancel hquiet _).mpr ⟨hf, hkey ▸ hne⟩
  · rw [get?_invalidate, hkey]

lemma misses_of_key (hquiet : Quiet t.session) (hstands : StandsUnder t a)
    (hkey : a.source.key ≠ (t.host.canonicalPath s).key) : Misses t s a := by
  refine ⟨fun f hf hticket => ?_, ?_⟩
  · refine (mem_flights_cancel hquiet _).mpr ⟨hf, ?_⟩
    rw [hstands.run f hf hticket]
    exact hkey
  · rw [get?_invalidate, if_neg hkey]

end

lemma source_of_asked {e : Explorer} {s : Path} {given : List Text} {a : Attempt}
    (h : asked e s given = .ok a) :
    ∃ i, (e.invocationFor s (e.givenOr given)).2 = .ok i ∧ a.source = i.source := by
  rw [asked] at h
  cases hi : (e.invocationFor s (e.givenOr given)).2 with
  | error failure =>
    rw [hi] at h
    cases h
  | ok i =>
    rw [hi] at h
    obtain rfl := Except.ok.inj h
    exact ⟨i, rfl, rfl⟩

/-- A request begins a compilation, and its path keeps its canonical path, whatever happens then.
Without a detour, cancelling and invalidating the path reach what the compilation has and nothing
else; after a detour, they miss it. There is no detour for a path that leads to a file or is in
normal form. -/
theorem reaches_iff_not_detour (host : Host) (settings : Settings) (before : List Action)
    (hshared : ∀ registry, .share registry ∈ before → Sourced registry) (s : Path)
    (given : List Text) (a : Attempt)
    (hasked : asked (Recorded.ofHistory host settings before).explorer s given = .ok a)
    (hcompiled : ((Recorded.ofHistory host settings before).explorer.request s given).2 =
      .compiling a.ticket) (later : List Action) :
    let r := Recorded.ofHistory host settings before
    let t := ((r.perform (.request s given)).after later).explorer
    (a.source.key = (r.explorer.host.canonicalPath s).key ↔ ¬Detour r.explorer s) ∧
      StandsUnder t a ∧
      (t.host.canonicalPath s = r.explorer.host.canonicalPath s →
        (¬Detour r.explorer s → Reaches t s a) ∧ (Detour r.explorer s → Misses t s a)) ∧
      (LinkFree r.explorer.host.files r.explorer.host.directory → Detour r.explorer s →
        (∀ l, r.explorer.host.files.resolve r.explorer.host.directory s ≠ .ok l) ∧
          s.normalize ≠ s) := by
  have hsourced := sourced_ofHistory host settings hshared
  have hfiled := filed_ofHistory host settings before
  generalize Recorded.ofHistory host settings before = r at hasked hcompiled hsourced hfiled
  intro r' t
  have hkey : a.source.key = (r.explorer.host.canonicalPath s).key ↔ ¬Detour r.explorer s := by
    obtain ⟨i, hi, hsource⟩ := source_of_asked hasked
    rw [hsource]
    exact source_key_iff hsourced hi
  have hbegun : .begun a ∈ (r.perform (.request s given)).log := by
    rw [begun_perform, Action.opening, hcompiled, hasked]
    exact Or.inl List.mem_cons_self
  have hafter := filed_after (filed_request hfiled s given) later
  have hstands : StandsUnder t a := standsUnder_of_filed hafter (begun_after hbegun later)
  refine ⟨hkey, hstands, fun hsame => ⟨fun hdirect => ?_, fun hdetour => ?_⟩, nowhere_of_detour⟩
  · exact reaches_of_key hafter.quiet hstands (hsame.symm ▸ hkey.mpr hdirect)
  · exact misses_of_key hafter.quiet hstands fun heq => hkey.mp (hsame ▸ heq) hdetour

/-- A host with a compiler that tells a text and goes on for a second, and a database. -/
def slowHost (text : String) : Host :=
  shellHost [("sleep", .program "sleep".toList), ("main.c", textFile "int x;\n"),
    ("text", textFile text), ("cc.sh", textFile "cat /text\nsleep 1\n"),
    ("compile_commands.json", .file (Utf8.encode (databaseText "/".toList)) false)]

def replyTicket? : Explorer.Reply → Option Nat
  | .answer _ => none
  | .compiling ticket => some ticket

set_option maxRecDepth 10000 in
/-- A compilation that goes on is reached under the path that was given for it. -/
theorem reaches_slow_compilation :
    let r := Recorded.ofHistory (slowHost "older\n") shellSettings []
    let t := (r.perform (.request (.ofString "/./main.c") [])).explorer
    ∃ a, asked r.explorer (.ofString "/./main.c") [] = .ok a ∧
      ¬Detour r.explorer (.ofString "/./main.c") ∧ (t.cancel (.ofString "/./main.c")).2 = true ∧
      (t.cancel (.ofString "/./main.c")).1.session.result? a.ticket = some (.error .cancelled) := by
  intro r t
  have hfound : (asked r.explorer (.ofString "/./main.c") []).toOption.map
      (fun a => (a.ticket, a.source)) = some (0, .ofString "/main.c") := by decide +kernel
  have hreply : replyTicket? (r.explorer.request (.ofString "/./main.c") []).2 = some 0 := by
    decide +kernel
  have hgoing : t.session.flights.map Flight.ticket = [0] := by decide +kernel
  have hcanonical : r.explorer.host.canonicalPath (.ofString "/./main.c") = .ofString "/main.c" := by
    decide +kernel
  have hsame : t.host.canonicalPath (.ofString "/./main.c") = .ofString "/main.c" := by
    decide +kernel
  cases hasked : asked r.explorer (.ofString "/./main.c") [] with
  | error failure =>
    rw [hasked] at hfound
    cases hfound
  | ok a =>
    rw [hasked] at hfound
    obtain ⟨hticket, hsource⟩ := Prod.mk.inj (Option.some.inj hfound)
    have hcompiled : (r.explorer.request (.ofString "/./main.c") []).2 = .compiling a.ticket := by
      cases hrequest : (r.explorer.request (.ofString "/./main.c") []).2 with
      | answer result =>
        rw [hrequest] at hreply
        cases hreply
      | compiling ticket =>
        rw [hrequest] at hreply
        rw [hticket, Option.some.inj hreply]
    obtain ⟨hkey, -, hreach, -⟩ := reaches_iff_not_detour (slowHost "older\n") shellSettings []
      (fun _ h => absurd h List.not_mem_nil) (.ofString "/./main.c") [] a hasked hcompiled []
    have hdirect := hkey.mp (by rw [hsource]; exact congrArg Path.key hcanonical.symm)
    have hreaches := (hreach (hsame.trans hcanonical.symm)).1 hdirect
    obtain ⟨f, hf, hfticket⟩ := List.mem_map.mp (hgoing ▸ List.mem_cons_self : 0 ∈ _)
    obtain ⟨hcancel, hresult⟩ := hreaches.cancelled f hf (hfticket.trans hticket.symm)
    exact ⟨a, rfl, hdirect, hcancel, hresult⟩

/-- Under a path that leads nowhere, a source file of the database is compiled. The path is cancelled
while the compilation goes on, and later it is invalidated and the text changes. Whether there was a
compilation to cancel, what it came to, and what the next request is answered. -/
def detourAnswers : Bool × Option Text × Option Text :=
  let gone := .ofString "gone/../main.c"
  let going := ((Explorer.ofSettings (slowHost "older\n") shellSettings).request gone []).1
  let cancelled := going.cancel gone
  let ended := cancelled.1.wait 0
  let changed := (ended.1.invalidate gone).withFiles (slowHost "newer\n").files
  (cancelled.2, ended.2.toOption, (changed.compile gone []).2.toOption)

set_option maxRecDepth 10000 in
/-- The source of the invocation is not the canonical path of the request: the compilation is not
cancelled, and its text is not forgotten. -/
theorem missed_after_detour :
    ((Explorer.ofSettings (slowHost "older\n") shellSettings).invocationFor
        (.ofString "gone/../main.c") []).2.toOption.map Invocation.source =
        some (.ofString "/main.c") ∧
      (slowHost "older\n").canonicalPath (.ofString "gone/../main.c") = .ofString "main.c" ∧
      detourAnswers = (false, some "older".toList, some "older".toList) :=
  ⟨by decide +kernel, by decide +kernel, by decide +kernel⟩

end AsmExplorer.Proofs
