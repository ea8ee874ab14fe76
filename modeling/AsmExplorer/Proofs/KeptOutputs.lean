import AsmExplorer.Explorer.Basic
import AsmExplorer.Proofs.SessionResults
import AsmExplorer.Proofs.ShellHost

/-!
# Answers from last outputs

What happens to an explorer is recorded: compilations that begin and end, and outputs that are
forgotten. An answer without a compilation is then the text of a compilation in the record, for the
same file, stamp and command, and the output was not forgotten since that compilation ended. The
directory of the compilation is not compared.
-/

namespace AsmExplorer.Proofs

/-- A compilation that is asked for. -/
structure Attempt where
  ticket : Nat
  source : Path
  /-- The stamp that the source file has before the compilation. -/
  stamp : Option FileSystem.Stamp
  command : CompileCommand
  directory : Path

/-- The compilation for a request, if no output is kept. -/
def asked (e : Explorer) (source : Path) (given : List Text) : Except Failure Attempt :=
  (e.invocationFor source (e.givenOr given)).2.map fun i =>
    { ticket := e.session.tickets
      source := i.source
      stamp := e.host.stamp? i.source
      command := e.session.pipeline.command i (e.givenOr given)
      directory := i.directory }

/-- What is recorded. -/
inductive Event where
  | begun (a : Attempt)
  | ended (ticket : Nat)
  | forgot (source : Path)
  | cleared

/-- Whether the output of a source file is forgotten. -/
def Event.Forgets (key : List Component) : Event → Prop
  | .forgot source => source.key = key
  | .cleared => True
  | _ => False

/-- What happens to an explorer. -/
inductive Action where
  | request (source : Path) (given : List Text)
  | wait (ticket : Nat)
  | waitForFile (p : Path) (millis : Nat)
  | cancel (source : Path)
  | invalidate (source : Path)
  | shutdown
  /-- Source files and database files are edited. -/
  | edit (files : FileSystem)
  /-- Databases are loaded, read again, pushed or removed. -/
  | share (registry : Registry)

namespace Action

def apply (e : Explorer) : Action → Explorer
  | .request source given => (e.request source given).1
  | .wait ticket => (e.wait ticket).1
  | .waitForFile p millis => { e with session := (e.session.waitForFile p millis).1 }.collect
  | .cancel source => (e.cancel source).1
  | .invalidate source => e.invalidate source
  | .shutdown => e.shutdown
  | .edit files => e.withFiles files
  | .share registry => { e with registry := registry }

/-- The compilation that an action begins. -/
def opening (e : Explorer) : Action → List Event
  | .request source given =>
    match (e.request source given).2, asked e source given with
    | .compiling _, .ok a => [.begun a]
    | _, _ => []
  | _ => []

/-- What an action forgets. -/
def closing (e : Explorer) : Action → List Event
  | .invalidate source => [.forgot (e.host.canonicalPath source)]
  | .shutdown => [.cleared]
  | _ => []

end Action

/-- The compilations that have a result in a session and had none in the one before. -/
def endings (s t : Session) : List Event :=
  (t.results.filter fun r => (s.result? r.1).isNone).map fun r => .ended r.1

/-- An explorer and what has happened to it, the latest first. -/
structure Recorded where
  explorer : Explorer
  log : List Event

namespace Recorded

def perform (r : Recorded) (a : Action) : Recorded where
  explorer := a.apply r.explorer
  log := a.closing r.explorer ++ (endings r.explorer.session (a.apply r.explorer).session ++
    (a.opening r.explorer ++ r.log))

/-- The explorer after a history. -/
def ofHistory (host : Host) (settings : Settings) (history : List Action) : Recorded :=
  history.foldl perform ⟨.ofSettings host settings, []⟩

end Recorded

/-! ### What is kept -/

/-- The outputs with the text of a compilation kept, if it has ended well. -/
def keep (s : Session) (outputs : Outputs) (p : Pending) : Outputs :=
  match s.result? p.ticket with
  | some (.ok t) => outputs.store p.source ⟨p.stamp, p.command, t⟩
  | _ => outputs

/-- The text of a compilation that was waited for, as an output under a key. -/
def Ripe (s : Session) (p : Pending) (key : List Component) (o : Output) : Prop :=
  p.source.key = key ∧ p.stamp = o.stamp ∧ p.command = o.command ∧
    s.result? p.ticket = some (.ok o.text)

lemma get?_keep {s : Session} {outputs : Outputs} {p : Pending} {key : List Component} {o : Output}
    (h : (keep s outputs p).get? key = some o) : outputs.get? key = some o ∨ Ripe s p key o := by
  rw [keep] at h
  split at h
  · next t hresult =>
    rw [Outputs.store, Table.get?_insert] at h
    split at h
    · next hkey =>
      obtain rfl := Option.some.inj h
      exact Or.inr ⟨hkey.symm, rfl, rfl, hresult⟩
    · exact Or.inl h
  · exact Or.inl h

lemma get?_foldl_keep {s : Session} {key : List Component} {o : Output} (ended : List Pending)
    {outputs : Outputs} (h : (ended.foldl (keep s) outputs).get? key = some o) :
    outputs.get? key = some o ∨ ∃ p ∈ ended, Ripe s p key o := by
  induction ended generalizing outputs with
  | nil => exact Or.inl h
  | cons p rest ih =>
    rcases ih h with hget | ⟨q, hq, hripe⟩
    · rcases get?_keep hget with hget | hripe
      · exact Or.inl hget
      · exact Or.inr ⟨p, List.mem_cons_self, hripe⟩
    · exact Or.inr ⟨q, List.mem_cons_of_mem p hq, hripe⟩

lemma collect_eq (e : Explorer) :
    e.collect =
      { e with
        outputs := (e.pending.filter fun p => (e.session.result? p.ticket).isSome).foldl
          (keep e.session) e.outputs
        pending := e.pending.filter fun p => !(e.session.result? p.ticket).isSome } := by
  rw [Explorer.collect, List.partition_eq_filter_filter]
  rfl

lemma of_mem_pending_collect {e : Explorer} {p : Pending} (h : p ∈ e.collect.pending) :
    p ∈ e.pending ∧ e.session.result? p.ticket = none := by
  rw [collect_eq] at h
  obtain ⟨hmem, hnone⟩ := List.mem_filter.mp h
  exact ⟨hmem, by simpa using hnone⟩

/-- An output was kept before, or it is the text of a compilation that was waited for. -/
lemma get?_collect {e : Explorer} {key : List Component} {o : Output}
    (h : e.collect.outputs.get? key = some o) :
    e.outputs.get? key = some o ∨ ∃ p ∈ e.pending, Ripe e.session p key o := by
  rw [collect_eq] at h
  rcases get?_foldl_keep _ h with hget | ⟨p, hp, hripe⟩
  · exact Or.inl hget
  · exact Or.inr ⟨p, (List.mem_filter.mp hp).1, hripe⟩

/-! ### What a request comes to -/

/-- The explorer after a compilation has begun, before texts are kept. -/
def withRun (e : Explorer) (i : Invocation) (given : List Text) (stamp : Option FileSystem.Stamp) :
    Explorer :=
  { e with
    session := (e.session.spawn i given).1
    pending := e.pending ++ (stamp.map fun stamp =>
      Pending.mk (e.session.spawn i given).2 i.source stamp
        (e.session.pipeline.command i given)).toList }

lemma run_eq (e : Explorer) (i : Invocation) (given : List Text) (stamp : Option FileSystem.Stamp) :
    e.run i given stamp =
      ((withRun e i given stamp).collect, .compiling (e.session.spawn i given).2) := by
  cases stamp with
  | none =>
    rw [withRun, Option.map_none, Option.toList_none, List.append_nil]
    rfl
  | some stamp => rfl

/-- The explorer after the compilation of a source file is told to stop. -/
def withCancel (e : Explorer) (source : Path) : Explorer :=
  { e with session := (e.session.cancel source).1 }

lemma of_upToDate {outputs : Outputs} {source : Path} {stamp : FileSystem.Stamp}
    {command : CompileCommand} {t : Text} (h : outputs.upToDate? source stamp command = some t) :
    ∃ o, outputs.get? source.key = some o ∧ o.stamp = stamp ∧ o.command = command ∧ o.text = t := by
  rw [Outputs.upToDate?] at h
  split at h
  · next last hlast =>
    split at h
    · next hsame => exact ⟨last, hlast, hsame.1, hsame.2, Option.some.inj h⟩
    · exact absurd h (Option.some_ne_none _).symm
  · exact absurd h (Option.some_ne_none _).symm

lemma of_reuse {e : Explorer} {i : Invocation} {given : List Text}
    {stamp : Option FileSystem.Stamp} {r : Explorer × Text} (h : e.reuse? i given stamp = some r) :
    ∃ o, e.outputs.get? i.source.key = some o ∧ stamp = some o.stamp ∧
      e.session.pipeline.command i given = o.command ∧
      r = ((withCancel e i.source).collect, o.text) := by
  rw [Explorer.reuse?] at h
  split at h
  · next t ht =>
    obtain ⟨stamp, rfl, hdate⟩ := Option.bind_eq_some_iff.mp ht
    obtain ⟨o, hget, rfl, hcommand, rfl⟩ := of_upToDate hdate
    exact ⟨o, hget, rfl, hcommand.symm, (Option.some.inj h).symm⟩
  · exact absurd h (Option.some_ne_none _).symm

/-- A request is refused, answered from an output, or compiled. -/
inductive Handled (e : Explorer) (source : Path) (given : List Text) : Prop where
  | refused (registry : Registry) (failure : Failure)
    (asked_eq : asked e source given = .error failure)
    (request_eq : e.request source given =
      ({ e with registry := registry }, .answer (.error failure)))
  | reused (registry : Registry) (a : Attempt) (o : Output)
    (asked_eq : asked e source given = .ok a)
    (found : e.outputs.get? a.source.key = some o)
    (stamp_eq : a.stamp = some o.stamp)
    (command_eq : a.command = o.command)
    (request_eq : e.request source given =
      ((withCancel { e with registry := registry } a.source).collect, .answer (.ok o.text)))
  | compiled (registry : Registry) (a : Attempt) (i : Invocation)
    (asked_eq : asked e source given = .ok a)
    (ticket_eq : a.ticket = e.session.tickets)
    (source_eq : a.source = i.source)
    (command_eq : a.command = e.session.pipeline.command i (e.givenOr given))
    (request_eq : e.request source given =
      ((withRun { e with registry := registry } i (e.givenOr given) a.stamp).collect,
        .compiling (e.session.spawn i (e.givenOr given)).2))

lemma handled_request (e : Explorer) (source : Path) (given : List Text) : Handled e source given := by
  obtain ⟨registry, out, hlook⟩ : ∃ registry out,
      e.invocationFor source (e.givenOr given) = ({ e with registry := registry }, out) :=
    ⟨_, _, rfl⟩
  cases out with
  | error failure =>
    refine .refused registry failure ?_ ?_
    · rw [asked, hlook]
      rfl
    · rw [Explorer.request, hlook]
  | ok i =>
    have hasked : asked e source given = .ok
        ⟨e.session.tickets, i.source, e.host.stamp? i.source,
          e.session.pipeline.command i (e.givenOr given), i.directory⟩ := by
      rw [asked, hlook]
      rfl
    have hhost : Explorer.host { e with registry := registry } = e.host := rfl
    cases hreuse : ({ e with registry := registry } : Explorer).reuse? i (e.givenOr given)
        (e.host.stamp? i.source) with
    | some r =>
      obtain ⟨o, hfound, hstamp, hcommand, rfl⟩ := of_reuse hreuse
      refine .reused registry _ o hasked hfound hstamp hcommand ?_
      rw [Explorer.request, hlook]
      dsimp only
      rw [hhost, hreuse]
    | none =>
      refine .compiled registry _ i hasked rfl rfl rfl ?_
      rw [Explorer.request, hlook]
      dsimp only
      rw [hhost, hreuse]
      exact run_eq _ i _ _

/-! ### The record backs the outputs -/

/-- An output is the text of a compilation in the record, and was not forgotten since it ended. -/
def Supplied (log : List Event) (s : Session) (key : List Component) (o : Output) : Prop :=
  ∃ a later mid before, log = later ++ .ended a.ticket :: (mid ++ .begun a :: before) ∧
    (∀ event ∈ later, ¬event.Forgets key) ∧ s.result? a.ticket = some (.ok o.text) ∧
    a.source.key = key ∧ a.stamp = some o.stamp ∧ a.command = o.command

/-- A compilation whose text is to be kept is in the record. -/
def Awaited (log : List Event) (p : Pending) : Prop :=
  ∃ a, .begun a ∈ log ∧ a.ticket = p.ticket ∧ a.source.key = p.source.key ∧
    a.stamp = some p.stamp ∧ a.command = p.command

structure Backed (r : Recorded) : Prop where
  ticketed : Ticketed r.explorer.session
  pending : ∀ p ∈ r.explorer.pending,
    r.explorer.session.result? p.ticket = none ∧ Awaited r.log p
  outputs : ∀ key o, r.explorer.outputs.get? key = some o →
    Supplied r.log r.explorer.session key o

variable {log news : List Event} {s t : Session} {key : List Component} {o : Output}

lemma not_forgets_endings (s t : Session) (key : List Component) :
    ∀ event ∈ endings s t, ¬event.Forgets key := by
  intro event hevent
  obtain ⟨r, -, rfl⟩ := List.mem_map.mp hevent
  exact id

lemma supplied_append (h : Supplied log s key o) (hnews : ∀ event ∈ news, ¬event.Forgets key)
    (hkept : ∀ k x, s.result? k = some x → t.result? k = some x) :
    Supplied (news ++ log) t key o := by
  obtain ⟨a, later, mid, before, rfl, hlater, hresult, hmatch⟩ := h
  refine ⟨a, news ++ later, mid, before, (List.append_assoc _ _ _).symm, ?_, hkept _ _ hresult,
    hmatch⟩
  intro event hevent
  rcases List.mem_append.mp hevent with hevent | hevent
  · exact hnews event hevent
  · exact hlater event hevent

lemma awaited_append (news : List Event) {p : Pending} (h : Awaited log p) :
    Awaited (news ++ log) p := by
  obtain ⟨a, ha, hmatch⟩ := h
  exact ⟨a, List.mem_append_right news ha, hmatch⟩

/-- A compilation that was waited for has just ended. -/
lemma supplied_of_ripe {p : Pending} (h : Ripe t p key o) (hopen : s.result? p.ticket = none)
    (hp : Awaited log p) : Supplied (endings s t ++ log) t key o := by
  obtain ⟨hkey, hstamp, hcommand, hresult⟩ := h
  obtain ⟨a, ha, hticket, hsource, hastamp, hacommand⟩ := hp
  have hended : Event.ended p.ticket ∈ endings s t := by
    obtain ⟨l₁, l₂, hresults, -⟩ := List.lookup_eq_some_iff.mp hresult
    refine List.mem_map.mpr ⟨(p.ticket, .ok o.text), List.mem_filter.mpr ⟨?_, ?_⟩, rfl⟩
    · rw [hresults]
      exact List.mem_append_right l₁ List.mem_cons_self
    · rw [hopen]
      rfl
  obtain ⟨later, rest, hsplit⟩ := List.append_of_mem hended
  obtain ⟨mid, before, rfl⟩ := List.append_of_mem ha
  refine ⟨a, later, rest ++ mid, before, ?_, ?_, hticket ▸ hresult, hsource.trans hkey,
    hstamp ▸ hastamp, hacommand.trans hcommand⟩
  · rw [hsplit, hticket]
    simp only [List.append_assoc, List.cons_append]
  · intro event hevent
    exact not_forgets_endings s t key event (hsplit ▸ List.mem_append_left _ hevent)

/-- Texts are kept after compilations have begun or ended. -/
lemma backed_collect {r : Recorded} {e : Explorer} (news : List Event) (h : Backed r)
    (hticketed : Ticketed e.session)
    (hkept : ∀ k x, r.explorer.session.result? k = some x → e.session.result? k = some x)
    (houtputs : e.outputs = r.explorer.outputs)
    (hpending : ∀ p ∈ e.pending,
      r.explorer.session.result? p.ticket = none ∧ Awaited (news ++ r.log) p)
    (hnews : ∀ key, ∀ event ∈ news, ¬event.Forgets key) :
    Backed ⟨e.collect, endings r.explorer.session e.session ++ (news ++ r.log)⟩ where
  ticketed := hticketed
  pending p hp := by
    obtain ⟨hmem, hopen⟩ := of_mem_pending_collect hp
    exact ⟨hopen, awaited_append _ (hpending p hmem).2⟩
  outputs key o hget := by
    rcases get?_collect hget with hget | ⟨p, hp, hripe⟩
    · have hold := h.outputs key o (houtputs ▸ hget)
      exact supplied_append (supplied_append hold (hnews key) fun _ _ hx => hx)
        (not_forgets_endings _ _ key) hkept
    · exact supplied_of_ripe hripe (hpending p hp).1 (hpending p hp).2

lemma backed_session {r : Recorded} {e : Explorer} (h : Backed r)
    (hcontinues : Continues r.explorer.session e.session)
    (houtputs : e.outputs = r.explorer.outputs) (hpending : e.pending = r.explorer.pending) :
    Backed ⟨e.collect, endings r.explorer.session e.session ++ r.log⟩ :=
  backed_collect [] h hcontinues.ticketed hcontinues.kept houtputs
    (fun p hp => h.pending p (hpending ▸ hp)) fun _ _ hevent => absurd hevent List.not_mem_nil

/-- Nothing ends, and all outputs are as before but for those that are forgotten. -/
lemma backed_quiet {r : Recorded} (e : Explorer) (news : List Event) (h : Backed r)
    (hticketed : Ticketed e.session)
    (hresults : e.session.results = r.explorer.session.results)
    (hpending : e.pending = r.explorer.pending)
    (houtputs : ∀ key o, e.outputs.get? key = some o →
      r.explorer.outputs.get? key = some o ∧ ∀ event ∈ news, ¬event.Forgets key) :
    Backed ⟨e, news ++ (endings r.explorer.session e.session ++ r.log)⟩ := by
  have hresult : ∀ k, e.session.result? k = r.explorer.session.result? k := by
    intro k
    rw [Session.result?, Session.result?, hresults]
  refine ⟨hticketed, fun p hp => ?_, fun key o hget => ?_⟩
  · obtain ⟨hopen, hawaited⟩ := h.pending p (hpending ▸ hp)
    exact ⟨(hresult p.ticket).trans hopen, awaited_append _ (awaited_append _ hawaited)⟩
  · obtain ⟨hold, hnews⟩ := houtputs key o hget
    have hended := supplied_append (h.outputs key o hold)
      (not_forgets_endings r.explorer.session e.session key) fun _ _ hx => hx
    exact supplied_append hended hnews fun k x hx => (hresult k).trans hx

lemma backed_still {r : Recorded} (e : Explorer) (h : Backed r) (hticketed : Ticketed e.session)
    (hresults : e.session.results = r.explorer.session.results)
    (hpending : e.pending = r.explorer.pending) (houtputs : e.outputs = r.explorer.outputs) :
    Backed ⟨e, endings r.explorer.session e.session ++ r.log⟩ :=
  backed_quiet e [] h hticketed hresults hpending fun _ _ hget =>
    ⟨houtputs ▸ hget, fun _ hevent => absurd hevent List.not_mem_nil⟩

lemma backed_request {r : Recorded} (h : Backed r) (source : Path) (given : List Text) :
    Backed (r.perform (.request source given)) := by
  show Backed ⟨(r.explorer.request source given).1,
    endings r.explorer.session (r.explorer.request source given).1.session ++
      ((Action.request source given).opening r.explorer ++ r.log)⟩
  cases handled_request r.explorer source given with
  | refused registry failure hasked hrequest =>
    rw [Action.opening, hrequest]
    exact backed_still { r.explorer with registry := registry } h h.ticketed rfl rfl rfl
  | reused registry a o hasked hfound hstamp hcommand hrequest =>
    rw [Action.opening, hrequest]
    exact backed_session (e := withCancel { r.explorer with registry := registry } a.source) h
      (continues_cancel h.ticketed a.source) rfl rfl
  | compiled registry a i hasked hticket hsource hcommand hrequest =>
    obtain ⟨hspawned, hticketed, -, hkept⟩ :=
      continues_spawn h.ticketed i (r.explorer.givenOr given)
    have hopen := (unused_tickets h.ticketed).1
    rw [Action.opening, hrequest, hasked]
    refine backed_collect (e := withRun { r.explorer with registry := registry } i _ a.stamp)
      [.begun a] h hticketed hkept rfl (fun p hp => ?_) fun key event hevent => ?_
    · rcases List.mem_append.mp hp with hp | hp
      · obtain ⟨hwaits, hawaited⟩ := h.pending p hp
        exact ⟨hwaits, awaited_append _ hawaited⟩
      · obtain ⟨stamp, hstamp, rfl⟩ := Option.map_eq_some_iff.mp (Option.mem_toList.mp hp)
        refine ⟨?_, a, List.mem_cons_self, ?_, ?_, hstamp, hcommand⟩
        · exact hspawned ▸ hopen
        · exact hticket.trans hspawned.symm
        · exact congrArg Path.key hsource
    · exact List.mem_singleton.mp hevent ▸ id

lemma backed_perform {r : Recorded} (h : Backed r) (a : Action) : Backed (r.perform a) := by
  cases a with
  | request source given => exact backed_request h source given
  | wait ticket =>
    exact backed_session (e := { r.explorer with session := (r.explorer.session.wait ticket).1 }) h
      (continues_wait h.ticketed ticket) rfl rfl
  | waitForFile p millis =>
    exact backed_session
      (e := { r.explorer with session := (r.explorer.session.waitForFile p millis).1 }) h
      (continues_waitForFile h.ticketed p millis) rfl rfl
  | cancel source =>
    exact backed_session (e := withCancel r.explorer (r.explorer.host.canonicalPath source)) h
      (continues_cancel h.ticketed _) rfl rfl
  | invalidate source =>
    refine backed_quiet (r.explorer.invalidate source)
      [.forgot (r.explorer.host.canonicalPath source)] h h.ticketed rfl rfl fun key o hget => ?_
    rw [Explorer.invalidate, Outputs.forget, Table.get?_erase] at hget
    split at hget
    · exact absurd hget (Option.some_ne_none _).symm
    · next hne =>
      refine ⟨hget, fun event hevent => ?_⟩
      obtain rfl := List.mem_singleton.mp hevent
      exact fun heq => hne heq.symm
  | shutdown =>
    have hstopped := backed_session (e := { r.explorer with session := r.explorer.session.cancelAll })
      h (continues_cancelAll h.ticketed) rfl rfl
    exact ⟨hstopped.ticketed, fun p hp => ⟨(hstopped.pending p hp).1,
      awaited_append [.cleared] (hstopped.pending p hp).2⟩,
      fun key o hget => absurd hget (Option.some_ne_none _).symm⟩
  | edit files =>
    exact backed_still (r.explorer.withFiles files) h
      (continues_withFiles h.ticketed files).ticketed rfl rfl rfl
  | share registry =>
    exact backed_still { r.explorer with registry := registry } h h.ticketed rfl rfl rfl

lemma backed_ofHistory (host : Host) (settings : Settings) (history : List Action) :
    Backed (.ofHistory host settings history) := by
  have hfold : ∀ r, Backed r → Backed (history.foldl Recorded.perform r) := by
    induction history with
    | nil => exact fun _ h => h
    | cons a rest ih => exact fun r h => ih (r.perform a) (backed_perform h a)
  refine hfold _ ⟨ticketed_ofPipeline host _, fun p hp => absurd hp List.not_mem_nil, ?_⟩
  exact fun key o hget => absurd hget (Option.some_ne_none _).symm

/-- What an answer to a request without a compilation goes back to. -/
def Justified (r : Recorded) (source : Path) (given : List Text) : Explorer.Reply → Prop
  | .answer (.ok t) =>
    ∃ now a later mid before, asked r.explorer source given = .ok now ∧
      r.log = later ++ .ended a.ticket :: (mid ++ .begun a :: before) ∧
      (∀ event ∈ later, ¬event.Forgets now.source.key) ∧
      r.explorer.session.result? a.ticket = some (.ok t) ∧
      a.source.key = now.source.key ∧ a.command = now.command ∧
      ∃ stamp, a.stamp = some stamp ∧ now.stamp = some stamp
  | _ => True

/-- After every history, an answer that is not compiled for the request is the text of an earlier
compilation of the same file with the same stamp and the same command, and the output of the file was
not forgotten since that compilation ended. -/
theorem answer_justified (host : Host) (settings : Settings) (history : List Action) (source : Path)
    (given : List Text) :
    Justified (.ofHistory host settings history) source given
      ((Recorded.ofHistory host settings history).explorer.request source given).2 := by
  have hbacked := backed_ofHistory host settings history
  generalize Recorded.ofHistory host settings history = r at hbacked ⊢
  cases handled_request r.explorer source given with
  | refused registry failure hasked hrequest =>
    rw [hrequest]
    trivial
  | reused registry now o hasked hfound hstamp hcommand hrequest =>
    obtain ⟨a, later, mid, before, hlog, hlater, hresult, hkey, hastamp, hacommand⟩ :=
      hbacked.outputs now.source.key o hfound
    rw [hrequest]
    exact ⟨now, a, later, mid, before, hasked, hlog, hlater, hresult, hkey,
      hacommand.trans hcommand.symm, o.stamp, hastamp, hstamp⟩
  | compiled registry now i hasked hticket hsource hcommand hrequest =>
    rw [hrequest]
    trivial

/-- A database with one entry, for a compiler that is told nothing but the file. -/
def databaseText (directory : Text) : Text :=
  "[\x7b\"directory\": \"".toList ++ directory ++
    "\", \"file\": \"/main.c\", \"arguments\": [\"sh\", \"/cc.sh\", \"/main.c\"]\x7d]".toList

/-- A compiler that tells its directory, which the database gives. -/
def directoryHost (directory : Text) : Host :=
  shellHost [("main.c", textFile "int x;\n"), ("cc.sh", textFile "pwd\n"), ("old", .directory),
    ("new", .directory), ("compile_commands.json", .file (Utf8.encode (databaseText directory)) false)]

/-- The database has got another directory since the compilation, and was read again. -/
def movedRecord : Recorded :=
  let main := .ofString "/main.c"
  let r := Recorded.ofHistory (directoryHost "/old".toList) shellSettings
    [.request main [], .wait 0, .edit (directoryHost "/new".toList).files]
  let e := r.explorer
  r.perform (.share (e.registry.reload e.host (e.databasePath main)).1)

set_option maxRecDepth 10000 in
/-- The text that is answered without a compilation is not the one that a compilation gives. -/
theorem text_of_old_directory :
    (asked movedRecord.explorer (.ofString "/main.c") []).toOption.map Attempt.directory =
        some (.ofString "/new") ∧
      (movedRecord.explorer.compile (.ofString "/main.c") []).1.session.tickets =
        movedRecord.explorer.session.tickets ∧
      (movedRecord.explorer.compile (.ofString "/main.c") []).2.toOption = some "/old".toList ∧
      ((Explorer.ofSettings (directoryHost "/new".toList) shellSettings).compile
        (.ofString "/main.c") []).2.toOption = some "/new".toList :=
  ⟨by decide +kernel, by decide +kernel, by decide +kernel, by decide +kernel⟩

end AsmExplorer.Proofs
