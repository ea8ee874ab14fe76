import AsmExplorer.Compile.Pipeline
import Mathlib.Tactic.Lemma

/-!
# Compilations at the same time

Calls of one pipeline and cancellations, interleaved step by step. To begin a run takes three steps:
its number is drawn, it gets its place, and the run that had the place is told to stop. Places are
given, given back and taken away under a lock. A cancellation keeps the lock until it has told every
run whose place it took away; a begin does not keep it.
-/

namespace AsmExplorer.Proofs

/-- How far a run has come between its begin and its end. -/
inductive Progress where
  | begun
  | located (run : Run)
  | started (run : Run)
  | captured (run : Run) (c : Capture)
  | concluded (run : Run) (result : Except Failure Text)

/-- How far a call has come. -/
inductive Stage where
  | drawn
  /-- It has got its place and owes the word to the run that had it. -/
  | placed (previous : Option Nat)
  | inside (progress : Progress)
  /-- A call that is given up has no result. -/
  | ended (result : Option (Except Failure Text))

/-- A call of a compilation. -/
structure Call where
  invocation : Invocation
  given : List Text
  stage : Stage

/-- A cancellation that goes on: the runs whose places it took away, and those not yet told. -/
structure Removal where
  taken : List Nat
  untold : List Nat

/-- A pipeline with its calls. -/
structure Compilations where
  pipeline : Pipeline
  calls : Table Nat Call
  /-- The runs that got a place, the latest first. -/
  order : List Nat
  /-- The cancellation that has the lock. -/
  removal : Option Removal
  /-- The runs whose places were taken away by cancellations that have returned. -/
  removed : List Nat

/-- What the surroundings do for a run. -/
inductive Work where
  | locate (host : Host)
  | start (host : Host)
  | capture (c : Capture)
  | fail (e : Failure)
  | conclude

namespace Progress

def run? : Progress → Option Run
  | .begun => none
  | .located run => some run
  | .started run => some run
  | .captured run _ => some run
  | .concluded run _ => some run

def result? : Progress → Option (Except Failure Text)
  | .concluded _ result => some result
  | _ => none

/-- The next progress of a run, and the pipeline after it. A run that has been started is cancelled
only if it was told to stop. -/
def advance (p : Pipeline) (id : Nat) (call : Call) : Progress → Work → Option (Pipeline × Progress)
  | .begun, .locate host =>
    let command := p.command call.invocation call.given
    let (p, demangler) := p.demanglerFor host command.program
    some (p, .located ⟨id, call.invocation.source, command, demangler⟩)
  | .located run, .start host =>
    match p.start host run call.invocation.directory with
    | .error e => some (p, .concluded run (.error e))
    | .ok _ => some (p, .started run)
  | .started run, .capture c => some (p, .captured run c)
  | .started run, .fail e =>
    if e = .cancelled ∧ p.isStopped run = false then none
    else some (p, .concluded run (.error e))
  | .captured run c, .conclude => some (p, .concluded run (p.conclude run c))
  | _, _ => none

lemma runs_demanglerFor (p : Pipeline) (host : Host) (compiler : Text) :
    (p.demanglerFor host compiler).1.runs = p.runs := by
  unfold Pipeline.demanglerFor
  split <;> rfl

lemma options_demanglerFor (p : Pipeline) (host : Host) (compiler : Text) :
    (p.demanglerFor host compiler).1.options = p.options := by
  unfold Pipeline.demanglerFor
  split <;> rfl

/-- Progress leaves the registry and the options alone, and a run keeps the number of its call. -/
lemma advance_spec {p q : Pipeline} {id : Nat} {call : Call} {progress next : Progress} {w : Work}
    (h : progress.advance p id call w = some (q, next)) :
    q.runs = p.runs ∧ q.options = p.options ∧
      ∀ run, next.run? = some run → progress.run? = some run ∨ run.id = id := by
  cases progress with
  | begun =>
    cases w with
    | locate host =>
      obtain ⟨rfl, rfl⟩ := Prod.mk.inj (Option.some.inj h)
      refine ⟨runs_demanglerFor p host _, options_demanglerFor p host _, fun run hrun => Or.inr ?_⟩
      exact Option.some.inj hrun ▸ rfl
    | start _ | capture _ | fail _ | conclude => exact absurd h (Option.some_ne_none _).symm
  | located run =>
    cases w with
    | start host =>
      simp only [advance] at h
      split at h
      · obtain ⟨rfl, rfl⟩ := Prod.mk.inj (Option.some.inj h)
        exact ⟨rfl, rfl, fun _ => Or.inl⟩
      · obtain ⟨rfl, rfl⟩ := Prod.mk.inj (Option.some.inj h)
        exact ⟨rfl, rfl, fun _ => Or.inl⟩
    | locate _ | capture _ | fail _ | conclude => exact absurd h (Option.some_ne_none _).symm
  | started run =>
    cases w with
    | capture c =>
      obtain ⟨rfl, rfl⟩ := Prod.mk.inj (Option.some.inj h)
      exact ⟨rfl, rfl, fun _ => Or.inl⟩
    | fail e =>
      simp only [advance] at h
      split at h
      · exact absurd h (Option.some_ne_none _).symm
      · obtain ⟨rfl, rfl⟩ := Prod.mk.inj (Option.some.inj h)
        exact ⟨rfl, rfl, fun _ => Or.inl⟩
    | locate _ | start _ | conclude => exact absurd h (Option.some_ne_none _).symm
  | captured run c =>
    cases w with
    | conclude =>
      obtain ⟨rfl, rfl⟩ := Prod.mk.inj (Option.some.inj h)
      exact ⟨rfl, rfl, fun _ => Or.inl⟩
    | locate _ | start _ | capture _ | fail _ => exact absurd h (Option.some_ne_none _).symm
  | concluded run result =>
    cases w <;> exact absurd h (Option.some_ne_none _).symm

end Progress

namespace Compilations

/-- No call yet. -/
def ofOptions (options : CompileOptions) : Compilations :=
  ⟨.ofOptions options, .empty, [], none, []⟩

def stage? (s : Compilations) (id : Nat) : Option Stage :=
  (s.calls.get? id).map Call.stage

/-- The source file that a call is about. -/
def key? (s : Compilations) (id : Nat) : Option (List Component) :=
  (s.calls.get? id).map fun call => call.invocation.source.key

def isStopped (s : Compilations) (id : Nat) : Bool :=
  s.pipeline.runs.isStopped id

/-- The compilations with another registry. -/
def withRuns (s : Compilations) (runs : RunRegistry) : Compilations :=
  { s with pipeline := { s.pipeline with runs := runs } }

/-- The compilations after a call has come to a stage. -/
def reach (s : Compilations) (id : Nat) (call : Call) (stage : Stage) : Compilations :=
  { s with calls := s.calls.insert id { call with stage := stage } }

/-! ### Steps -/

/-- A call is made: the number of its run is drawn. -/
def draw (s : Compilations) (i : Invocation) (given : List Text) : Compilations :=
  let (runs, id) := s.pipeline.runs.draw
  (s.withRuns runs).reach id ⟨i, given, .drawn⟩ .drawn

/-- The run gets its place. -/
def place (s : Compilations) (id : Nat) (call : Call) : Compilations :=
  let (runs, previous) := s.pipeline.runs.place call.invocation.source id
  { (s.withRuns runs).reach id call (.placed previous) with order := id :: s.order }

/-- The run that had the place is told to stop, and the begin returns. -/
def tell (s : Compilations) (id : Nat) (call : Call) (previous : Option Nat) : Compilations :=
  (s.withRuns (s.pipeline.runs.stopAll previous.toList)).reach id call (.inside .begun)

/-- The run gives its place back, and its call is over. -/
def leave (s : Compilations) (id : Nat) (call : Call) (progress : Progress) : Compilations :=
  (s.withRuns (s.pipeline.runs.finish call.invocation.source id)).reach id call
    (.ended progress.result?)

/-- A cancellation has taken places away, which leads to a registry and the runs to be told. -/
def take (s : Compilations) (runs : RunRegistry) (ids : List Nat) : Compilations :=
  { s.withRuns runs with removal := some ⟨ids, ids⟩ }

/-- A cancellation tells one of its runs to stop. -/
def strike (s : Compilations) (r : Removal) (id : Nat) : Compilations :=
  { s.withRuns (s.pipeline.runs.stop id) with
    removal := some { r with untold := r.untold.filter fun x => x ≠ id } }

/-- A cancellation gives the lock back and returns. -/
def release (s : Compilations) (r : Removal) : Compilations :=
  { s with removal := none, removed := r.taken ++ s.removed }

end Compilations

open Compilations

/-- One step of one of the calls or cancellations. -/
inductive Step : Compilations → Compilations → Prop where
  | draw (s : Compilations) (i : Invocation) (given : List Text) : Step s (s.draw i given)
  | place {s : Compilations} {id : Nat} {call : Call} (hcall : s.calls.get? id = some call)
      (hstage : call.stage = .drawn) (hlock : s.removal = none) : Step s (s.place id call)
  | tell {s : Compilations} {id : Nat} {call : Call} {previous : Option Nat}
      (hcall : s.calls.get? id = some call) (hstage : call.stage = .placed previous) :
      Step s (s.tell id call previous)
  | advance {s : Compilations} {id : Nat} {call : Call} {progress next : Progress} {p : Pipeline}
      (w : Work) (hcall : s.calls.get? id = some call) (hstage : call.stage = .inside progress)
      (hwork : progress.advance s.pipeline id call w = some (p, next)) :
      Step s ({ s with pipeline := p }.reach id call (.inside next))
  /-- A run leaves when it has concluded, or earlier when its caller gives it up. -/
  | leave {s : Compilations} {id : Nat} {call : Call} {progress : Progress}
      (hcall : s.calls.get? id = some call) (hstage : call.stage = .inside progress)
      (hlock : s.removal = none) : Step s (s.leave id call progress)
  | vacate {s : Compilations} (source : Path) (hlock : s.removal = none) :
      Step s (s.take (s.pipeline.runs.vacate source).1 (s.pipeline.runs.vacate source).2.toList)
  | vacateAll {s : Compilations} (hlock : s.removal = none) :
      Step s (s.take s.pipeline.runs.vacateAll.1 s.pipeline.runs.vacateAll.2)
  | strike {s : Compilations} {r : Removal} {id : Nat} (hremoval : s.removal = some r)
      (hid : id ∈ r.untold) : Step s (s.strike r id)
  | release {s : Compilations} {r : Removal} (hremoval : s.removal = some r)
      (htold : r.untold = []) : Step s (s.release r)

/-- What calls and cancellations can lead to, in any interleaving of their steps. -/
inductive Reachable (options : CompileOptions) : Compilations → Prop where
  | start : Reachable options (ofOptions options)
  | step {s t : Compilations} (hs : Reachable options s) (hstep : Step s t) : Reachable options t

namespace Compilations

variable {s : Compilations} {id : Nat} {call : Call}

lemma stage?_reach (s : Compilations) (id : Nat) (call : Call) (stage : Stage) (x : Nat) :
    (s.reach id call stage).stage? x = if x = id then some stage else s.stage? x := by
  have hget : (s.reach id call stage).calls.get? x =
      if x = id then some { call with stage := stage } else s.calls.get? x := Table.get?_insert ..
  rw [stage?, hget]
  split <;> rfl

lemma key?_reach (hcall : s.calls.get? id = some call) (stage : Stage) (x : Nat) :
    (s.reach id call stage).key? x = s.key? x := by
  have hget : (s.reach id call stage).calls.get? x =
      if x = id then some { call with stage := stage } else s.calls.get? x := Table.get?_insert ..
  rw [key?, hget]
  split
  · next hx => rw [hx, key?, hcall]; rfl
  · rfl

lemma stage?_of_call (hcall : s.calls.get? id = some call) : s.stage? id = some call.stage := by
  rw [stage?, hcall]
  rfl

lemma key?_of_call (hcall : s.calls.get? id = some call) :
    s.key? id = some call.invocation.source.key := by
  rw [key?, hcall]
  rfl

end Compilations

/-- A begin that nothing comes between is the begin of the pipeline. -/
theorem begin_undisturbed {options : CompileOptions} {s : Compilations} (h : Reachable options s)
    (hlock : s.removal = none) (host : Host) (i : Invocation) (given : List Text) :
    ∃ t, Reachable options t ∧ t.pipeline = (s.pipeline.begin host i given).1 ∧
      t.stage? s.pipeline.runs.next =
        some (.inside (.located (s.pipeline.begin host i given).2)) := by
  have hget : ∀ (calls : Table Nat Call) (id : Nat) (call : Call),
      (calls.insert id call).get? id = some call :=
    fun calls id call => (Table.get?_insert calls id id call).trans (if_pos rfl)
  have hdraw := h.step (.draw s i given)
  have hplace := hdraw.step (.place (hget _ _ _) rfl hlock)
  have htell := hplace.step (.tell (hget _ _ _) rfl)
  have hlocate := htell.step (.advance (.locate host) (hget _ _ _) rfl rfl)
  exact ⟨_, hlocate, rfl, (stage?_reach _ _ _ _ _).trans (if_pos rfl)⟩

end AsmExplorer.Proofs
