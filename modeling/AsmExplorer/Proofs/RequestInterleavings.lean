import AsmExplorer.Explorer.Basic
import AsmExplorer.Proofs.LateChecks
import AsmExplorer.Proofs.ShellHost
import Mathlib.Logic.Relation

/-!
# Interleavings of requests

Requests that go on at the same time. A request finds its invocation, reads the stamp of the source
file, and looks for the last output. If that is up to date, it cancels the current run of the file
and answers; otherwise it draws a run, and keeps the text when the run has ended. Anything can happen
between these steps, so requests need not get their places in the order in which they were made.
-/

namespace AsmExplorer.Proofs

open Compilations

/-- How far a request has come. -/
inductive Phase where
  | asked
  | resolved (i : Invocation)
  | stamped (i : Invocation) (stamp : Option FileSystem.Stamp)
  /-- It has an answer from the last output. -/
  | reusing (i : Invocation) (t : Text)
  /-- It has taken the place of its file away from the first runs. The second ones, among them those,
  are the runs that had got the place by then. -/
  | cancelling (t : Text) (taken earlier : List Nat)
  | compiling (i : Invocation) (stamp : Option FileSystem.Stamp) (run : Nat)
  | refused (failure : Failure)
  | reused (t : Text) (earlier : List Nat)
  | compiled (run : Nat) (r : Except Failure Text)

structure Request where
  source : Path
  given : List Text
  phase : Phase

/-- Compilations, last outputs and requests. -/
structure Requests where
  compilations : Compilations
  outputs : Outputs
  requests : Table Nat Request
  /-- The number of the next request. -/
  next : Nat

namespace Requests

/-- No request yet. -/
def ofOptions (options : CompileOptions) : Requests :=
  ⟨.ofOptions options, .empty, .empty, 0⟩

def phase? (s : Requests) (id : Nat) : Option Phase :=
  (s.requests.get? id).map Request.phase

/-- The requests after one has come to a phase. -/
def enter (s : Requests) (id : Nat) (r : Request) (phase : Phase) : Requests :=
  { s with requests := s.requests.insert id { r with phase := phase } }

/-- The text that answers a request without a compilation. -/
def kept? (s : Requests) (i : Invocation) (given : List Text) (stamp : Option FileSystem.Stamp) :
    Option Text :=
  stamp.bind fun stamp =>
    s.outputs.upToDate? i.source stamp (s.compilations.pipeline.command i given)

/-! ### Steps -/

/-- A request is made. -/
def ask (s : Requests) (source : Path) (given : List Text) : Requests :=
  { s.enter s.next ⟨source, given, .asked⟩ .asked with next := s.next + 1 }

/-- The runs of a source file that have got a place. -/
def placedFor (s : Requests) (source : Path) : List Nat :=
  s.compilations.order.filter fun a => s.compilations.key? a = some source.key

/-- A request that has an answer takes the place of its file away. -/
def vacate (s : Requests) (id : Nat) (r : Request) (i : Invocation) (t : Text) : Requests :=
  let (runs, taken) := s.compilations.pipeline.runs.vacate i.source
  { s.enter id r (.cancelling t taken.toList (s.placedFor i.source)) with
    compilations := s.compilations.take runs taken.toList }

/-- A request without an answer draws a run. -/
def draw (s : Requests) (id : Nat) (r : Request) (i : Invocation)
    (stamp : Option FileSystem.Stamp) : Requests :=
  { s.enter id r (.compiling i stamp s.compilations.pipeline.runs.next) with
    compilations := s.compilations.draw i r.given }

/-- A request keeps what its run came to, if that is a text and the file had a stamp. -/
def keep (s : Requests) (id : Nat) (r : Request) (i : Invocation)
    (stamp : Option FileSystem.Stamp) (run : Nat) (result : Except Failure Text) : Requests :=
  let outputs := match stamp, result with
    | some stamp, .ok t =>
      s.outputs.store i.source ⟨stamp, s.compilations.pipeline.command i r.given, t⟩
    | _, _ => s.outputs
  { s.enter id r (.compiled run result) with outputs := outputs }

/-- One step of a request, of a run, or of what forgets outputs. A request finds its invocation and
its stamp among the databases and files that are there at that moment. -/
inductive Step : Requests → Requests → Prop where
  | work {s : Requests} {c : Compilations} (hwork : Proofs.Step s.compilations c) :
      Step s { s with compilations := c }
  | forget (s : Requests) (source : Path) : Step s { s with outputs := s.outputs.forget source }
  | clear (s : Requests) : Step s { s with outputs := Table.empty }
  | ask (s : Requests) (source : Path) (given : List Text) : Step s (s.ask source given)
  | resolve {s : Requests} {id : Nat} {r : Request} {e : Explorer} {i : Invocation}
      (hr : s.requests.get? id = some r) (hphase : r.phase = .asked)
      (hfound : (e.invocationFor r.source r.given).2 = .ok i) : Step s (s.enter id r (.resolved i))
  | refuse {s : Requests} {id : Nat} {r : Request} {e : Explorer} {failure : Failure}
      (hr : s.requests.get? id = some r) (hphase : r.phase = .asked)
      (hfound : (e.invocationFor r.source r.given).2 = .error failure) :
      Step s (s.enter id r (.refused failure))
  | read {s : Requests} {id : Nat} {r : Request} {i : Invocation} (host : Host)
      (hr : s.requests.get? id = some r) (hphase : r.phase = .resolved i) :
      Step s (s.enter id r (.stamped i (host.stamp? i.source)))
  | reuse {s : Requests} {id : Nat} {r : Request} {i : Invocation}
      {stamp : Option FileSystem.Stamp} {t : Text} (hr : s.requests.get? id = some r)
      (hphase : r.phase = .stamped i stamp) (hkept : s.kept? i r.given stamp = some t) :
      Step s (s.enter id r (.reusing i t))
  | vacate {s : Requests} {id : Nat} {r : Request} {i : Invocation} {t : Text}
      (hr : s.requests.get? id = some r) (hphase : r.phase = .reusing i t)
      (hlock : s.compilations.removal = none) : Step s (s.vacate id r i t)
  /-- The cancellation has returned. -/
  | answer {s : Requests} {id : Nat} {r : Request} {t : Text} {taken earlier : List Nat}
      (hr : s.requests.get? id = some r) (hphase : r.phase = .cancelling t taken earlier)
      (htold : ∀ a ∈ taken, a ∈ s.compilations.removed) : Step s (s.enter id r (.reused t earlier))
  | draw {s : Requests} {id : Nat} {r : Request} {i : Invocation}
      {stamp : Option FileSystem.Stamp} (hr : s.requests.get? id = some r)
      (hphase : r.phase = .stamped i stamp) (hkept : s.kept? i r.given stamp = none) :
      Step s (s.draw id r i stamp)
  | keep {s : Requests} {id : Nat} {r : Request} {i : Invocation}
      {stamp : Option FileSystem.Stamp} {run : Nat} {result : Except Failure Text}
      (hr : s.requests.get? id = some r) (hphase : r.phase = .compiling i stamp run)
      (hended : s.compilations.stage? run = some (.ended (some result))) :
      Step s (s.keep id r i stamp run result)

/-- What requests, runs and cancellations can lead to, in any interleaving of their steps. -/
inductive Reachable (options : CompileOptions) : Requests → Prop where
  | start : Reachable options (ofOptions options)
  | step {s t : Requests} (hs : Reachable options s) (hstep : Step s t) : Reachable options t

lemma phase?_enter (s : Requests) (id : Nat) (r : Request) (phase : Phase) (x : Nat) :
    (s.enter id r phase).phase? x = if x = id then some phase else s.phase? x := by
  have hget : (s.enter id r phase).requests.get? x =
      if x = id then some { r with phase := phase } else s.requests.get? x := Table.get?_insert ..
  rw [phase?, hget]
  split <;> rfl

/-- A step of requests takes the compilations at most one step further. -/
lemma compilations_step {s t : Requests} (h : Step s t) :
    t.compilations = s.compilations ∨ Proofs.Step s.compilations t.compilations := by
  cases h with
  | work hwork => exact Or.inr hwork
  | vacate hr hphase hlock => exact Or.inr (.vacate _ hlock)
  | draw hr hphase hkept => exact Or.inr (.draw _ _ _)
  | forget | clear | ask | resolve | refuse | read | reuse | answer | keep => exact Or.inl rfl

lemma reachable_compilations {options : CompileOptions} {s : Requests} (h : Reachable options s) :
    Proofs.Reachable options s.compilations := by
  induction h with
  | start => exact .start
  | step _ hstep ih =>
    rcases compilations_step hstep with heq | hwork
    · exact heq ▸ ih
    · exact ih.step hwork

end Requests

/-! ### Requests without interruption -/

/-- Other steps of runs and cancellations may come in between. -/
lemma reachable_work {options : CompileOptions} {s : Requests} {c : Compilations}
    (h : Requests.Reachable options s) (hwork : Relation.ReflTransGen Step s.compilations c) :
    Requests.Reachable options { s with compilations := c } := by
  induction hwork with
  | refl => exact h
  | tail _ hstep ih => exact ih.step (.work hstep)

/-- A cancellation that nothing comes between is the cancellation of the pipeline. -/
lemma cancel_undisturbed (c : Compilations) (source : Path) :
    ∃ c', Relation.ReflTransGen Step
        (c.take (c.pipeline.runs.vacate source).1 (c.pipeline.runs.vacate source).2.toList) c' ∧
      c'.pipeline = (c.pipeline.cancel source).1 ∧
      ∀ a ∈ (c.pipeline.runs.vacate source).2.toList, a ∈ c'.removed := by
  have hcancel : (c.pipeline.cancel source).1 =
      { c.pipeline with
        runs := (c.pipeline.runs.vacate source).1.stopAll
          (c.pipeline.runs.vacate source).2.toList } := rfl
  rw [hcancel]
  generalize c.pipeline.runs.vacate source = vacated
  obtain ⟨runs, previous⟩ := vacated
  cases previous with
  | none =>
    exact ⟨_, .single (.release rfl rfl), rfl, fun a ha => absurd ha List.not_mem_nil⟩
  | some x =>
    have hstrike : Step (c.take runs [x]) _ := .strike rfl List.mem_cons_self
    have hrelease : Step ((c.take runs [x]).strike ⟨[x], [x]⟩ x) _ := .release rfl (by simp)
    exact ⟨_, (Relation.ReflTransGen.single hstrike).tail hrelease, rfl,
      fun a ha => List.mem_append_left _ ha⟩

/-- A request that nothing comes between cancels the current run of its file and is answered, or
begins a run. -/
theorem request_undisturbed {options : CompileOptions} {s : Requests}
    (h : Requests.Reachable options s) (hlock : s.compilations.removal = none) {id : Nat}
    {r : Request} (hr : s.requests.get? id = some r) (hphase : r.phase = .asked) {e : Explorer}
    {i : Invocation} (hfound : (e.invocationFor r.source r.given).2 = .ok i) (host : Host) :
    ∃ t, Requests.Reachable options t ∧ t.outputs = s.outputs ∧
      match s.kept? i r.given (host.stamp? i.source) with
      | some text =>
        t.compilations.pipeline = (s.compilations.pipeline.cancel i.source).1 ∧
          t.phase? id = some (.reused text (s.placedFor i.source))
      | none =>
        t.compilations.pipeline = (s.compilations.pipeline.begin host i r.given).1 ∧
          t.phase? id =
            some (.compiling i (host.stamp? i.source) s.compilations.pipeline.runs.next) ∧
          t.compilations.stage? s.compilations.pipeline.runs.next =
            some (.inside (.located (s.compilations.pipeline.begin host i r.given).2)) := by
  have hget : ∀ (requests : Table Nat Request) (r : Request),
      (requests.insert id r).get? id = some r :=
    fun requests r => (Table.get?_insert requests id id r).trans (if_pos rfl)
  have hphase? : ∀ (u : Requests) (r : Request) (phase : Phase),
      (u.enter id r phase).phase? id = some phase :=
    fun u r phase => (Requests.phase?_enter u id r phase id).trans (if_pos rfl)
  have hread := (h.step (.resolve hr hphase hfound)).step (.read host (hget _ _) rfl)
  cases hkept : s.kept? i r.given (host.stamp? i.source) with
  | some text =>
    have hvacate := (hread.step (.reuse (hget _ _) rfl hkept)).step (.vacate (hget _ _) rfl hlock)
    obtain ⟨c, hwork, hpipeline, htold⟩ := cancel_undisturbed s.compilations i.source
    have hanswer := (reachable_work hvacate hwork).step (.answer (hget _ _) rfl htold)
    exact ⟨_, hanswer, rfl, hpipeline, hphase? _ _ _⟩
  | none =>
    have hcall : ∀ (calls : Table Nat Call) (id : Nat) (call : Call),
        (calls.insert id call).get? id = some call :=
      fun calls id call => (Table.get?_insert calls id id call).trans (if_pos rfl)
    have hdraw := hread.step (.draw (hget _ _) rfl hkept)
    have hplace := hdraw.step (.work (.place (hcall _ _ _) rfl hlock))
    have htell := hplace.step (.work (.tell (hcall _ _ _) rfl))
    have hlocate := htell.step (.work (.advance (.locate host) (hcall _ _ _) rfl rfl))
    exact ⟨_, hlocate, rfl, rfl, hphase? _ _ _, (stage?_reach _ _ _ _ _).trans (if_pos rfl)⟩

/-! ### Runs that have lost their places -/

namespace Compilations

/-- Whether a run that has got a place is held by nothing but begins. -/
def Passed (s : Compilations) (a : Nat) : Prop :=
  a ∈ s.order ∧ ∀ h, s.Holds a h → ∃ d, h = .begin d

/-- What a step keeps of runs that have got a place, and how they can come to be held. -/
structure Grows (s t : Compilations) : Prop where
  order : s.order.Sublist t.order
  key_eq : ∀ x ∈ s.order, t.key? x = s.key? x
  ended : ∀ x result, s.stage? x = some (.ended result) → t.stage? x = some (.ended result)
  removed : ∀ a ∈ s.removed, a ∈ t.removed
  held : ∀ a h, t.Holds a h → s.Holds a h ∨ (∃ d, h = .begin d ∧ t.Follows d a) ∨
    (h = .removal ∧ ∃ key, s.Holds a (.place key)) ∨ (a ∉ s.order ∧ ∃ key, h = .place key)

variable {s t : Compilations} {a b d id : Nat} {call : Call} {h : Holder}

lemma follows_mono (hg : Grows s t) (h : s.Follows b a) : t.Follows b a := by
  have hb : b ∈ s.order := h.1.subset List.mem_cons_self
  have ha : a ∈ s.order := h.1.subset (List.mem_cons_of_mem b List.mem_cons_self)
  refine ⟨h.1.trans hg.order, ?_⟩
  rw [hg.key_eq b hb, hg.key_eq a ha]
  exact h.2

lemma passed_mono (hg : Grows s t) (h : s.Passed a) : t.Passed a := by
  refine ⟨hg.order.subset h.1, fun holder hheld => ?_⟩
  rcases hg.held a holder hheld with hheld | ⟨d, rfl, -⟩ | ⟨-, key, hplace⟩ | ⟨hnew, -⟩
  · exact h.2 holder hheld
  · exact ⟨d, rfl⟩
  · obtain ⟨d, hd⟩ := h.2 _ hplace
    exact Holder.noConfusion hd
  · exact absurd h.1 hnew

lemma grows_refl (s : Compilations) : Grows s s :=
  ⟨List.Sublist.refl _, fun _ _ => rfl, fun _ _ h => h, fun _ h => h, fun _ _ h => Or.inl h⟩

lemma grows_of_narrows (hn : Narrows s t) (hremoved : ∀ a ∈ s.removed, a ∈ t.removed) :
    Grows s t where
  order := hn.order_eq ▸ List.Sublist.refl _
  key_eq x _ := hn.key_eq x
  ended x result hx := by
    rcases hn.stage_cases x with heq | ⟨old, new, hold, -, -, -, hne⟩
    · exact heq.trans hx
    · exact absurd (Option.some.inj (hold.symm.trans hx)) (hne result)
  removed := hremoved
  held a h hheld := Or.inl (hn.held a h hheld)

lemma grows_draw (hs : Sound s) (i : Invocation) (given : List Text) :
    Grows s (s.draw i given) where
  order := List.Sublist.refl _
  key_eq x hx := by
    obtain ⟨stage, hold, -⟩ := (hs.placed_iff x).mp hx
    have hne : x ≠ s.pipeline.runs.next := Nat.ne_of_lt (hs.known_lt x stage hold)
    have hget : (s.draw i given).calls.get? x =
        if x = s.pipeline.runs.next then some ⟨i, given, .drawn⟩ else s.calls.get? x :=
      Table.get?_insert ..
    rw [key?, hget, if_neg hne]
    rfl
  ended x result hx := by
    have hne : x ≠ s.pipeline.runs.next := Nat.ne_of_lt (hs.known_lt x _ hx)
    have hstage : (s.draw i given).stage? x =
        if x = s.pipeline.runs.next then some .drawn else s.stage? x := stage?_reach ..
    rw [hstage, if_neg hne]
    exact hx
  removed _ ha := ha
  held a h hheld := Or.inl ((holds_draw s i given (stage?_next hs)).mp hheld)

/-- The begin of a run that gets a place holds the run that had it, which it follows. -/
lemma grows_place (hs : Sound s) (hcall : s.calls.get? id = some call)
    (hdrawn : call.stage = .drawn) : Grows s (s.place id call) where
  order := List.sublist_cons_self id s.order
  key_eq x _ := key?_reach (s := s.withRuns _) hcall _ x
  ended x result hx := by
    have hne : x ≠ id := by
      rintro rfl
      rw [stage?_of_call hcall, hdrawn] at hx
      exact Stage.noConfusion (Option.some.inj hx)
    have hstage : (s.place id call).stage? x = if x = id then
        some (.placed (s.pipeline.runs.current.get? call.invocation.source.key))
        else s.stage? x := stage?_reach ..
    rw [hstage, if_neg hne]
    exact hx
  removed _ ha := ha
  held a h hheld := by
    have hkey : ∀ x, (s.place id call).key? x = s.key? x := key?_reach (s := s.withRuns _) hcall _
    rcases (holds_place hcall hdrawn).mp hheld with ⟨heq, rfl⟩ | ⟨heq, hbefore⟩ | ⟨-, hbefore⟩
    · exact Or.inr (Or.inr (Or.inr ⟨not_mem_of_drawn hs hcall hdrawn, _, heq⟩))
    · have ha := hs.held_placed a _ hbefore
      refine Or.inr (Or.inl ⟨id, heq, (List.singleton_sublist.mpr ha).cons_cons id, ?_⟩)
      rw [hkey, hkey, key?_of_call hcall, hs.place_key a _ hbefore]
    · exact Or.inl hbefore

lemma grows_take {runs : RunRegistry} {ids : List Nat} (hs : Sound s) (hlock : s.removal = none)
    (ht : Takes s.pipeline.runs runs ids) : Grows s (s.take runs ids) where
  order := List.Sublist.refl _
  key_eq _ _ := rfl
  ended _ _ hx := hx
  removed _ ha := ha
  held a h hheld := by
    rcases (holds_take hs hlock ht).mp hheld with ⟨heq, hmem⟩ | ⟨-, hheld⟩
    · exact Or.inr (Or.inr (Or.inl ⟨heq, ht.taken a hmem⟩))
    · exact Or.inl hheld

lemma grows_step (hs : Sound s) (hstep : Step s t) : Grows s t := by
  cases hstep with
  | draw i given => exact grows_draw hs i given
  | place hcall hstage hlock => exact grows_place hs hcall hstage
  | tell hcall hstage => exact grows_of_narrows (narrows_tell hcall hstage) fun _ ha => ha
  | advance w hcall hstage hwork =>
    exact grows_of_narrows (narrows_advance hcall hstage (Progress.advance_spec hwork).1)
      fun _ ha => ha
  | leave hcall hstage _ => exact grows_of_narrows (narrows_leave hcall hstage) fun _ ha => ha
  | vacate source hlock => exact grows_take hs hlock (takes_vacate hs source)
  | vacateAll hlock => exact grows_take hs hlock (takes_vacateAll _)
  | strike hremoval hid => exact grows_of_narrows (narrows_strike hremoval hid) fun _ ha => ha
  | release hremoval htold =>
    exact grows_of_narrows (narrows_release hremoval htold) fun _ ha => List.mem_append_right _ ha

/-- A begin tells only runs to stop that got their places earlier than its own. -/
def Orderly (s : Compilations) : Prop :=
  ∀ d a, s.Owes d a → s.Follows d a

lemma orderly_step (hs : Sound s) (ho : Orderly s) (hstep : Step s t) : Orderly t := by
  have hg := grows_step hs hstep
  intro d a howes
  rcases hg.held a (.begin d) howes with hold | ⟨d', heq, hfollows⟩ | ⟨heq, -⟩ | ⟨-, key, heq⟩
  · exact follows_mono hg (ho d a hold)
  · exact Holder.begin.inj heq ▸ hfollows
  · exact Holder.noConfusion heq
  · exact Holder.noConfusion heq

lemma orderly_of_reachable {options : CompileOptions} (h : Reachable options s) : Orderly s := by
  induction h with
  | start => exact fun d a howes => absurd howes (Option.some_ne_none _).symm
  | step hs hstep ih => exact orderly_step (sound_of_reachable hs) ih hstep

/-- Only begins hold a run that is placed and has lost the place before a cancellation takes it. -/
lemma passed_take {source : Path} (hs : Sound s) (hlock : s.removal = none) (ha : a ∈ s.order)
    (hkey : s.key? a = some source.key) (hnot : a ∉ (s.pipeline.runs.vacate source).2.toList) :
    s.Passed a := by
  refine ⟨ha, fun h hheld => ?_⟩
  cases h with
  | place key =>
    obtain rfl := Option.some.inj (hkey.symm.trans (hs.place_key a key hheld))
    exact absurd (Option.mem_toList.mpr hheld) hnot
  | begin d => exact ⟨d, rfl⟩
  | removal =>
    obtain ⟨r, hr, -⟩ := hheld
    exact absurd (hlock.symm.trans hr) (Option.some_ne_none r).symm

end Compilations

/-! ### Requests that have been answered -/

/-- What a phase tells about runs. A request that cancels the runs of its file, and one that has done
so, leaves none of the earlier ones at the place. -/
def Phase.Settled (c : Compilations) : Phase → Prop
  | .cancelling _ taken earlier => ∀ a ∈ earlier, a ∈ taken ∨ c.Passed a
  | .reused _ earlier => ∀ a ∈ earlier, a ∈ c.removed ∨ c.Passed a
  | .compiled run r => c.stage? run = some (.ended (some r))
  | _ => True

lemma Phase.settled_mono {c c' : Compilations} {phase : Phase} (hg : Grows c c')
    (h : phase.Settled c) : phase.Settled c' := by
  cases phase with
  | cancelling t taken earlier => exact fun a ha => (h a ha).imp_right (passed_mono hg)
  | reused t earlier => exact fun a ha => (h a ha).imp (hg.removed a) (passed_mono hg)
  | compiled run r => exact hg.ended run _ h
  | asked | resolved | stamped | reusing | compiling | refused => trivial

namespace Requests

def Settled (s : Requests) : Prop :=
  ∀ id phase, s.phase? id = some phase → phase.Settled s.compilations

variable {s t : Requests}

lemma settled_enter {c : Compilations} {outputs : Outputs} {next id : Nat} {r : Request}
    {phase : Phase} (hs : Settled s) (hg : Grows s.compilations c) (hphase : phase.Settled c) :
    Settled { s.enter id r phase with compilations := c, outputs := outputs, next := next } := by
  intro x phase' hx
  have hget : (s.enter id r phase).phase? x = some phase' := hx
  rw [phase?_enter] at hget
  split at hget
  · exact Option.some.inj hget ▸ hphase
  · exact Phase.settled_mono hg (hs x phase' hget)

lemma settled_step (hsound : Sound s.compilations) (hs : Settled s) (hstep : Step s t) :
    Settled t := by
  have hsame := grows_refl s.compilations
  cases hstep with
  | work hwork => exact fun id phase h => Phase.settled_mono (grows_step hsound hwork) (hs id phase h)
  | forget | clear => exact hs
  | ask | resolve | refuse | read | reuse => exact settled_enter hs hsame trivial
  | @vacate id r i t hr hphase hlock =>
    have hg := grows_step hsound (.vacate i.source hlock)
    refine settled_enter hs hg fun a ha => ?_
    obtain ⟨hplaced, hkey⟩ := List.mem_filter.mp ha
    by_cases hmem : a ∈ (s.compilations.pipeline.runs.vacate i.source).2.toList
    · exact Or.inl hmem
    · exact Or.inr (passed_mono hg (passed_take hsound hlock hplaced (by simpa using hkey) hmem))
  | @answer id r t taken earlier hr hphase htold =>
    refine settled_enter hs hsame fun a ha => ?_
    have hcancelled : s.phase? id = some (.cancelling t taken earlier) := by
      rw [phase?, hr, Option.map_some, hphase]
    exact (hs id _ hcancelled a ha).imp_left (htold a)
  | draw hr hphase hkept =>
    exact settled_enter hs (grows_draw hsound _ _) trivial
  | keep hr hphase hended => exact settled_enter hs hsame hended

lemma settled_of_reachable {options : CompileOptions} (h : Reachable options s) : Settled s := by
  induction h with
  | start => exact fun id phase hid => absurd hid (Option.some_ne_none _).symm
  | step hs hstep ih => exact settled_step (sound_of_reachable (reachable_compilations hs)) ih hstep

end Requests

/-- What the answers to requests mean for runs of the same file that got their places earlier. -/
structure LaterWins (s : Requests) : Prop where
  /-- A begin tells only runs of its file to stop that got their places earlier than its own. -/
  tells : ∀ d a, s.compilations.Owes d a → s.compilations.Follows d a
  /-- Once a request is answered with the text of its run, a run that got its place before that one
  passes its check only while the begin of a third one has yet to tell it to stop. -/
  compiled : ∀ id b t, s.phase? id = some (.compiled b (.ok t)) →
    ∀ a run c, s.compilations.AtCheck a run c → s.compilations.Follows b a →
      (s.compilations.Delivers run c ↔ Succeeds c ∧ ∃ d, d ≠ b ∧ s.compilations.Owes d a)
  /-- Once a request is answered from an output, the same is true of a run that got its place before
  the request took it away. -/
  reused : ∀ id t earlier, s.phase? id = some (.reused t earlier) →
    ∀ a ∈ earlier, ∀ run c, s.compilations.AtCheck a run c →
      (s.compilations.Delivers run c ↔ Succeeds c ∧ ∃ d, s.compilations.Owes d a)

/-- In every interleaving the request whose run gets its place later wins, up to begins that are on
their way to tell a run to stop. -/
theorem laterWins_of_reachable {options : CompileOptions} {s : Requests}
    (h : Requests.Reachable options s) : LaterWins s := by
  have hreach := Requests.reachable_compilations h
  have hsettled := Requests.settled_of_reachable h
  have hsound := sound_of_reachable hreach
  have hnumbered := numbered_of_reachable hreach
  refine ⟨orderly_of_reachable hreach, ?_, ?_⟩
  · intro id b t hid a run c hcheck hfollows
    have hended : s.compilations.stage? b = some (.ended (some (.ok t))) := hsettled id _ hid
    exact delivers_iff_owed hsound hnumbered hcheck hfollows ⟨_, hended, trivial⟩
  · intro id t earlier hid a ha run c hcheck
    rw [delivers_iff_held hsound hnumbered hcheck]
    refine and_congr_right fun _ => ⟨?_, fun ⟨d, howes⟩ => ⟨.begin d, howes⟩⟩
    rintro ⟨holder, hheld⟩
    rcases hsettled id _ hid a ha with hremoved | hpassed
    · have hstopped := (told_of_reachable hreach).removed a hremoved
      have hunstopped := hsound.held_unstopped a holder hheld
      exact absurd (hunstopped.symm.trans hstopped) Bool.false_ne_true
    · obtain ⟨d, rfl⟩ := hpassed.2 holder hheld
      exact ⟨d, hheld⟩

/-! ### Two requests for one file -/

def trueRequest : Request := ⟨.ofString "/main.c", ["/true".toList], .asked⟩

def trueExplorer : Explorer := .ofSettings trueHost {}

lemma invocationFor_trueRequest :
    (trueExplorer.invocationFor trueRequest.source trueRequest.given).2 = .ok trueInvocation := by
  have hfound : (trueExplorer.invocationFor trueRequest.source trueRequest.given).2.toOption =
      some trueInvocation := by decide +kernel
  cases hout : (trueExplorer.invocationFor trueRequest.source trueRequest.given).2 with
  | error failure =>
    rw [hout] at hfound
    exact absurd hfound (Option.some_ne_none _).symm
  | ok i =>
    rw [hout] at hfound
    exact congrArg Except.ok (Option.some.inj hfound)

/-- The first run is at its check when the second request is answered. -/
theorem laterWins_of_true_runs :
    ∃ s run c, Requests.Reachable trueOptions s ∧ s.phase? 1 = some (.compiled 1 (.ok [])) ∧
      s.compilations.AtCheck 0 run c ∧ s.compilations.Follows 1 0 ∧
      ¬s.compilations.Delivers run c := by
  have h0 : Requests.Reachable trueOptions _ := .start
  have h1 := h0.step (.ask _ trueRequest.source trueRequest.given)
  have h2 := h1.step (.ask _ trueRequest.source trueRequest.given)
  have h3 := h2.step (@Requests.Step.resolve _ 0 trueRequest _ _ rfl rfl invocationFor_trueRequest)
  have h4 := h3.step (@Requests.Step.read _ 0 _ _ trueHost rfl rfl)
  have h5 := h4.step (@Requests.Step.draw _ 0 _ _ _ rfl rfl rfl)
  have h6 := (h5.step (.work (@Step.place _ 0 _ rfl rfl rfl))).step
    (.work (@Step.tell _ 0 _ _ rfl rfl))
  have h7 := h6.step (.work (@Step.advance _ 0 _ _ _ _ (.locate trueHost) rfl rfl rfl))
  have h8 := h7.step (.work
    (@Step.advance _ 0 _ _ _ _ (.start trueHost) rfl rfl (advance_trueRun rfl rfl)))
  have h9 := h8.step (.work (@Step.advance _ 0 _ _ _ _ (.capture emptyCapture) rfl rfl rfl))
  have h10 := h9.step (@Requests.Step.resolve _ 1 trueRequest _ _ rfl rfl invocationFor_trueRequest)
  have h11 := h10.step (@Requests.Step.read _ 1 _ _ trueHost rfl rfl)
  have h12 := h11.step (@Requests.Step.draw _ 1 _ _ _ rfl rfl rfl)
  have h13 := (h12.step (.work (@Step.place _ 1 _ rfl rfl rfl))).step
    (.work (@Step.tell _ 1 _ _ rfl rfl))
  have h14 := h13.step (.work (@Step.advance _ 1 _ _ _ _ (.locate trueHost) rfl rfl rfl))
  have h15 := h14.step (.work
    (@Step.advance _ 1 _ _ _ _ (.start trueHost) rfl rfl (advance_trueRun rfl rfl)))
  have h16 := h15.step (.work (@Step.advance _ 1 _ _ _ _ (.capture emptyCapture) rfl rfl rfl))
  have h17 := h16.step (.work (@Step.advance _ 1 _ _ _ _ .conclude rfl rfl rfl))
  have h18 := h17.step (.work (@Step.leave _ 1 _ _ rfl rfl rfl))
  have h19 := h18.step (@Requests.Step.keep _ 1 _ _ _ _ _ rfl rfl rfl)
  refine ⟨_, _, _, h19, rfl, rfl, ⟨by decide, rfl⟩, ?_⟩
  have hlaws := laterWins_of_reachable h19
  rw [hlaws.compiled 1 1 [] rfl 0 _ _ rfl ⟨by decide, rfl⟩]
  rintro ⟨-, d, hne, howes⟩
  have horder : [d, 0].Sublist [1, 0] := (hlaws.tells d 0 howes).1
  rcases pair_sublist_cons horder with hshort | ⟨heq, -⟩
  · exact absurd hshort.length_le (by simp)
  · exact hne heq

/-- The second request for a file has a run. The lookup for the first one took longer, so that its
run takes the place and is about to tell the other one to stop. -/
theorem earlier_request_cancels_later :
    ∃ s, Requests.Reachable trueOptions s ∧
      s.phase? 0 = some (.compiling trueInvocation none 1) ∧
      s.phase? 1 = some (.compiling trueInvocation none 0) ∧ s.compilations.Owes 1 0 := by
  have h0 : Requests.Reachable trueOptions _ := .start
  have h1 := h0.step (.ask _ trueRequest.source trueRequest.given)
  have h2 := h1.step (.ask _ trueRequest.source trueRequest.given)
  have h3 := h2.step (@Requests.Step.resolve _ 1 trueRequest _ _ rfl rfl invocationFor_trueRequest)
  have h4 := h3.step (@Requests.Step.read _ 1 _ _ trueHost rfl rfl)
  have h5 := h4.step (@Requests.Step.draw _ 1 _ _ _ rfl rfl rfl)
  have h6 := h5.step (.work (@Step.place _ 0 _ rfl rfl rfl))
  have h7 := h6.step (.work (@Step.tell _ 0 _ _ rfl rfl))
  have h8 := h7.step (@Requests.Step.resolve _ 0 trueRequest _ _ rfl rfl invocationFor_trueRequest)
  have h9 := h8.step (@Requests.Step.read _ 0 _ _ trueHost rfl rfl)
  have h10 := h9.step (@Requests.Step.draw _ 0 _ _ _ rfl rfl rfl)
  have h11 := h10.step (.work (@Step.place _ 1 _ rfl rfl rfl))
  exact ⟨_, h11, rfl, rfl, rfl⟩

/-- A file that is not there yet, and a slow and a fast compiler for it. -/
def lateHost : Host :=
  shellHost [("sleep", .program "sleep".toList), ("slow.sh", textFile "sleep 1\necho older\n"),
    ("fast.sh", textFile "echo newer\n")]

/-- The first of two requests for one path is made before the file is there, and its compilation goes
on while the file is written and the second one is answered. -/
def lateAnswers (p : Path) : Option Text × Option (Except Failure Text) × Option Text :=
  let first := (Explorer.ofSettings lateHost shellSettings).request p ["sh".toList, "/slow.sh".toList]
  let files := first.1.host.files.put ["main.c".toList] (textFile "int x;\n")
  let second := (first.1.withFiles files).compile p ["sh".toList, "/fast.sh".toList]
  (second.2.toOption, second.1.session.result? 0, (second.1.wait 0).2.toOption)

set_option maxRecDepth 10000 in
/-- The earlier request is answered with a text after the later one. -/
theorem earlier_request_answers_last :
    (lateAnswers (.ofString "main.c")).1 = some "newer".toList ∧
      (lateAnswers (.ofString "main.c")).2.1.isNone = true ∧
      (lateAnswers (.ofString "main.c")).2.2 = some "older".toList :=
  ⟨by decide +kernel, by decide +kernel, by decide +kernel⟩

end AsmExplorer.Proofs
