import AsmExplorer.Proofs.RequestInterleavings
import Mathlib.Logic.Function.Basic
import Mathlib.Logic.Relation

/-!
# Runs that are told to stop

A run looks whether it is to stop before its programs start, each time it wakes up while they work,
and when both of them have succeeded. It can be told to stop at any moment between a look and what
follows from it. Then its programs start all the same, or fail to, or what they have come to is taken
all the same; and the failure of a program is reported without another look.
-/

namespace AsmExplorer.Proofs

open Compilations

/-- Starts the programs of a run without looking whether it is to stop. -/
def launch (host : Host) (run : Run) (directory : Path) : Except Failure (Process × Process) :=
  match Toolchain.startCompiler host run.command directory with
  | .error e => .error e
  | .ok compiler =>
    match Toolchain.startDemangler host run.demangler with
    | .error e => .error e
    | .ok demangler => .ok (compiler, demangler)

lemma start_eq (p : Pipeline) (host : Host) (run : Run) (directory : Path) :
    p.start host run directory =
      if p.isStopped run then .error .cancelled else launch host run directory := rfl

/-- The run, if it is at a point where it looks whether it is to stop. -/
def Progress.looking? : Progress → Option Run
  | .located run => some run
  | .started run => some run
  | _ => none

/-- What a run does next. The mark says that it has just looked and was not to stop: without it
nothing is started and nothing is taken from the programs. -/
inductive Move (p : Pipeline) (id : Nat) (call : Call) :
    Progress → Bool → Pipeline → Progress → Bool → Prop where
  | locate {host : Host} {q : Pipeline} {demangler : Path} (mark : Bool)
      (hfound : p.demanglerFor host (p.command call.invocation call.given).program =
        (q, demangler)) :
      Move p id call .begun mark q
        (.located ⟨id, call.invocation.source, p.command call.invocation call.given, demangler⟩) false
  | pass {progress : Progress} {run : Run} (hlook : progress.looking? = some run)
      (hstopped : p.isStopped run = false) : Move p id call progress false p progress true
  | halt {progress : Progress} {run : Run} (hlook : progress.looking? = some run)
      (hstopped : p.isStopped run = true) :
      Move p id call progress false p (.concluded run (.error .cancelled)) false
  | launch {run : Run} {host : Host} {programs : Process × Process}
      (hlaunch : launch host run call.invocation.directory = .ok programs) :
      Move p id call (.located run) true p (.started run) false
  | notStarted {run : Run} {host : Host} {e : Failure}
      (hlaunch : launch host run call.invocation.directory = .error e) :
      Move p id call (.located run) true p (.concluded run (.error e)) false
  /-- The programs are not done, and the run sleeps until something happens. -/
  | sleep (run : Run) : Move p id call (.started run) true p (.started run) false
  | capture (run : Run) (c : Capture) :
      Move p id call (.started run) true p (.captured run c) false
  | expire (run : Run) :
      Move p id call (.started run) true p
        (.concluded run (.error (.timedOut p.options.timeout))) false
  /-- What the programs write cannot be passed on or caught. -/
  | breakOff (run : Run) (reason : Text) :
      Move p id call (.started run) true p (.concluded run (.error (.io reason))) false
  | conclude (run : Run) (c : Capture) (mark : Bool) :
      Move p id call (.captured run c) mark p (.concluded run (p.conclude run c)) false

/-- Compilations, and the runs that have just looked and were not to stop. -/
structure CheckedRuns where
  compilations : Compilations
  mark : Nat → Bool

namespace CheckedRuns

def ofOptions (options : CompileOptions) : CheckedRuns :=
  ⟨.ofOptions options, fun _ => false⟩

def stage? (s : CheckedRuns) (a : Nat) : Option Stage := s.compilations.stage? a

def isStopped (s : CheckedRuns) (a : Nat) : Bool := s.compilations.isStopped a

/-- What a run has come to, if its caller has not given it up before. -/
def result? (s : CheckedRuns) (a : Nat) : Option (Except Failure Text) :=
  match s.stage? a with
  | some (.inside progress) => progress.result?
  | some (.ended result) => result
  | _ => none

def moved (s : CheckedRuns) (id : Nat) (call : Call) (p : Pipeline) (next : Progress)
    (mark : Bool) : CheckedRuns :=
  ⟨{ s.compilations with pipeline := p }.reach id call (.inside next),
    Function.update s.mark id mark⟩

/-- One step: of a begin, of an end or of a cancellation, which moves no run on, or a move of one. -/
inductive Step : CheckedRuns → CheckedRuns → Prop where
  | aside {s : CheckedRuns} {c : Compilations} (hstep : Proofs.Step s.compilations c)
      (hstill : ∀ id progress, s.stage? id = some (.inside progress) →
        c.stage? id = some (.inside progress) ∨ c.stage? id = some (.ended progress.result?)) :
      Step s ⟨c, s.mark⟩
  | move {s : CheckedRuns} {id : Nat} {call : Call} {progress next : Progress} {p : Pipeline}
      {mark : Bool} (hcall : s.compilations.calls.get? id = some call)
      (hstage : call.stage = .inside progress)
      (hmove : Move s.compilations.pipeline id call progress (s.mark id) p next mark) :
      Step s (s.moved id call p next mark)

abbrev Steps : CheckedRuns → CheckedRuns → Prop := Relation.ReflTransGen Step

def Reachable (options : CompileOptions) (s : CheckedRuns) : Prop :=
  Steps (ofOptions options) s

end CheckedRuns

/-- What a run that was told to stop can come to from where it is. -/
def Call.MayCome (call : Call) (timeout : Nat) (mark : Bool) (r : Except Failure Text) : Prop :=
  match call.stage with
  | .inside (.located run) => r = .error .cancelled ∨
    mark = true ∧ ∃ host e, launch host run call.invocation.directory = .error e ∧ r = .error e
  | .inside (.started run) => r = .error .cancelled ∨
    mark = true ∧ (r = .error (.timedOut timeout) ∨ (∃ reason, r = .error (.io reason)) ∨
      ∃ c : Capture, r = c.conclude run.command.program run.demangler.text true)
  | .inside (.captured run c) => r = c.conclude run.command.program run.demangler.text true
  | .inside (.concluded _ result) => r = result
  | .ended result => result = some r
  | _ => r = .error .cancelled

/-- Whether a run looks whether it is to stop before anything can come of it. -/
def Stage.MustLook (mark : Bool) : Stage → Prop
  | .inside (.located _) => mark = false
  | .inside (.started _) => mark = false
  | .inside (.captured _ _) => False
  | .inside (.concluded _ _) => False
  | .ended _ => False
  | _ => True

namespace CheckedRuns

def MayCome (s : CheckedRuns) (a : Nat) (r : Except Failure Text) : Prop :=
  ∃ call, s.compilations.calls.get? a = some call ∧
    call.MayCome s.compilations.pipeline.options.timeout (s.mark a) r

def MustLook (s : CheckedRuns) (a : Nat) : Prop :=
  ∃ stage, s.stage? a = some stage ∧ stage.MustLook (s.mark a)

end CheckedRuns

/-! ### What every interleaving keeps -/

section

variable {p q : Pipeline} {id : Nat} {call : Call} {progress next : Progress} {mark mark' : Bool}

lemma looking_cases {run : Run} (h : progress.looking? = some run) :
    progress = .located run ∨ progress = .started run := by
  cases progress with
  | located run' => exact .inl (congrArg _ (Option.some.inj h))
  | started run' => exact .inr (congrArg _ (Option.some.inj h))
  | begun | captured | concluded => cases h

/-- A move leaves the registry and the options alone, and a run keeps the number of its call. -/
lemma move_spec (h : Move p id call progress mark q next mark') :
    q.runs = p.runs ∧ q.options = p.options ∧
      ∀ run, next.run? = some run → progress.run? = some run ∨ run.id = id := by
  cases h with
  | @locate host _ _ _ hfound =>
    have hruns := Progress.runs_demanglerFor p host (p.command call.invocation call.given).program
    have hoptions :=
      Progress.options_demanglerFor p host (p.command call.invocation call.given).program
    rw [hfound] at hruns hoptions
    refine ⟨hruns, hoptions, fun run hrun => Or.inr ?_⟩
    exact Option.some.inj hrun ▸ rfl
  | halt hlook =>
    refine ⟨rfl, rfl, fun run hrun => Or.inl ?_⟩
    obtain rfl := Option.some.inj hrun
    rcases looking_cases hlook with rfl | rfl <;> rfl
  | pass | launch | notStarted | sleep | capture | expire | breakOff | conclude =>
    exact ⟨rfl, rfl, fun _ => Or.inl⟩

end

namespace CheckedRuns

variable {options : CompileOptions} {s t : CheckedRuns} {a b id : Nat} {call : Call} {p : Pipeline}
  {progress next : Progress} {mark : Bool} {r : Except Failure Text}

lemma get?_moved (s : CheckedRuns) (id : Nat) (call : Call) (p : Pipeline) (next : Progress)
    (mark : Bool) (x : Nat) :
    (s.moved id call p next mark).compilations.calls.get? x =
      if x = id then some { call with stage := .inside next } else s.compilations.calls.get? x :=
  Table.get?_insert ..

lemma step_move {mark' : Bool}
    (hcall : s.compilations.calls.get? id = some call) (hstage : call.stage = .inside progress)
    (hmark : s.mark id = mark)
    (hmove : Move s.compilations.pipeline id call progress mark p next mark') :
    Step s (s.moved id call p next mark') := by
  subst hmark
  exact .move hcall hstage hmove

lemma stage?_moved (s : CheckedRuns) (id : Nat) (call : Call) (p : Pipeline) (next : Progress)
    (mark : Bool) : (s.moved id call p next mark).stage? id = some (.inside next) :=
  (stage?_reach _ id call _ id).trans (if_pos rfl)

lemma result?_moved (s : CheckedRuns) (id : Nat) (call : Call) (p : Pipeline) (next : Progress)
    (mark : Bool) : (s.moved id call p next mark).result? id = next.result? := by
  rw [result?, stage?_moved]

/-- A look and a start that nothing comes between are the start of the pipeline. -/
theorem start_undisturbed {run : Run} (hcall : s.compilations.calls.get? id = some call)
    (hstage : call.stage = .inside (.located run)) (hmark : s.mark id = false) (host : Host) :
    ∃ t, Steps s t ∧ t.compilations.pipeline = s.compilations.pipeline ∧
      t.stage? id = some (.inside
        (match s.compilations.pipeline.start host run call.invocation.directory with
          | .error e => .concluded run (.error e)
          | .ok _ => .started run)) := by
  rw [start_eq]
  cases hstopped : s.compilations.pipeline.isStopped run with
  | true =>
    have hhalt := step_move hcall hstage hmark (.halt rfl hstopped)
    exact ⟨_, .single hhalt, rfl, stage?_moved ..⟩
  | false =>
    have hpass := step_move hcall hstage hmark (.pass rfl hstopped)
    have hcall' := (get?_moved s id call s.compilations.pipeline (.located run) true id).trans
      (if_pos rfl)
    have hmark' : (s.moved id call s.compilations.pipeline (.located run) true).mark id = true :=
      Function.update_self ..
    cases hlaunch : launch host run call.invocation.directory with
    | error e =>
      have hlast := step_move hcall' rfl hmark' (.notStarted hlaunch)
      exact ⟨_, (Relation.ReflTransGen.single hpass).tail hlast, rfl, stage?_moved ..⟩
    | ok programs =>
      have hlast := step_move hcall' rfl hmark' (.launch hlaunch)
      exact ⟨_, (Relation.ReflTransGen.single hpass).tail hlast, rfl, stage?_moved ..⟩

/-- The invariants of compilations, which no move of a run touches. -/
structure Kept (s : CheckedRuns) : Prop where
  sound : Sound s.compilations
  told : Told s.compilations
  numbered : Numbered s.compilations

lemma narrows_moved (hcall : s.compilations.calls.get? id = some call)
    (hstage : call.stage = .inside progress) (hruns : p.runs = s.compilations.pipeline.runs)
    (next : Progress) (mark : Bool) :
    Narrows s.compilations (s.moved id call p next mark).compilations :=
  narrows_advance hcall hstage hruns

lemma kept_step (hs : Kept s) (hstep : Step s t) : Kept t := by
  cases hstep with
  | aside hstep _ =>
    exact ⟨sound_step hs.sound hstep, told_step hs.told hstep, numbered_step hs.numbered hstep⟩
  | @move id call progress next p mark hcall hstage hmove =>
    obtain ⟨hruns, -, hrun⟩ := move_spec hmove
    have hn := narrows_moved hcall hstage hruns next mark
    refine ⟨sound_of_narrows hs.sound hn, ?_, ?_⟩
    · refine ⟨fun r hr a ha => ?_, fun a ha => hn.stopped_mono a (hs.told.removed a ha)⟩
      exact (hs.told.taken r hr a ha).imp_right (hn.stopped_mono a)
    · refine numbered_reach hs.numbered (stage?_reach _ _ _ _) fun progress' run heq hrun' => ?_
      rw [← Stage.inside.inj heq] at hrun'
      rcases hrun run hrun' with hbefore | hid
      · exact hs.numbered id progress run ((stage?_of_call hcall).trans (congrArg some hstage)) hbefore
      · exact hid

lemma kept_of_reachable (h : Reachable options s) : Kept s := by
  induction h with
  | refl =>
    have hstart : Proofs.Reachable options (.ofOptions options) := .start
    exact ⟨sound_of_reachable hstart, told_of_reachable hstart, numbered_of_reachable hstart⟩
  | tail _ hstep ih => exact kept_step ih hstep

lemma isStopped_step (hstep : Step s t) (ha : s.isStopped a = true) : t.isStopped a = true := by
  cases hstep with
  | aside hstep _ => exact stopped_step hstep ha
  | move hcall hstage hmove =>
    exact (narrows_moved hcall hstage (move_spec hmove).1 _ _).stopped_mono a ha

lemma stopped_run (hs : Kept s) (hstopped : s.isStopped a = true)
    (hcall : s.compilations.calls.get? a = some call) {run : Run}
    (hstage : call.stage = .inside progress) (hrun : progress.run? = some run) :
    s.compilations.pipeline.isStopped run = true := by
  have hid := hs.numbered a progress run ((stage?_of_call hcall).trans (congrArg some hstage)) hrun
  rw [Pipeline.isStopped, hid]
  exact hstopped

/-! ### What stopped runs can come to -/

end CheckedRuns

/-- What becomes of the stage of a call in a step that moves no run on. -/
inductive Stage.Aside : Stage → Stage → Prop where
  | same (stage : Stage) : Aside stage stage
  | placed (previous : Option Nat) : Aside .drawn (.placed previous)
  | told (previous : Option Nat) : Aside (.placed previous) (.inside .begun)
  | left (progress : Progress) : Aside (.inside progress) (.ended progress.result?)

section

variable {p q : Pipeline} {id timeout : Nat} {call : Call} {progress next : Progress} {stage : Stage}
  {mark mark' : Bool} {r : Except Failure Text}

lemma mayCome_aside (haside : Stage.Aside call.stage stage)
    (h : ({ call with stage := stage } : Call).MayCome timeout mark r) :
    call.MayCome timeout mark r := by
  generalize hold : call.stage = old at haside
  cases haside with
  | same =>
    rw [← hold] at h
    exact h
  | placed | told =>
    simp only [Call.MayCome, hold] at h ⊢
    exact h
  | left progress =>
    have hresult : progress.result? = some r := h
    cases progress with
    | concluded run result =>
      simp only [Call.MayCome, hold]
      exact (Option.some.inj hresult).symm
    | begun | located | started | captured => cases hresult

lemma mayCome_move (hmove : Move p id call progress mark q next mark')
    (hstage : call.stage = .inside progress) (htimeout : p.options.timeout = timeout)
    (hstopped : ∀ run, progress.run? = some run → p.isStopped run = true)
    (h : ({ call with stage := .inside next } : Call).MayCome timeout mark' r) :
    call.MayCome timeout mark r := by
  -- a stopped run gets no mark, and without one there is only its end as cancelled
  cases hmove with
  | locate =>
    simp only [Call.MayCome, hstage] at h ⊢
    simpa using h
  | @pass _ run hlook hunstopped =>
    have hrun : progress.run? = some run := by rcases looking_cases hlook with rfl | rfl <;> rfl
    exact absurd (hunstopped.symm.trans (hstopped run hrun)) Bool.false_ne_true
  | halt hlook =>
    have hr : r = .error .cancelled := h
    rcases looking_cases hlook with rfl | rfl <;>
    · simp only [Call.MayCome, hstage]
      exact .inl hr
  | launch =>
    simp only [Call.MayCome, hstage] at h ⊢
    exact .inl (by simpa using h)
  | @notStarted run host e hlaunch =>
    simp only [Call.MayCome, hstage]
    exact .inr ⟨trivial, host, e, hlaunch, h⟩
  | sleep run =>
    simp only [Call.MayCome, hstage] at h ⊢
    exact .inl (by simpa using h)
  | capture run c =>
    simp only [Call.MayCome, hstage]
    exact .inr ⟨trivial, .inr (.inr ⟨c, h⟩)⟩
  | expire run =>
    simp only [Call.MayCome, hstage]
    exact .inr ⟨trivial, .inl (htimeout ▸ h)⟩
  | breakOff run reason =>
    simp only [Call.MayCome, hstage]
    exact .inr ⟨trivial, .inr (.inl ⟨reason, h⟩)⟩
  | conclude run c =>
    have hr : r = p.conclude run c := h
    simp only [Call.MayCome, hstage]
    rw [hr, Pipeline.conclude, hstopped run rfl]

end

namespace CheckedRuns

variable {options : CompileOptions} {s t : CheckedRuns} {a b : Nat} {call : Call} {stage : Stage}
  {r : Except Failure Text}

lemma call_aside {c : Compilations} (hs : Sound s.compilations)
    (hstep : Proofs.Step s.compilations c)
    (hstill : ∀ id progress, s.stage? id = some (.inside progress) →
      c.stage? id = some (.inside progress) ∨ c.stage? id = some (.ended progress.result?))
    (hcall : s.compilations.calls.get? a = some call) :
    ∃ stage, c.calls.get? a = some { call with stage := stage } ∧
      Stage.Aside call.stage stage := by
  have hsame : c.calls.get? a = some call →
      ∃ stage, c.calls.get? a = some { call with stage := stage } ∧
        Stage.Aside call.stage stage :=
    fun h => ⟨call.stage, h, .same _⟩
  -- a step reaches one call and leaves every other one as it is
  have hreach : ∀ (id : Nat) (other : Call) (new : Stage),
      s.compilations.calls.get? id = some other → Stage.Aside other.stage new →
      (∀ x, c.calls.get? x =
        if x = id then some { other with stage := new } else s.compilations.calls.get? x) →
      ∃ stage, c.calls.get? a = some { call with stage := stage } ∧
        Stage.Aside call.stage stage := by
    intro id other new hother haside hget
    by_cases ha : a = id
    · subst ha
      obtain rfl := Option.some.inj (hother.symm.trans hcall)
      exact ⟨new, (hget a).trans (if_pos rfl), haside⟩
    · exact hsame ((hget a).trans ((if_neg ha).trans hcall))
  cases hstep with
  | draw i given =>
    have hlt := hs.known_lt a call.stage (stage?_of_call hcall)
    apply hsame
    exact (Table.get?_insert ..).trans ((if_neg (Nat.ne_of_lt hlt)).trans hcall)
  | place hother hdrawn =>
    exact hreach _ _ _ hother (hdrawn ▸ .placed _) fun x => Table.get?_insert ..
  | tell hother hplaced =>
    exact hreach _ _ _ hother (hplaced ▸ .told _) fun x => Table.get?_insert ..
  | @advance id other progress next p w hother hinside hwork =>
    -- a run that does not move on stays as far as it is
    have hnext : next = progress := by
      have hbefore : s.stage? id = some (.inside progress) :=
        (stage?_of_call hother).trans (congrArg some hinside)
      have hafter := stage?_reach { s.compilations with pipeline := p } id other (.inside next) id
      rw [if_pos rfl] at hafter
      rcases hstill id progress hbefore with h | h
      · exact Stage.inside.inj (Option.some.inj (hafter.symm.trans h))
      · exact Stage.noConfusion (Option.some.inj (hafter.symm.trans h))
    have hnew : Stage.inside next = other.stage := by rw [hnext, hinside]
    exact hreach _ _ _ hother (hnew ▸ .same _) fun x => Table.get?_insert ..
  | leave hother hinside =>
    exact hreach _ _ _ hother (hinside ▸ .left _) fun x => Table.get?_insert ..
  | vacate | vacateAll | strike | release => exact hsame hcall

lemma options_step {c : Compilations} (h : Proofs.Step s.compilations c) :
    c.pipeline.options = s.compilations.pipeline.options := by
  cases h with
  | advance w hcall hstage hwork => exact (Progress.advance_spec hwork).2.1
  | draw | place | tell | leave | vacate | vacateAll | strike | release => rfl

lemma call_of_stopped (hs : Kept s) (hstopped : s.isStopped a = true) :
    ∃ call, s.compilations.calls.get? a = some call ∧ call.stage ≠ .drawn := by
  have hmem := hs.sound.stopped_placed a hstopped
  obtain ⟨stage, hstage, hne⟩ := (hs.sound.placed_iff a).mp hmem
  obtain ⟨call, hcall, rfl⟩ := Option.map_eq_some_iff.mp hstage
  exact ⟨call, hcall, hne⟩

lemma mayCome_step (hs : Kept s) (hstopped : s.isStopped a = true) (hstep : Step s t)
    (h : t.MayCome a r) : s.MayCome a r := by
  obtain ⟨old, hold, -⟩ := call_of_stopped hs hstopped
  obtain ⟨call, hcall, hmay⟩ := h
  cases hstep with
  | @aside c hstep hstill =>
    obtain ⟨stage, hget, haside⟩ := call_aside hs.sound hstep hstill hold
    obtain rfl := Option.some.inj (hget.symm.trans hcall)
    have hoptions : c.pipeline.options = s.compilations.pipeline.options := options_step hstep
    simp only [hoptions] at hmay
    exact ⟨old, hold, mayCome_aside haside hmay⟩
  | @move id other progress next p mark hother hstage hmove =>
    obtain ⟨-, hoptions, -⟩ := move_spec hmove
    have htimeout : (s.moved id other p next mark).compilations.pipeline.options.timeout =
        s.compilations.pipeline.options.timeout := congrArg CompileOptions.timeout hoptions
    rw [htimeout] at hmay
    rw [get?_moved] at hcall
    by_cases ha : a = id
    · subst ha
      rw [if_pos rfl] at hcall
      obtain rfl := Option.some.inj hcall
      obtain rfl := Option.some.inj (hother.symm.trans hold)
      have hmark : (s.moved a other p next mark).mark a = mark := Function.update_self ..
      rw [hmark] at hmay
      have hstoppedRun : ∀ run, progress.run? = some run →
          s.compilations.pipeline.isStopped run = true :=
        fun run hrun => stopped_run hs hstopped hold hstage hrun
      exact ⟨other, hold, mayCome_move hmove hstage rfl hstoppedRun hmay⟩
    · rw [if_neg ha] at hcall
      have hmark : (s.moved id other p next mark).mark a = s.mark a :=
        Function.update_of_ne ha ..
      rw [hmark] at hmay
      exact ⟨call, hcall, hmay⟩

lemma mayCome_of_result (h : s.result? a = some r) : s.MayCome a r := by
  unfold result? at h
  split at h
  · next progress hstage =>
    obtain ⟨call, hcall, hinside⟩ := Option.map_eq_some_iff.mp hstage
    refine ⟨call, hcall, ?_⟩
    cases progress with
    | concluded run result =>
      simp only [Call.MayCome, hinside]
      exact (Option.some.inj h).symm
    | begun | located | started | captured => cases h
  · next result hstage =>
    obtain ⟨call, hcall, hended⟩ := Option.map_eq_some_iff.mp hstage
    refine ⟨call, hcall, ?_⟩
    simp only [Call.MayCome, hended]
    exact h
  · cases h

lemma mayCome_of_steps (hs : Kept s) (hstopped : s.isStopped a = true) (hsteps : Steps s t)
    (h : t.result? a = some r) : s.MayCome a r := by
  -- backwards along the steps, for what a stopped run can come to only becomes less
  induction hsteps using Relation.ReflTransGen.head_induction_on with
  | refl => exact mayCome_of_result h
  | head hstep _ ih =>
    exact mayCome_step hs hstopped hstep (ih (kept_step hs hstep) (isStopped_step hstep hstopped))

/-! ### How stopped runs end -/

lemma cancelled_of_looking (hs : Kept s) (hstopped : s.isStopped a = true)
    (hcall : s.compilations.calls.get? a = some call) {progress : Progress} {run : Run}
    (hstage : call.stage = .inside progress) (hlook : progress.looking? = some run)
    (hmark : s.mark a = false) : ∃ t, Steps s t ∧ t.result? a = some (.error .cancelled) := by
  have hrun : progress.run? = some run := by rcases looking_cases hlook with rfl | rfl <;> rfl
  have hhalt := step_move hcall hstage hmark (.halt hlook (stopped_run hs hstopped hcall hstage hrun))
  exact ⟨_, .single hhalt, result?_moved ..⟩

lemma cancelled_of_begun (hs : Kept s) (hstopped : s.isStopped a = true)
    (hcall : s.compilations.calls.get? a = some call) (hstage : call.stage = .inside .begun) :
    ∃ t, Steps s t ∧ t.result? a = some (.error .cancelled) := by
  have hstep := Step.move hcall hstage (@Move.locate _ a call trueHost _ _ (s.mark a) rfl)
  obtain ⟨t, hsteps, hresult⟩ := cancelled_of_looking (kept_step hs hstep)
    (isStopped_step hstep hstopped) ((get?_moved ..).trans (if_pos rfl)) rfl rfl
    (Function.update_self ..)
  exact ⟨t, hsteps.head hstep, hresult⟩

lemma step_of_reach {c : Compilations} {id : Nat} (hstep : Proofs.Step s.compilations c)
    (hreach : ∀ x, c.stage? x = if x = id then some stage else s.stage? x)
    (hout : ∀ progress, s.stage? id ≠ some (.inside progress)) : Step s ⟨c, s.mark⟩ := by
  refine .aside hstep fun x progress hx => .inl ?_
  have hne : x ≠ id := by
    rintro rfl
    exact hout progress hx
  rw [hreach, if_neg hne]
  exact hx

lemma step_draw (hs : Sound s.compilations) (i : Invocation) (given : List Text) :
    Step s ⟨s.compilations.draw i given, s.mark⟩ := by
  refine step_of_reach (.draw _ i given) (stage?_reach _ _ _ _) fun progress h => ?_
  rw [stage?, stage?_next hs] at h
  cases h

lemma step_place {id : Nat} (hcall : s.compilations.calls.get? id = some call)
    (hstage : call.stage = .drawn) (hlock : s.compilations.removal = none) :
    Step s ⟨s.compilations.place id call, s.mark⟩ := by
  refine step_of_reach (.place hcall hstage hlock) (stage?_reach _ id call _) fun progress h => ?_
  have hdrawn := (stage?_of_call hcall).symm.trans h
  rw [hstage] at hdrawn
  exact Stage.noConfusion (Option.some.inj hdrawn)

lemma step_tell {id : Nat} {previous : Option Nat}
    (hcall : s.compilations.calls.get? id = some call) (hstage : call.stage = .placed previous) :
    Step s ⟨s.compilations.tell id call previous, s.mark⟩ := by
  refine step_of_reach (.tell hcall hstage) (stage?_reach _ id call _) fun progress h => ?_
  have hplaced := (stage?_of_call hcall).symm.trans h
  rw [hstage] at hplaced
  exact Stage.noConfusion (Option.some.inj hplaced)

lemma cancelled_of_placed (hs : Kept s) (hstopped : s.isStopped a = true)
    (hcall : s.compilations.calls.get? a = some call) {previous : Option Nat}
    (hstage : call.stage = .placed previous) :
    ∃ t, Steps s t ∧ t.result? a = some (.error .cancelled) := by
  have hstep := step_tell hcall hstage
  obtain ⟨t, hsteps, hresult⟩ := cancelled_of_begun (kept_step hs hstep)
    (isStopped_step hstep hstopped) ((Table.get?_insert ..).trans (if_pos rfl)) rfl
  exact ⟨t, hsteps.head hstep, hresult⟩

lemma cancelled_of_mustLook (hs : Kept s) (hstopped : s.isStopped a = true)
    (hlook : s.MustLook a) :
    (∃ t, Steps s t ∧ t.result? a = some (.error .cancelled)) ∧
      ∀ t r, Steps s t → t.result? a = some r → r = .error .cancelled := by
  obtain ⟨call, hcall, hdrawn⟩ := call_of_stopped hs hstopped
  obtain ⟨stage, hstage, hmust⟩ := hlook
  obtain rfl : call.stage = stage := Option.some.inj ((stage?_of_call hcall).symm.trans hstage)
  refine ⟨?_, fun t r hsteps hresult => ?_⟩
  · cases hinside : call.stage with
    | drawn => exact absurd hinside hdrawn
    | placed previous => exact cancelled_of_placed hs hstopped hcall hinside
    | inside progress =>
      rw [hinside] at hmust
      cases progress with
      | begun => exact cancelled_of_begun hs hstopped hcall hinside
      | located run => exact cancelled_of_looking hs hstopped hcall hinside rfl hmust
      | started run => exact cancelled_of_looking hs hstopped hcall hinside rfl hmust
      | captured | concluded => exact hmust.elim
    | ended result =>
      rw [hinside] at hmust
      exact hmust.elim
  · obtain ⟨call', hcall', hmay⟩ := mayCome_of_steps hs hstopped hsteps hresult
    obtain rfl := Option.some.inj (hcall.symm.trans hcall')
    unfold Call.MayCome at hmay
    cases hinside : call.stage with
    | drawn | placed =>
      rw [hinside] at hmay
      exact hmay
    | inside progress =>
      rw [hinside] at hmay hmust
      cases progress with
      | begun => exact hmay
      | located | started =>
        have hmark : s.mark a = false := hmust
        simpa [hmark] using hmay
      | captured | concluded => exact hmust.elim
    | ended result =>
      rw [hinside] at hmust
      exact hmust.elim

lemma shown_of_captured (hs : Kept s) (hstopped : s.isStopped a = true)
    (hcall : s.compilations.calls.get? a = some call) {run : Run} {c : Capture}
    (hstage : call.stage = .inside (.captured run c)) {e : Failure}
    (he : c.conclude run.command.program run.demangler.text true = .error e) :
    ∃ t, Steps s t ∧ t.result? a = some (.error e) := by
  -- the statuses of the programs are read before the run looks once more
  have hconclude : s.compilations.pipeline.conclude run c = .error e := by
    rw [Pipeline.conclude, stopped_run hs hstopped hcall hstage rfl, he]
  have hlast := step_move hcall hstage rfl (.conclude run c (s.mark a))
  exact ⟨_, .single hlast, (result?_moved ..).trans (congrArg some hconclude)⟩

lemma shown_of_mayCome (hs : Kept s) (hstopped : s.isStopped a = true) {e : Failure}
    (he : e ≠ .cancelled) (h : s.MayCome a (.error e)) :
    ∃ t, Steps s t ∧ t.result? a = some (.error e) := by
  obtain ⟨call, hcall, hmay⟩ := h
  have hnot : (Except.error e : Except Failure Text) ≠ .error .cancelled :=
    fun h => he (Except.error.inj h)
  unfold Call.MayCome at hmay
  cases hstage : call.stage with
  | drawn | placed =>
    rw [hstage] at hmay
    exact absurd hmay hnot
  | inside progress =>
    rw [hstage] at hmay
    cases progress with
    | begun => exact absurd hmay hnot
    | located run =>
      obtain ⟨hmark, host, e', hlaunch, heq⟩ := hmay.resolve_left hnot
      obtain rfl := Except.error.inj heq
      exact ⟨_, .single (step_move hcall hstage hmark (.notStarted hlaunch)), result?_moved ..⟩
    | started run =>
      obtain ⟨hmark, heq | ⟨reason, heq⟩ | ⟨c, heq⟩⟩ := hmay.resolve_left hnot
      · obtain rfl := Except.error.inj heq
        exact ⟨_, .single (step_move hcall hstage hmark (.expire run)), result?_moved ..⟩
      · obtain rfl := Except.error.inj heq
        exact ⟨_, .single (step_move hcall hstage hmark (.breakOff run reason)), result?_moved ..⟩
      · have hcapture := step_move hcall hstage hmark (.capture run c)
        obtain ⟨t, hsteps, hresult⟩ := shown_of_captured (kept_step hs hcapture)
          (isStopped_step hcapture hstopped) ((get?_moved ..).trans (if_pos rfl)) rfl heq.symm
        exact ⟨t, hsteps.head hcapture, hresult⟩
    | captured run c => exact shown_of_captured hs hstopped hcall hstage hmay.symm
    | concluded run result =>
      refine ⟨s, .refl, ?_⟩
      rw [result?, stage?, stage?_of_call hcall, hstage]
      exact congrArg some hmay.symm
  | ended result =>
    rw [hstage] at hmay
    refine ⟨s, .refl, ?_⟩
    rw [result?, stage?, stage?_of_call hcall, hstage]
    exact hmay

lemma conclude_stopped_ne_ok (c : Capture) (program demangler text : Text) :
    c.conclude program demangler true ≠ .ok text := by
  unfold Capture.conclude
  split
  · simp
  · split <;> simp

lemma withheld_of_stopped (hs : Kept s) (hstopped : s.isStopped a = true)
    (hresult : s.result? a = none) (hsteps : Steps s t) (text : Text) :
    t.result? a ≠ some (.ok text) := by
  intro htext
  obtain ⟨call, hcall, hmay⟩ := mayCome_of_steps hs hstopped hsteps htext
  rw [result?, stage?, stage?_of_call hcall] at hresult
  unfold Call.MayCome at hmay
  cases hstage : call.stage with
  | drawn | placed =>
    rw [hstage] at hmay
    cases hmay
  | inside progress =>
    rw [hstage] at hmay hresult
    cases progress with
    | begun => cases hmay
    | located run => simp at hmay
    | started run =>
      obtain ⟨-, c, hc⟩ : s.mark a = true ∧ ∃ c : Capture,
          Except.ok text = c.conclude run.command.program run.demangler.text true := by
        simpa using hmay
      exact conclude_stopped_ne_ok c _ _ text hc.symm
    | captured run c => exact conclude_stopped_ne_ok c _ _ text hmay.symm
    | concluded run result => cases hresult
  | ended result =>
    rw [hstage] at hmay hresult
    have hnone : result = none := hresult
    rw [hnone] at hmay
    cases hmay

end CheckedRuns

open CheckedRuns

/-! ### Two runs of one source file -/

lemma launch_trueRun (id : Nat) :
    ∃ programs, launch trueHost (trueRun id) trueInvocation.directory = .ok programs := by
  have hok : (launch trueHost (trueRun id) trueInvocation.directory).isOk = true := by
    have hsame : launch trueHost (trueRun id) trueInvocation.directory =
        launch trueHost (trueRun 0) trueInvocation.directory := rfl
    rw [hsame]
    decide +kernel
  cases h : launch trueHost (trueRun id) trueInvocation.directory with
  | error e =>
    rw [h] at hok
    cases hok
  | ok programs => exact ⟨programs, rfl⟩

def trueCall (stage : Stage) : Call := ⟨trueInvocation, [], stage⟩

/-- Two calls for one source file. The run of the first one has just looked whether it is to stop, and
that of the second one has no place yet. -/
def lookedRuns : CheckedRuns :=
  let drawn := ((Compilations.ofOptions trueOptions).draw trueInvocation []).draw trueInvocation []
  let begun := (drawn.place 0 (trueCall .drawn)).tell 0 (trueCall (.placed none)) none
  let located := (CheckedRuns.mk begun fun _ => false).moved 0 (trueCall (.inside .begun))
    begun.pipeline (.located (trueRun 0)) false
  located.moved 0 (trueCall (.inside (.located (trueRun 0)))) begun.pipeline (.located (trueRun 0)) true

lemma reachable_lookedRuns : CheckedRuns.Reachable trueOptions lookedRuns := by
  have h0 : CheckedRuns.Reachable trueOptions _ := .refl
  have h1 := h0.tail (step_draw (kept_of_reachable h0).sound trueInvocation [])
  have h2 := h1.tail (step_draw (kept_of_reachable h1).sound trueInvocation [])
  have h3 := h2.tail (@step_place _ _ 0 rfl rfl rfl)
  have h4 := h3.tail (@step_tell _ _ 0 _ rfl rfl)
  have h5 := h4.tail (@step_move _ 0 _ _ _ _ _ _ rfl rfl rfl (@Move.locate _ 0 _ trueHost _ _ _ rfl))
  exact h5.tail (@step_move _ 0 _ _ _ _ _ _ rfl rfl rfl (.pass rfl rfl))

/-- The second one takes the place of the first one and tells it to stop. -/
def secondBegun (s : CheckedRuns) : CheckedRuns :=
  ⟨(s.compilations.place 1 (trueCall .drawn)).tell 1 (trueCall (.placed (some 0))) (some 0), s.mark⟩

lemma reachable_secondBegun {s : CheckedRuns} (h : CheckedRuns.Reachable trueOptions s)
    (hcall : s.compilations.calls.get? 1 = some (trueCall .drawn))
    (hlock : s.compilations.removal = none)
    (hslot : (s.compilations.pipeline.runs.place trueInvocation.source 1).2 = some 0) :
    CheckedRuns.Reachable trueOptions (secondBegun s) := by
  have hplaced : (s.compilations.place 1 (trueCall .drawn)).calls.get? 1 =
      some (trueCall (.placed (some 0))) := by
    rw [← hslot]
    exact (Table.get?_insert ..).trans (if_pos rfl)
  exact (h.tail (step_place hcall rfl hlock)).tail
    (@step_tell ⟨s.compilations.place 1 (trueCall .drawn), s.mark⟩ _ 1 _ hplaced rfl)

/-! ### The laws -/

/-- What becomes of runs that are told to stop, from any state on. -/
structure StopLaws (s : CheckedRuns) : Prop where
  /-- A cancellation that has returned has told its runs. -/
  removed : ∀ a ∈ s.compilations.removed, s.isStopped a = true
  /-- So has a begin that has returned, unless another begin has taken that on, or the run is over. -/
  followed : ∀ a b, s.compilations.Follows b a → s.compilations.HasBegun b →
    s.isStopped a = true ∨ (∃ d, d ≠ b ∧ s.compilations.Owes d a) ∨
      ∃ result, s.stage? a = some (.ended result)
  /-- A run that still has to look ends as cancelled, whatever its programs come to. -/
  cancelled : ∀ a, s.isStopped a = true → s.MustLook a →
    (∃ t, Steps s t ∧ t.result? a = some (.error .cancelled)) ∧
      ∀ t r, Steps s t → t.result? a = some r → r = .error .cancelled
  /-- One that has not come to anything yet delivers nothing. -/
  withheld : ∀ a, s.isStopped a = true → s.result? a = none →
    ∀ t text, Steps s t → t.result? a ≠ some (.ok text)
  /-- Another failure is reported exactly where the run had looked before, or its programs were done. -/
  shown : ∀ a e, s.isStopped a = true → e ≠ .cancelled →
    ((∃ t, Steps s t ∧ t.result? a = some (.error e)) ↔ s.MayCome a (.error e))

/-- In every interleaving a run that is told to stop before its last look ends as cancelled, and one
that is told later delivers nothing; only what had failed by its last look is reported. -/
theorem stopLaws_of_reachable {options : CompileOptions} {s : CheckedRuns}
    (h : CheckedRuns.Reachable options s) : StopLaws s := by
  have hs := kept_of_reachable h
  refine ⟨hs.told.removed, fun a b hfollows hbegun => ?_,
    fun a hstopped hlook => cancelled_of_mustLook hs hstopped hlook,
    fun a hstopped hresult t text hsteps => withheld_of_stopped hs hstopped hresult hsteps text,
    fun a e hstopped he => ⟨?_, shown_of_mayCome hs hstopped he⟩⟩
  · have hplaced : a ∈ s.compilations.order := hfollows.1.subset (by simp)
    rcases hs.sound.held_or_told a hplaced with hheld | htold | hended
    · obtain ⟨d, howes⟩ := (held_iff_owed hs.sound hfollows).mp hheld
      refine .inr (.inl ⟨d, ?_, howes⟩)
      rintro rfl
      exact not_begun_of_owes howes hbegun
    · exact .inl htold
    · exact .inr (.inr hended)
  · rintro ⟨t, hsteps, hresult⟩
    exact mayCome_of_steps hs hstopped hsteps hresult

/-- The second of two runs of one source file tells the first one to stop, whose programs work. -/
theorem stopLaws_of_true_runs :
    ∃ s, CheckedRuns.Reachable trueOptions s ∧ s.isStopped 0 = true ∧ s.MustLook 0 ∧
      ∃ t, Steps s t ∧ t.result? 0 = some (.error .cancelled) := by
  obtain ⟨programs, hlaunch⟩ := launch_trueRun 0
  have hlaunched := reachable_lookedRuns.tail
    (@step_move _ 0 _ _ _ _ _ _ rfl rfl rfl (.launch hlaunch))
  have hbegun := reachable_secondBegun hlaunched rfl rfl rfl
  exact ⟨_, hbegun, rfl, ⟨_, rfl, rfl⟩,
    ((stopLaws_of_reachable hbegun).cancelled 0 rfl ⟨_, rfl, rfl⟩).1⟩

def failedCapture : Capture := { emptyCapture with compilerStatus := .code 1 }

def failedCompiler : Failure :=
  .compileFailed trueCommand.program failedCapture.compilerStatus.report []

def missingCompiler : Failure :=
  Toolchain.startFailure trueCommand.program .notFound

def bareHost : Host := { trueHost with files := ⟨Table.empty.insert [] (.directory, 0), 0⟩ }

lemma launch_bareHost (id : Nat) :
    launch bareHost (trueRun id) trueInvocation.directory = .error missingCompiler := by
  have hfailure : (match Toolchain.startCompiler bareHost trueCommand trueInvocation.directory with
      | .error e => some e
      | .ok _ => none) = some missingCompiler := by decide +kernel
  unfold launch
  simp only [trueRun]
  cases hcompiler : Toolchain.startCompiler bareHost trueCommand trueInvocation.directory with
  | error e =>
    rw [hcompiler] at hfailure
    exact congrArg Except.error (Option.some.inj hfailure)
  | ok compiler =>
    rw [hcompiler] at hfailure
    cases hfailure

/-- Whether the first of two runs can come to a failure after the second one has told it to stop. -/
def ShownAfterStop (e : Failure) : Prop :=
  ∃ s t, CheckedRuns.Reachable trueOptions s ∧ s.compilations.Follows 1 0 ∧
    s.compilations.HasBegun 1 ∧ s.isStopped 0 = true ∧ s.result? 0 = none ∧
    CheckedRuns.Step s t ∧ t.result? 0 = some (.error e)

/-- The second run begins when the programs of the first one are done, or between a look of the first
one and the end of its time or the start of its compiler. The first one reports its failure. -/
theorem failure_shown_after_stop :
    ShownAfterStop failedCompiler ∧ ShownAfterStop (.timedOut trueOptions.timeout) ∧
      ShownAfterStop missingCompiler := by
  obtain ⟨programs, hlaunch⟩ := launch_trueRun 0
  have hlaunched := reachable_lookedRuns.tail
    (@step_move _ 0 _ _ _ _ _ _ rfl rfl rfl (.launch hlaunch))
  have hchecked := hlaunched.tail (@step_move _ 0 _ _ _ _ _ _ rfl rfl rfl (.pass rfl rfl))
  refine ⟨?_, ?_, ?_⟩
  · have hcaptured := hchecked.tail
      (@step_move _ 0 _ _ _ _ _ _ rfl rfl rfl (.capture _ failedCapture))
    exact ⟨_, _, reachable_secondBegun hcaptured rfl rfl rfl, ⟨by decide, rfl⟩, ⟨_, rfl, trivial⟩,
      rfl, rfl, @step_move _ 0 _ _ _ _ _ _ rfl rfl rfl (.conclude _ _ _), rfl⟩
  · exact ⟨_, _, reachable_secondBegun hchecked rfl rfl rfl, ⟨by decide, rfl⟩, ⟨_, rfl, trivial⟩,
      rfl, rfl, @step_move _ 0 _ _ _ _ _ _ rfl rfl rfl (.expire _), rfl⟩
  · exact ⟨_, _, reachable_secondBegun reachable_lookedRuns rfl rfl rfl, ⟨by decide, rfl⟩,
      ⟨_, rfl, trivial⟩, rfl, rfl,
      @step_move _ 0 _ _ _ _ _ _ rfl rfl rfl (.notStarted (launch_bareHost 0)), rfl⟩

/-- A file that is not there yet, a slow compiler for it that fails, and a fast one. -/
def failingHost : Host :=
  shellHost [("sleep", .program "sleep".toList), ("slow.sh", textFile "sleep 1\nexit 1\n"),
    ("fast.sh", textFile "echo newer\n")]

/-- The first of two requests for one path is made before the file is there, and its compiler works
while the file is written and the second one is answered. -/
def lateFailure (p : Path) : Option Text × Option (Except Failure Text) × Option Bool :=
  let first :=
    (Explorer.ofSettings failingHost shellSettings).request p ["sh".toList, "/slow.sh".toList]
  let files := first.1.host.files.put ["main.c".toList] (textFile "int x;\n")
  let second := (first.1.withFiles files).compile p ["sh".toList, "/fast.sh".toList]
  let failure? := match (second.1.wait 0).2 with
    | .error e => some e.isCompileFailure
    | .ok _ => none
  (second.2.toOption, second.1.session.result? 0, failure?)

set_option maxRecDepth 10000 in
/-- The failure of the earlier request is reported after the later one is answered: the two are runs
of one file under two paths, so that the later one never tells the earlier one to stop. -/
theorem earlier_request_fails_last :
    (lateFailure (.ofString "main.c")).1 = some "newer".toList ∧
      (lateFailure (.ofString "main.c")).2.1.isNone = true ∧
      (lateFailure (.ofString "main.c")).2.2 = some true :=
  ⟨by decide +kernel, by decide +kernel, by decide +kernel⟩

end AsmExplorer.Proofs
