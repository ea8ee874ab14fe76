import AsmExplorer.Proofs.RequestInterleavings

/-!
# Outputs that are forgotten

When the last output of a file is forgotten, the next request for the file is to compile it again. A
request that is waiting for its run at that moment keeps the text all the same once the run has ended,
and then later requests are answered with what a compiler wrote that had been started before.

In no interleaving does a text from before come back in any other way.
-/

namespace AsmExplorer.Proofs

open Compilations

/-- Whether the compiler of a run has been started, if it ever is. -/
def Stage.HasStarted : Stage → Prop
  | .drawn => False
  | .placed _ => False
  | .inside .begun => False
  | .inside (.located _) => False
  | .inside _ => True
  | .ended _ => True

/-- The text with which a request has been answered. -/
def Phase.text? : Phase → Option Text
  | .reused t _ => some t
  | .compiled _ (.ok t) => some t
  | _ => none

namespace Compilations

variable {s t : Compilations} {a id : Nat}

def HasStarted (s : Compilations) (a : Nat) : Prop :=
  ∃ stage, s.stage? a = some stage ∧ stage.HasStarted

lemma stage?_eq_none_of_reach {call : Call} {stage : Stage}
    (h : (s.reach id call stage).stage? a = none) : s.stage? a = none := by
  rw [stage?_reach] at h
  split at h
  · exact absurd h (Option.some_ne_none stage)
  · exact h

/-- No run is forgotten. -/
lemma stage?_eq_none_of_step (hstep : Step s t) (h : t.stage? a = none) : s.stage? a = none := by
  cases hstep with
  | draw i given => exact stage?_eq_none_of_reach (s := s.withRuns _) h
  | place hcall hstage hlock => exact stage?_eq_none_of_reach (s := s.withRuns _) h
  | tell hcall hstage => exact stage?_eq_none_of_reach (s := s.withRuns _) h
  | @advance id call progress next p w hcall hstage hwork =>
    exact stage?_eq_none_of_reach (s := { s with pipeline := p }) h
  | leave hcall hstage hlock => exact stage?_eq_none_of_reach (s := s.withRuns _) h
  | vacate | vacateAll | strike | release => exact h

end Compilations

namespace Requests

variable {s u v : Requests} {c : Compilations} {key : List Component} {a id x : Nat} {r : Request}
  {phase : Phase} {t : Text}

/-! ### Requests that wait -/

/-- Whether a request waits for a run, to keep its text for a file. -/
def Awaits (s : Requests) (key : List Component) (a : Nat) : Prop :=
  ∃ y i stamp, s.phase? y = some (.compiling i stamp a) ∧ i.source.key = key

lemma phase?_of_request (hr : s.requests.get? id = some r) (hphase : r.phase = phase) :
    s.phase? id = some phase := by
  rw [phase?, hr, Option.map_some, hphase]

lemma awaits_enter (h : (s.enter id r phase).Awaits key a) :
    s.Awaits key a ∨ ∃ i stamp, phase = .compiling i stamp a := by
  obtain ⟨y, i, stamp, hy, hkey⟩ := h
  rw [phase?_enter] at hy
  split at hy
  · exact Or.inr ⟨i, stamp, Option.some.inj hy⟩
  · exact Or.inl ⟨y, i, stamp, hy, hkey⟩

/-- A request begins to wait when its run is made. -/
lemma awaits_of_step (hsound : Sound s.compilations) (hstep : Step s u) (h : u.Awaits key a) :
    s.Awaits key a ∨ s.compilations.stage? a = none := by
  have hother : ∀ {id r phase}, (s.enter id r phase).Awaits key a →
      (∀ i stamp, phase ≠ .compiling i stamp a) → s.Awaits key a := by
    intro id r phase hwait hphase
    rcases awaits_enter hwait with hbefore | ⟨i, stamp, heq⟩
    · exact hbefore
    · exact absurd heq (hphase i stamp)
  cases hstep with
  | work | forget | clear => exact Or.inl h
  | ask | resolve | refuse | read | reuse | vacate | answer | keep =>
    exact Or.inl (hother h fun _ _ => Phase.noConfusion)
  | @draw id r i stamp hr hphase hkept =>
    rcases awaits_enter (s := s) h with hbefore | ⟨i, stamp, heq⟩
    · exact Or.inl hbefore
    · injection heq with _ _ hrun
      exact Or.inr (hrun ▸ stage?_next hsound)

/-- A last output was there before, or it is the text of a run that a request has waited for. -/
lemma output_of_step {out : Output} (hstep : Step s u) (hout : u.outputs.get? key = some out) :
    s.outputs.get? key = some out ∨
      ∃ a, s.Awaits key a ∧ s.compilations.stage? a = some (.ended (some (.ok out.text))) := by
  cases hstep with
  | work | ask | resolve | refuse | read | reuse | vacate | answer | draw => exact Or.inl hout
  | forget source =>
    have hget : (if key = source.key then none else s.outputs.get? key) = some out :=
      (Table.get?_erase ..).symm.trans hout
    split at hget
    · exact absurd hget.symm (Option.some_ne_none out)
    · exact Or.inl hget
  | clear => exact absurd hout.symm (Option.some_ne_none out)
  | @keep id r i stamp run result hr hphase hended =>
    cases stamp with
    | none => exact Or.inl hout
    | some stamp =>
      cases result with
      | error failure => exact Or.inl hout
      | ok t =>
        have hget : (if key = i.source.key then some _ else s.outputs.get? key) = some out :=
          (Table.get?_insert ..).symm.trans hout
        split at hget
        · next hkey =>
          have hwait := phase?_of_request hr hphase
          obtain rfl := Option.some.inj hget
          exact Or.inr ⟨run, ⟨id, i, _, hwait, hkey.symm⟩, hended⟩
        · exact Or.inl hget

/-! ### Runs and requests go on -/

lemma grows_of_step (hsound : Sound s.compilations) (hstep : Step s u) :
    Grows s.compilations u.compilations := by
  rcases compilations_step hstep with heq | hwork
  · exact heq ▸ grows_refl s.compilations
  · exact grows_step hsound hwork

lemma reachable_of_run {options : CompileOptions} (h : Reachable options s)
    (hrun : Relation.ReflTransGen Step s u) : Reachable options u := by
  induction hrun with
  | refl => exact h
  | tail _ hstep ih => exact ih.step hstep

def Counted (s : Requests) : Prop :=
  ∀ x phase, s.phase? x = some phase → x < s.next

lemma counted_enter (hs : Counted s) (hr : s.requests.get? id = some r) :
    Counted (s.enter id r phase) := by
  intro x phase' hx
  rw [phase?_enter] at hx
  split at hx
  · next heq => exact heq ▸ hs id r.phase (phase?_of_request hr rfl)
  · exact hs x phase' hx

lemma counted_step (hs : Counted s) (hstep : Step s u) : Counted u := by
  cases hstep with
  | work | forget | clear => exact hs
  | ask source given =>
    intro x phase hx
    have hget : (s.enter s.next ⟨source, given, .asked⟩ .asked).phase? x = some phase := hx
    rw [phase?_enter] at hget
    split at hget
    · next heq => exact heq ▸ Nat.lt_succ_self s.next
    · exact Nat.lt_succ_of_lt (hs x phase hget)
  | resolve hr | refuse hr | read _ hr | reuse hr | vacate hr | answer hr | draw hr | keep hr =>
    exact counted_enter hs hr

lemma counted_of_reachable {options : CompileOptions} (h : Reachable options s) : Counted s := by
  induction h with
  | start => exact fun x phase hx => absurd hx (Option.some_ne_none phase).symm
  | step _ hstep ih => exact counted_step ih hstep

/-! ### What comes after outputs are forgotten -/

/-- Whether a text, after some more steps, is that of a run that was made since, or of one that a
request was waiting for. -/
def Supplied (s : Requests) (key : List Component) (c : Compilations) (t : Text) : Prop :=
  ∃ a, c.stage? a = some (.ended (some (.ok t))) ∧
    (s.compilations.stage? a = none ∨ s.Awaits key a)

lemma supplied_mono {c' : Compilations} (hg : Grows c c') (h : s.Supplied key c t) :
    s.Supplied key c' t := by
  obtain ⟨a, hended, hsince⟩ := h
  exact ⟨a, hg.ended a _ hended, hsince⟩

/-- What is known some steps after the last output of a file was forgotten. -/
structure Renewed (s : Requests) (key : List Component) (u : Requests) : Prop where
  known : ∀ a, u.compilations.stage? a = none → s.compilations.stage? a = none
  awaited : ∀ a, u.Awaits key a → s.compilations.stage? a = none ∨ s.Awaits key a
  kept : ∀ out, u.outputs.get? key = some out → s.Supplied key u.compilations out.text

lemma renewed_forget (s : Requests) (source : Path) :
    Renewed s source.key { s with outputs := s.outputs.forget source } where
  known _ h := h
  awaited _ h := Or.inr h
  kept out hout := by
    have hget : (if source.key = source.key then none else s.outputs.get? source.key) = some out :=
      (Table.get?_erase ..).symm.trans hout
    rw [if_pos rfl] at hget
    exact absurd hget.symm (Option.some_ne_none out)

lemma renewed_step (hsound : Sound u.compilations) (hu : Renewed s key u) (hstep : Step u v) :
    Renewed s key v where
  known a ha := by
    rcases compilations_step hstep with heq | hwork
    · exact hu.known a (heq ▸ ha)
    · exact hu.known a (stage?_eq_none_of_step hwork ha)
  awaited a ha := by
    rcases awaits_of_step hsound hstep ha with hbefore | hnone
    · exact hu.awaited a hbefore
    · exact Or.inl (hu.known a hnone)
  kept out hout := by
    have hg := grows_of_step hsound hstep
    rcases output_of_step hstep hout with hbefore | ⟨a, hwait, hended⟩
    · exact supplied_mono hg (hu.kept out hbefore)
    · exact ⟨a, hg.ended a _ hended, hu.awaited a hwait⟩

end Requests

/-- What is known of a request that found its invocation after the last output of a file was
forgotten, if it is for this file. -/
def Phase.Since (s : Requests) (key : List Component) (c : Compilations) : Phase → Prop
  | .asked => False
  | .resolved i => i.source.key = key
  | .stamped i _ => i.source.key = key
  | .reusing _ t => s.Supplied key c t
  | .cancelling t _ _ => s.Supplied key c t
  | .compiling _ _ a => s.compilations.stage? a = none
  | .refused _ => True
  | .reused t _ => s.Supplied key c t
  | .compiled a r => s.compilations.stage? a = none ∧ c.stage? a = some (.ended (some r))

namespace Requests

variable {s u v : Requests} {c : Compilations} {key : List Component} {id x : Nat} {r : Request}
  {phase : Phase} {t : Text}

lemma since_mono {c' : Compilations} (hg : Grows c c') (h : phase.Since s key c) :
    phase.Since s key c' := by
  cases phase with
  | asked | resolved | stamped | compiling | refused => exact h
  | reusing | cancelling | reused => exact supplied_mono hg h
  | compiled a r => exact h.imp_right (hg.ended a _)

def RequestSince (s : Requests) (key : List Component) (u : Requests) (x : Nat) : Prop :=
  ∃ phase, u.phase? x = some phase ∧ phase.Since s key u.compilations

lemma requestSince_enter {outputs : Outputs} (hx : s.RequestSince key u x)
    (hr : u.requests.get? id = some r) (hg : Grows u.compilations c)
    (hphase : r.phase.Since s key u.compilations → phase.Since s key c) :
    s.RequestSince key { u.enter id r phase with compilations := c, outputs := outputs } x := by
  obtain ⟨old, hold, hsince⟩ := hx
  have hget := phase?_enter u id r phase x
  split at hget
  · next heq =>
    subst heq
    obtain rfl := Option.some.inj ((phase?_of_request hr rfl).symm.trans hold)
    exact ⟨phase, hget, hphase hsince⟩
  · exact ⟨old, hget.trans hold, since_mono hg hsince⟩

lemma requestSince_step (hsound : Sound u.compilations) (hcounted : Counted u)
    (hu : Renewed s key u) (hx : s.RequestSince key u x) (hstep : Step u v) :
    s.RequestSince key v x := by
  have hsame := grows_refl u.compilations
  cases hstep with
  | work hwork =>
    obtain ⟨phase, hphase, hsince⟩ := hx
    exact ⟨phase, hphase, since_mono (grows_step hsound hwork) hsince⟩
  | forget | clear => exact hx
  | ask source given =>
    -- a new request does not take the number of one that there is
    obtain ⟨phase, hphase, hsince⟩ := hx
    have hne : x ≠ u.next := Nat.ne_of_lt (hcounted x phase hphase)
    exact ⟨phase, (phase?_enter ..).trans ((if_neg hne).trans hphase), hsince⟩
  | resolve hr hphase hfound => exact requestSince_enter hx hr hsame fun h => (hphase ▸ h).elim
  | refuse hr hphase hfound => exact requestSince_enter hx hr hsame fun _ => trivial
  | read host hr hphase => exact requestSince_enter hx hr hsame fun h => (hphase ▸ h :)
  | @reuse id r i stamp t hr hphase hkept =>
    refine requestSince_enter hx hr hsame fun h => ?_
    have hkey : i.source.key = key := by
      rw [hphase] at h
      exact h
    obtain ⟨now, -, hup⟩ := Option.bind_eq_some_iff.mp hkept
    unfold Outputs.upToDate? at hup
    split at hup
    · next out hout =>
      split at hup
      · exact Option.some.inj hup ▸ hu.kept out (hkey ▸ hout)
      · exact absurd hup.symm (Option.some_ne_none t)
    · exact absurd hup.symm (Option.some_ne_none t)
  | @vacate id r i t hr hphase hlock =>
    have hg := grows_of_step hsound (.vacate hr hphase hlock)
    exact requestSince_enter hx hr hg fun h => supplied_mono hg (hphase ▸ h :)
  | answer hr hphase htold => exact requestSince_enter hx hr hsame fun h => (hphase ▸ h :)
  | @draw id r i stamp hr hphase hkept =>
    have hg := grows_of_step hsound (.draw hr hphase hkept)
    exact requestSince_enter hx hr hg fun _ => hu.known _ (stage?_next hsound)
  | keep hr hphase hended => exact requestSince_enter hx hr hsame fun h => ⟨(hphase ▸ h :), hended⟩

lemma renewed_of_run {options : CompileOptions} (hu : Reachable options u) (hs : Renewed s key u)
    (hrun : Relation.ReflTransGen Step u v) : Renewed s key v := by
  induction hrun with
  | refl => exact hs
  | tail hrun hstep ih =>
    have hreach := reachable_compilations (reachable_of_run hu hrun)
    exact renewed_step (sound_of_reachable hreach) ih hstep

lemma requestSince_of_run {options : CompileOptions} (hu : Reachable options u)
    (hs : Renewed s key u) (hx : s.RequestSince key u x)
    (hrun : Relation.ReflTransGen Step u v) : s.RequestSince key v x := by
  induction hrun with
  | refl => exact hx
  | tail hrun hstep ih =>
    have hreach := reachable_of_run hu hrun
    have hsound := sound_of_reachable (reachable_compilations hreach)
    exact requestSince_step hsound (counted_of_reachable hreach) (renewed_of_run hu hs hrun) ih hstep

end Requests

/-- The last output of a file is forgotten, and then a request finds its invocation for the file. If
it is answered with a text, that is what a run came to; and if the compiler of the run had been
started before, then a request was waiting for the run. -/
theorem text_after_forgotten_output {options : CompileOptions} {s u w : Requests}
    (hs : Requests.Reachable options s) (source : Path)
    (hu : Relation.ReflTransGen Requests.Step { s with outputs := s.outputs.forget source } u)
    {x : Nat} {i : Invocation} (hx : u.phase? x = some (.resolved i))
    (hkey : i.source.key = source.key) (hw : Relation.ReflTransGen Requests.Step u w)
    {phase : Phase} {t : Text} (hphase : w.phase? x = some phase) (ht : phase.text? = some t) :
    ∃ a, w.compilations.stage? a = some (.ended (some (.ok t))) ∧
      (s.compilations.HasStarted a → s.Awaits source.key a) := by
  have hforget := hs.step (.forget s source)
  have hrenewed := Requests.renewed_of_run hforget (Requests.renewed_forget s source) hu
  have hreach := Requests.reachable_of_run hforget hu
  obtain ⟨last, hlast, hsince⟩ := Requests.requestSince_of_run hreach hrenewed ⟨_, hx, hkey⟩ hw
  obtain rfl : last = phase := Option.some.inj (hlast.symm.trans hphase)
  have hstarted : ∀ a, s.compilations.stage? a = none → ¬s.compilations.HasStarted a := by
    rintro a hnone ⟨stage, hstage, -⟩
    exact absurd (hstage.symm.trans hnone) (Option.some_ne_none stage)
  -- a text came from the last output, or from a run of the request itself
  have hsupplied : s.Supplied source.key w.compilations t := by
    cases last with
    | reused t' earlier =>
      obtain rfl := Option.some.inj ht
      exact hsince
    | compiled a r =>
      cases r with
      | ok t' =>
        obtain rfl := Option.some.inj ht
        exact ⟨a, hsince.2, Or.inl hsince.1⟩
      | error failure => exact absurd ht.symm (Option.some_ne_none t)
    | asked | resolved | stamped | reusing | cancelling | compiling | refused =>
      exact absurd ht.symm (Option.some_ne_none t)
  obtain ⟨a, hended, hmade⟩ := hsupplied
  exact ⟨a, hended, fun h => hmade.resolve_left fun hnone => hstarted a hnone h⟩

def sourceHost : Host :=
  shellHost [("main.c", textFile "int x;\n")]

/-- The output is forgotten while the first run goes on, and the second request gets its text. -/
theorem text_after_forgotten_output_of_true_runs :
    ∃ s w a, Requests.Reachable trueOptions s ∧ s.compilations.HasStarted 0 ∧
      Relation.ReflTransGen Requests.Step
        { s with outputs := s.outputs.forget trueRequest.source } w ∧
      s.phase? 1 = none ∧ w.phase? 1 = some (.reused [] [0]) ∧
      w.compilations.stage? a = some (.ended (some (.ok []))) ∧
      (s.compilations.HasStarted a → s.Awaits trueRequest.source.key a) := by
  have h0 : Requests.Reachable trueOptions _ := .start
  have h1 := h0.step (.ask _ trueRequest.source trueRequest.given)
  have h2 := h1.step (@Requests.Step.resolve _ 0 trueRequest _ _ rfl rfl invocationFor_trueRequest)
  have h3 := h2.step (@Requests.Step.read _ 0 _ _ sourceHost rfl rfl)
  have h4 := h3.step (@Requests.Step.draw _ 0 _ _ _ rfl rfl rfl)
  have h5 := (h4.step (.work (@Step.place _ 0 _ rfl rfl rfl))).step
    (.work (@Step.tell _ 0 _ _ rfl rfl))
  have h6 := h5.step (.work (@Step.advance _ 0 _ _ _ _ (.locate trueHost) rfl rfl rfl))
  have h7 := h6.step (.work
    (@Step.advance _ 0 _ _ _ _ (.start trueHost) rfl rfl (advance_trueRun rfl rfl)))
  have hrefl : ∀ {s}, Requests.Reachable trueOptions s →
      Relation.ReflTransGen Requests.Step s s := fun _ => .refl
  have h8 := hrefl (h7.step (.forget _ trueRequest.source))
  have h9 := h8.tail (.work (@Step.advance _ 0 _ _ _ _ (.capture emptyCapture) rfl rfl rfl))
  have h10 := h9.tail (.work (@Step.advance _ 0 _ _ _ _ .conclude rfl rfl rfl))
  have h11 := h10.tail (.work (@Step.leave _ 0 _ _ rfl rfl rfl))
  have h12 := h11.tail (@Requests.Step.keep _ 0 _ _ _ _ _ rfl rfl rfl)
  have h13 := h12.tail (.ask _ trueRequest.source trueRequest.given)
  have h14 := h13.tail
    (@Requests.Step.resolve _ 1 trueRequest _ _ rfl rfl invocationFor_trueRequest)
  have h15 := (hrefl (Requests.reachable_of_run (h7.step (.forget _ _)) h14)).tail
    (@Requests.Step.read _ 1 _ _ sourceHost rfl rfl)
  have h16 := h15.tail (@Requests.Step.reuse _ 1 _ _ _ _ rfl rfl rfl)
  have h17 := h16.tail (@Requests.Step.vacate _ 1 _ _ _ rfl rfl rfl)
  have h18 := h17.tail (.work (@Step.release _ _ rfl rfl))
  have h19 := h18.tail
    (@Requests.Step.answer _ 1 _ _ _ _ rfl rfl fun a ha => absurd ha List.not_mem_nil)
  obtain ⟨a, hended, hstarted⟩ := @text_after_forgotten_output trueOptions _ _ _ h7
    trueRequest.source h14 1 _ rfl rfl h19 (.reused [] [0]) [] rfl rfl
  exact ⟨_, _, a, h7, ⟨_, rfl, trivial⟩, h14.trans h19, rfl, rfl, hended, hstarted⟩

def forgottenHost (t : String) : Host :=
  shellHost [("sleep", .program "sleep".toList), ("main.c", textFile "int x;\n"),
    ("text", textFile t), ("cc.sh", textFile "cat /text\nsleep 1\n")]

/-- While a compilation sleeps, the output is forgotten and the text changes. What the compilation
comes to, what the next request is answered, and what a compilation gives by then. -/
def forgottenAnswers : Option Text × Option Text × Option Text :=
  let main := .ofString "/main.c"
  let given := ["sh".toList, "/cc.sh".toList]
  let changed := forgottenHost "newer\n"
  let going := ((Explorer.ofSettings (forgottenHost "older\n") shellSettings).request main given).1
  let ended := ((going.invalidate main).withFiles changed.files).wait 0
  (ended.2.toOption, (ended.1.compile main given).2.toOption,
    ((Explorer.ofSettings changed shellSettings).compile main given).2.toOption)

set_option maxRecDepth 10000 in
/-- The text from before is the answer to the later request. -/
theorem forgotten_text_answers :
    forgottenAnswers = (some "older".toList, some "older".toList, some "newer".toList) := by
  decide +kernel

end AsmExplorer.Proofs
