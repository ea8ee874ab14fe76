import AsmExplorer.Proofs.RunInterleavings

/-!
# Checks that come late

What the final check of a run comes to after its place was taken away or given to a later run. A
cancellation that has returned leaves nothing to deliver. A later begin does, for as long as yet
another begin owes the run the word: it keeps no lock while it is on its way to tell it.
-/

namespace AsmExplorer.Proofs

/-- Both programs of a compilation succeeded. -/
def Succeeds (c : Capture) : Prop :=
  c.compilerStatus.isSuccess = true ∧ c.demanglerStatus.isSuccess = true

/-- Whether the begin of a run has returned. -/
def Stage.HasBegun : Stage → Prop
  | .drawn => False
  | .placed _ => False
  | .inside _ => True
  | .ended _ => True

/-- Whether the final check of a run has succeeded. -/
def Stage.HasDelivered : Stage → Prop
  | .inside progress => ∃ text, progress.result? = some (.ok text)
  | .ended result => ∃ text, result = some (.ok text)
  | _ => False

namespace Compilations

/-- Whether the final check of a run comes next. -/
def AtCheck (s : Compilations) (a : Nat) (run : Run) (c : Capture) : Prop :=
  s.stage? a = some (.inside (.captured run c))

/-- Whether the final check of a run comes to a text. -/
def Delivers (s : Compilations) (run : Run) (c : Capture) : Prop :=
  ∃ text, s.pipeline.conclude run c = .ok text

/-- Whether a run got its place after another one of the same source file. -/
def Follows (s : Compilations) (b a : Nat) : Prop :=
  [b, a].Sublist s.order ∧ s.key? b = s.key? a

/-- Whether a begin that took the place of a run has yet to tell it to stop. -/
def Owes (s : Compilations) (d a : Nat) : Prop :=
  s.stage? d = some (.placed (some a))

def HasBegun (s : Compilations) (b : Nat) : Prop :=
  ∃ stage, s.stage? b = some stage ∧ stage.HasBegun

def HasDelivered (s : Compilations) (b : Nat) : Prop :=
  ∃ stage, s.stage? b = some stage ∧ stage.HasDelivered

variable {s : Compilations} {a b d : Nat} {run : Run} {c : Capture}

lemma begun_of_delivered (h : s.HasDelivered b) : s.HasBegun b := by
  obtain ⟨stage, hstage, hdelivered⟩ := h
  refine ⟨stage, hstage, ?_⟩
  cases stage with
  | drawn => exact hdelivered.elim
  | placed previous => exact hdelivered.elim
  | inside progress => trivial
  | ended result => trivial

lemma not_begun_of_owes (h : s.Owes d a) : ¬s.HasBegun d := by
  rintro ⟨stage, hstage, hbegun⟩
  obtain rfl := Option.some.inj (h.symm.trans hstage)
  exact hbegun

lemma delivers_iff (s : Compilations) (run : Run) (c : Capture) :
    s.Delivers run c ↔ Succeeds c ∧ s.isStopped run.id = false := by
  have hstopped : s.pipeline.isStopped run = s.isStopped run.id := rfl
  unfold Delivers Pipeline.conclude Capture.conclude Succeeds
  rw [hstopped]
  cases hc : c.compilerStatus.isSuccess with
  | false => simp
  | true =>
    cases hd : c.demanglerStatus.isSuccess with
    | false => simp
    | true => cases s.isStopped run.id <;> simp

/-- The final check comes to a text exactly if the run is held. -/
lemma delivers_iff_held (hs : Sound s) (hn : Numbered s) (hcheck : s.AtCheck a run c) :
    s.Delivers run c ↔ Succeeds c ∧ ∃ h, s.Holds a h := by
  have hid : run.id = a := hn a _ run hcheck rfl
  rw [delivers_iff, hid]
  refine and_congr_right fun _ => ⟨fun hstopped => ?_, ?_⟩
  · have hplaced : a ∈ s.order := (hs.placed_iff a).mpr ⟨_, hcheck, Stage.noConfusion⟩
    rcases hs.held_or_told a hplaced with hheld | htold | ⟨result, hended⟩
    · exact hheld
    · exact absurd (hstopped.symm.trans htold) Bool.false_ne_true
    · exact Stage.noConfusion (Option.some.inj (hcheck.symm.trans hended))
  · rintro ⟨h, hheld⟩
    exact hs.held_unstopped a h hheld

/-- Only a begin that owes it the word holds a run that another one follows. -/
lemma held_iff_owed (hs : Sound s) (hfollows : s.Follows b a) :
    (∃ h, s.Holds a h) ↔ ∃ d, s.Owes d a := by
  constructor
  · rintro ⟨h, hheld⟩
    by_cases hbegin : ∃ d, h = .begin d
    · obtain ⟨d, rfl⟩ := hbegin
      exact ⟨d, hheld⟩
    · have hne : ∀ d, h ≠ .begin d := fun d heq => hbegin ⟨d, heq⟩
      exact absurd hfollows.2 (hs.latest a h hheld hne b hfollows.1)
  · rintro ⟨d, howes⟩
    exact ⟨.begin d, howes⟩

/-- A run that is followed by one whose begin has returned delivers exactly if another begin owes it
the word. -/
lemma delivers_iff_owed (hs : Sound s) (hn : Numbered s) (hcheck : s.AtCheck a run c)
    (hfollows : s.Follows b a) (hbegun : s.HasBegun b) :
    s.Delivers run c ↔ Succeeds c ∧ ∃ d, d ≠ b ∧ s.Owes d a := by
  rw [delivers_iff_held hs hn hcheck, held_iff_owed hs hfollows]
  refine and_congr_right fun _ => exists_congr fun d => ?_
  rw [iff_and_self]
  rintro howes rfl
  exact not_begun_of_owes howes hbegun

end Compilations

open Compilations

/-- What the checks of runs come to that were cancelled or followed by others. -/
structure LateChecks (s : Compilations) : Prop where
  /-- A cancellation that has returned leaves nothing to deliver. -/
  removed : ∀ a run c, s.AtCheck a run c → a ∈ s.removed → ¬s.Delivers run c
  /-- A run that is followed by one whose begin has returned delivers exactly if the begin of a
  third one, which took its place, has yet to tell it to stop. -/
  followed : ∀ a b run c, s.AtCheck a run c → s.Follows b a → s.HasBegun b →
    (s.Delivers run c ↔ Succeeds c ∧ ∃ d, d ≠ b ∧ s.Owes d a)
  /-- So it delivers out of order exactly then. -/
  inOrder : ∀ a b run c, s.AtCheck a run c → s.Follows b a → s.HasDelivered b →
    (s.Delivers run c ↔ Succeeds c ∧ ∃ d, d ≠ b ∧ s.Owes d a)

/-- In every interleaving, a late check delivers nothing unless a begin is on its way to tell the
run to stop. -/
theorem lateChecks_of_reachable {options : CompileOptions} {s : Compilations}
    (h : Reachable options s) : LateChecks s := by
  have hs := sound_of_reachable h
  have hn := numbered_of_reachable h
  refine ⟨fun a run c hcheck hremoved hdelivers => ?_, ?_, ?_⟩
  · have hstopped := (told_of_reachable h).removed a hremoved
    rw [delivers_iff, hn a _ run hcheck rfl, hstopped] at hdelivers
    exact Bool.false_ne_true hdelivers.2.symm
  · intro a b run c hcheck hfollows hbegun
    exact delivers_iff_owed hs hn hcheck hfollows hbegun
  · intro a b run c hcheck hfollows hdelivered
    exact delivers_iff_owed hs hn hcheck hfollows (begun_of_delivered hdelivered)

/-! ### Three calls of one source file -/

/-- A host whose only program succeeds at once. -/
def trueHost : Host where
  files :=
    ⟨(Table.empty.insert [] (.directory, 0)).insert ["true".toList] (.program "true".toList, 0), 0⟩
  directory := []
  searchPath := []
  home := []

def trueOptions : CompileOptions := { demanglerPath := some (.ofString "/true") }

def trueInvocation : Invocation := ⟨.ofString "/main.c", .ofString "/", "/true".toList, []⟩

def trueCommand : CompileCommand := .ofInvocation trueOptions trueInvocation []

def trueRun (id : Nat) : Run := ⟨id, trueInvocation.source, trueCommand, .ofString "/true"⟩

def emptyCapture : Capture := ⟨.code 0, [], .code 0, [], []⟩

lemma advance_trueRun {p : Pipeline} {id : Nat} {call : Call}
    (hcall : call.invocation = trueInvocation) (hid : p.isStopped (trueRun id) = false) :
    Progress.advance p id call (.located (trueRun id)) (.start trueHost) =
      some (p, .started (trueRun id)) := by
  have hcompiler : (Toolchain.startCompiler trueHost trueCommand trueInvocation.directory).isOk =
      true := by decide +kernel
  have hdemangler : (Toolchain.startDemangler trueHost (.ofString "/true")).isOk = true := by
    decide +kernel
  simp only [Progress.advance, Pipeline.start, hcall, hid]
  simp only [trueRun]
  cases hc : Toolchain.startCompiler trueHost trueCommand trueInvocation.directory with
  | error e =>
    rw [hc] at hcompiler
    exact absurd hcompiler Bool.false_ne_true
  | ok compiler =>
    cases hd : Toolchain.startDemangler trueHost (.ofString "/true") with
    | error e =>
      rw [hd] at hdemangler
      exact absurd hdemangler Bool.false_ne_true
    | ok demangler => rfl

/-- The first of three runs is at its check while the second has its place and has not told it yet.
The third one has taken the place of the second one and has delivered. The first one delivers all
the same. -/
theorem followed_run_delivers :
    ∃ s a b run c, Reachable trueOptions s ∧ s.AtCheck a run c ∧ s.Follows b a ∧ s.HasBegun b ∧
      s.HasDelivered b ∧ s.Delivers run c := by
  have h0 : Reachable trueOptions _ := .start
  have h1 := (h0.step (.draw _ trueInvocation [])).step (.draw _ trueInvocation [])
  have h2 := h1.step (.draw _ trueInvocation [])
  have h3 := (h2.step (@Step.place _ 0 _ rfl rfl rfl)).step (@Step.tell _ 0 _ _ rfl rfl)
  have h4 := h3.step (@Step.advance _ 0 _ _ _ _ (.locate trueHost) rfl rfl rfl)
  have h5 := h4.step (@Step.advance _ 0 _ _ _ _ (.start trueHost) rfl rfl (advance_trueRun rfl rfl))
  have h6 := h5.step (@Step.advance _ 0 _ _ _ _ (.capture emptyCapture) rfl rfl rfl)
  have h7 := h6.step (@Step.place _ 1 _ rfl rfl rfl)
  have h8 := (h7.step (@Step.place _ 2 _ rfl rfl rfl)).step (@Step.tell _ 2 _ _ rfl rfl)
  have h9 := h8.step (@Step.advance _ 2 _ _ _ _ (.locate trueHost) rfl rfl rfl)
  have h10 := h9.step
    (@Step.advance _ 2 _ _ _ _ (.start trueHost) rfl rfl (advance_trueRun rfl rfl))
  have h11 := h10.step (@Step.advance _ 2 _ _ _ _ (.capture emptyCapture) rfl rfl rfl)
  have h12 := h11.step (@Step.advance _ 2 _ _ _ _ .conclude rfl rfl rfl)
  exact ⟨_, 0, 2, _, _, h12, rfl, ⟨by decide, rfl⟩, ⟨_, rfl, trivial⟩, ⟨_, rfl, _, rfl⟩, ⟨_, rfl⟩⟩

end AsmExplorer.Proofs
