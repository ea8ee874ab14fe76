import AsmExplorer.Explorer.Basic
import AsmExplorer.Proofs.ShellHost
import AsmExplorer.Proofs.WritingCompilers

/-!
# Output that is refused

A compiler that writes more than the demangler reads may be refused, but not before what passes its
output on has stopped.
-/

namespace AsmExplorer.Proofs

open Machine

section

variable {compiler demangler : Process}

/-! ### What a compilation comes to -/

variable {m' : Machine} {crew : Crew} {c : Capture}

lemma status_of_capture (h : crew.capture? m' = some c) :
    m'.status? crew.compiler = some c.compilerStatus := by
  obtain ⟨statuses, hstatuses, rfl⟩ := Option.map_eq_some_iff.mp h
  unfold Crew.statuses? at hstatuses
  split at hstatuses
  · cases hstatuses
  · split at hstatuses
    · split at hstatuses
      · next a b ha hb =>
        obtain rfl := Option.some.inj hstatuses
        exact ha
      · cases hstatuses
    · cases hstatuses

lemma conclude_ok (hcompiler : c.compilerStatus.isSuccess = true)
    (hdemangler : c.demanglerStatus.isSuccess = true) (program name : Text) :
    c.conclude program name false = .ok c.text := by
  simp [Capture.conclude, hcompiler, hdemangler]

/-- A compiler that succeeds if it is never refused, and a demangler that has succeeded, give the
demangled text, unless somebody has been refused who wrote to the compiler's output. That is only after
what passes the output on has stopped, because nothing came any more, or because it has been refused by
the demangler itself, or by a signal. If it is the compiler that is refused, and it has taken no
precaution, the compilation has failed. -/
theorem concludes_or_refusal {m : Machine} (hm : Allotted m) (compiler demangler : Process)
    (hcompiler : ∀ s status, Unrefused (forwarding m).source (started m compiler demangler) s →
      s.machine.status? (Toolchain.drive m compiler demangler).2.compiler = some status →
      status.isSuccess = true)
    {m' : Machine} (hrun : Moment.Steps (started m compiler demangler) ⟨m', none⟩) {c : Capture}
    (hc : (Toolchain.drive m compiler demangler).2.capture? m' = some c)
    (hdemangler : c.demanglerStatus.isSuccess = true) (program name : Text) :
    c.conclude program name false = .ok c.text ∨
      ∃ r r' t, Moment.Steps (started m compiler demangler) r ∧
        r.Refusal r' t (forwarding m).source ∧ Moment.Steps r' ⟨m', none⟩ ∧
        (∃ g g', Moment.Steps (started m compiler demangler) g ∧ (forwarding m).Stops g g' ∧
          Moment.Steps g' r) ∧
        (t.id = (Toolchain.drive m compiler demangler).2.compiler →
          t.disposition Signal.pipe = .byDefault → c.conclude program name false =
            .error (.compileFailed program "signal: 13 (SIGPIPE)".toList c.compilerStderr)) := by
  have hstatus := status_of_capture hc
  have horderly := orderly_started hm compiler demangler
  rcases unrefused_or_refusal (forwarding m).source hrun with
    hunrefused | ⟨r, r', t, hfirst, hrefusal, hlast⟩
  · have hsuccess := hcompiler ⟨m', none⟩ _ hunrefused hstatus
    exact Or.inl (conclude_ok hsuccess hdemangler program name)
  · have hsteps := steps_of_unrefused hfirst
    refine Or.inr ⟨r, r', t, hsteps, hrefusal, hlast, ?_, fun hid hprecaution => ?_⟩
    · rcases (atWork_started hm compiler demangler).steps (by decide) hsteps with hwork | hstopped
      · exact absurd hrefusal hwork.not_refusal
      · obtain ⟨g, g', hbefore, -, hafter, hstops⟩ := hstopped
        exact ⟨g, g', hbefore, hstops, hafter⟩
    · have hr := horderly.steps hsteps
      obtain ⟨number, bytes, next, n, o, hactive, -⟩ := hrefusal.writes
      have hself := hr.active_mem hactive
      have hparent := parent_compiler hm hsteps hself hid
      have hended := status_of_refusal hr hrefusal hparent hprecaution
      have hkept := Moment.status_of_steps (hr.step hrefusal.step) hlast hended
      have hbroken : c.compilerStatus = .brokenPipe :=
        Option.some.inj (hstatus.symm.trans (hid ▸ hkept))
      unfold Capture.conclude
      rw [hbroken]
      rfl

end

/-- A compiler that writes three times and sleeps in between. -/
def threePieces : Process :=
  .call (.write 1 (Utf8.encode "first\n".toList)) fun _ => .call (.sleep 1) fun _ =>
    .call (.write 1 (Utf8.encode "second\n".toList)) fun _ => .call (.sleep 1) fun _ =>
      .call (.write 1 (Utf8.encode "third\n".toList)) fun _ => .ended (.code 0)

/-- A demangler that passes on one piece of what it could read, and then succeeds. -/
def onePiece : Process :=
  .call (.read 0 100) fun r => .call (.write 1 (r.toOption.getD [])) fun _ => .ended (.code 0)

def idleMachine : Machine :=
  (Machine.ofFiles default).strengthen 10000

lemma allotted_idleMachine : Allotted idleMachine where
  staffed := ⟨List.nodup_nil, fun _ h => absurd h List.not_mem_nil, fun _ h => absurd h List.not_mem_nil,
    fun _ h => absurd h List.not_mem_nil, fun _ h => absurd h List.not_mem_nil⟩
  plumbed := ⟨List.nodup_nil, fun _ h => absurd h List.not_mem_nil, fun _ h => absurd h List.not_mem_nil,
    fun _ h => absurd h List.not_mem_nil, fun _ => Nat.le_refl _, fun _ => Nat.le_refl _⟩
  streams _ h := absurd h List.not_mem_nil

def atRest (m : Machine) : Machine :=
  m.settle 10000 (fun _ => false) 10

/-- The machine when both programs have ended. -/
def afterPieces : Machine :=
  atRest ((atRest ((atRest (started idleMachine threePieces onePiece).machine).moveTo 1)).moveTo 2)

def oneOfThree : Capture where
  compilerStatus := .brokenPipe
  compilerStderr := []
  demanglerStatus := .code 0
  demanglerStderr := []
  output := Utf8.encode "first\n".toList

lemma steps_afterPieces :
    Moment.Steps (started idleMachine threePieces onePiece) ⟨afterPieces, none⟩ := by
  have hrest : ∀ m : Machine, Moment.Steps ⟨m, none⟩ ⟨atRest m, none⟩ :=
    fun m => Moment.steps_settle 10000 (fun _ => false) 10 m
  have hpass : ∀ (m : Machine) (time : Nat), Moment.Steps ⟨m, none⟩ ⟨m.moveTo time, none⟩ :=
    fun m time => .single (.pass m time)
  exact (hrest _).trans ((hpass _ 1).trans ((hrest _).trans ((hpass _ 2).trans (hrest _))))

lemma writes_threePieces : Writes threePieces :=
  .write _ fun _ => .sleep 1 fun _ => .write _ fun _ => .sleep 1 fun _ => .write _ fun _ => .done

lemma peaceful_onePiece : Peaceful onePiece :=
  .call (fun _ _ h => nomatch h) fun _ => .call (fun _ _ h => nomatch h) fun _ => .ended _

/-- The third piece is refused. -/
theorem refusal_of_third_piece :
    let start := started idleMachine threePieces onePiece
    let crew := (Toolchain.drive idleMachine threePieces onePiece).2
    Allotted idleMachine ∧
      (∀ s status, Unrefused (forwarding idleMachine).source start s →
        s.machine.status? crew.compiler = some status → status.isSuccess = true) ∧
      Moment.Steps start ⟨afterPieces, none⟩ ∧ crew.capture? afterPieces = some oneOfThree ∧
      oneOfThree.demanglerStatus.isSuccess = true ∧
      ∃ r r' t, Moment.Steps start r ∧ r.Refusal r' t (forwarding idleMachine).source ∧
        Moment.Steps r' ⟨afterPieces, none⟩ ∧
        ∃ g g', Moment.Steps start g ∧ (forwarding idleMachine).Stops g g' ∧ Moment.Steps g' r := by
  intro start crew
  have hcompiler : ∀ s status, Unrefused (forwarding idleMachine).source start s →
      s.machine.status? crew.compiler = some status → status.isSuccess = true :=
    fun s status hrun hstatus => success_of_writes allotted_idleMachine
      (fun _ h => absurd h List.not_mem_nil) writes_threePieces peaceful_onePiece hrun hstatus
  have hcapture : crew.capture? afterPieces = some oneOfThree := by decide +kernel
  have hresult := concludes_or_refusal allotted_idleMachine threePieces onePiece hcompiler
    steps_afterPieces hcapture (by decide) [] []
  have hfailed : oneOfThree.conclude [] [] false ≠ .ok oneOfThree.text := by decide +kernel
  obtain ⟨r, r', t, hfirst, hrefusal, hlast, hstopped, -⟩ := hresult.resolve_left hfailed
  exact ⟨allotted_idleMachine, hcompiler, steps_afterPieces, hcapture, by decide, r, r', t, hfirst,
    hrefusal, hlast, hstopped⟩

/-- The settings with another demangler. -/
def demangledBy (demangler : String) : Settings :=
  { shellSettings with demanglerPath := some (.ofString demangler) }

/-- A host with a demangler that reads one line only, and a compiler that writes three lines and sleeps
in between. -/
def firstLineHost : Host :=
  shellHost [("head", .program "head".toList), ("sleep", .program "sleep".toList),
    ("first", .file (Utf8.encode "#!/sh\nhead -n 1\n".toList) true), ("main.c", textFile "int x;\n"),
    ("cc.sh", textFile "echo first\nsleep 1\necho second\nsleep 1\necho third\n")]

def linesDemangledBy (demangler : String) : Except Failure Text :=
  ((Explorer.ofSettings firstLineHost (demangledBy demangler)).compile (.ofString "/main.c")
    ["sh".toList, "/cc.sh".toList]).2

set_option maxRecDepth 10000 in
/-- A compiler that succeeds when all of its output is read has failed when the demangler stops reading
and succeeds. -/
theorem compiler_fails_after_first_line :
    linesDemangledBy "cat" = .ok "first\nsecond\nthird".toList ∧ linesDemangledBy "first" =
      .error (.compileFailed "sh".toList "signal: 13 (SIGPIPE)".toList []) :=
  ⟨by decide +kernel, by decide +kernel⟩

end AsmExplorer.Proofs
