import AsmExplorer.Proofs.ConcurrentRuns

/-!
# Holders of runs

The invariant of compilations at the same time: a run that has a place or has lost it without being
told is held, by its place, by the begin that owes it the word, or by the cancellation that does. One
holder is all it ever has, and a run that is not held was told to stop or is over.

Most steps only narrow what holders hold. A call that is made changes nothing, and a run that gets a
place is held by it, while its begin holds the run that had it.
-/

namespace AsmExplorer.Proofs

open Compilations

/-! ### Holders -/

/-- What keeps a run from being told to stop, or is about to tell it. -/
inductive Holder where
  | place (key : List Component)
  | begin (id : Nat)
  | removal

namespace Compilations

variable {s t : Compilations} {a b id : Nat} {call : Call} {h : Holder}

/-- Whether a run is held by a holder. -/
def Holds (s : Compilations) (a : Nat) : Holder → Prop
  | .place key => s.pipeline.runs.current.get? key = some a
  | .begin id => s.stage? id = some (.placed (some a))
  | .removal => ∃ r, s.removal = some r ∧ a ∈ r.untold

/-! ### What a step does to holders -/

lemma holds_draw (s : Compilations) (i : Invocation) (given : List Text)
    (hnew : s.stage? s.pipeline.runs.next = none) :
    (s.draw i given).Holds a h ↔ s.Holds a h := by
  cases h with
  | place key => exact Iff.rfl
  | removal => exact Iff.rfl
  | begin d =>
    have hstage : (s.draw i given).stage? d =
        if d = s.pipeline.runs.next then some .drawn else s.stage? d := stage?_reach ..
    simp only [Holds, hstage]
    split
    · next hd => simp [hd, hnew]
    · exact Iff.rfl

/-- A run that gets a place holds it alone, and its begin holds the run that had it. -/
lemma holds_place (hcall : s.calls.get? id = some call) (hstage : call.stage = .drawn) :
    (s.place id call).Holds a h ↔
      (h = .place call.invocation.source.key ∧ a = id) ∨
      (h = .begin id ∧ s.Holds a (.place call.invocation.source.key)) ∨
      (h ≠ .place call.invocation.source.key ∧ s.Holds a h) := by
  cases h with
  | place key =>
    have hget : (s.place id call).pipeline.runs.current.get? key =
        if key = call.invocation.source.key then some id
        else s.pipeline.runs.current.get? key := Table.get?_insert ..
    simp only [Holds, hget]
    by_cases hkey : key = call.invocation.source.key
    · simp [hkey, eq_comm]
    · simp [hkey]
  | begin d =>
    have hget : (s.place id call).stage? d =
        if d = id then some (.placed (s.pipeline.runs.current.get? call.invocation.source.key))
        else s.stage? d := stage?_reach ..
    simp only [Holds, hget]
    by_cases hd : d = id
    · simp [hd, stage?_of_call hcall, hstage]
    · simp [hd]
  | removal =>
    have hsame : (s.place id call).removal = s.removal := rfl
    simp [Holds, hsame]

/-- The begin that owed a run the word holds it no longer. -/
lemma holds_tell {previous : Option Nat} :
    (s.tell id call previous).Holds a h ↔ s.Holds a h ∧ h ≠ .begin id := by
  cases h with
  | place key => simp [Holds, tell, reach, withRuns]
  | begin d =>
    have hget : (s.tell id call previous).stage? d =
        if d = id then some (.inside .begun) else s.stage? d := stage?_reach ..
    simp only [Holds, hget]
    by_cases hd : d = id
    · simp [hd]
    · simp [hd]
  | removal =>
    have hsame : (s.tell id call previous).removal = s.removal := rfl
    simp [Holds, hsame]

lemma isStopped_tell {previous : Option Nat} (hcall : s.calls.get? id = some call)
    (hstage : call.stage = .placed previous) :
    (s.tell id call previous).isStopped a = true ↔
      s.isStopped a = true ∨ s.Holds a (.begin id) := by
  have hstop : (s.tell id call previous).isStopped a =
      (s.pipeline.runs.stopAll previous.toList).isStopped a := rfl
  rw [hstop, RunRegistry.isStopped_stopAll]
  simp [Holds, stage?_of_call hcall, hstage, isStopped]

lemma holds_advance {p : Pipeline} {progress next : Progress} (hcall : s.calls.get? id = some call)
    (hstage : call.stage = .inside progress) (hruns : p.runs = s.pipeline.runs) :
    ({ s with pipeline := p }.reach id call (.inside next)).Holds a h ↔ s.Holds a h := by
  cases h with
  | place key => simp [Holds, reach, hruns]
  | begin d =>
    have hget : ({ s with pipeline := p }.reach id call (.inside next)).stage? d =
        if d = id then some (.inside next) else s.stage? d := stage?_reach ..
    simp only [Holds, hget]
    by_cases hd : d = id
    · simp [hd, stage?_of_call hcall, hstage]
    · simp [hd]
  | removal => exact Iff.rfl

/-- A run that leaves is held no longer by the place of its source file. -/
lemma holds_leave {progress : Progress} (hcall : s.calls.get? id = some call)
    (hstage : call.stage = .inside progress) :
    (s.leave id call progress).Holds a h ↔
      s.Holds a h ∧ ¬(h = .place call.invocation.source.key ∧ a = id) := by
  cases h with
  | place key =>
    have hruns : (s.leave id call progress).pipeline.runs =
        s.pipeline.runs.finish call.invocation.source id := rfl
    simp only [Holds, hruns, RunRegistry.finish]
    by_cases hkey : key = call.invocation.source.key
    · subst hkey
      split
      · next hid => simp [Table.get?_erase, hid, eq_comm]
      · next hid =>
        constructor
        · intro ha
          exact ⟨ha, fun hboth => hid (hboth.2 ▸ ha)⟩
        · exact And.left
    · split
      · simp [Table.get?_erase, hkey]
      · simp [hkey]
  | begin d =>
    have hget : (s.leave id call progress).stage? d =
        if d = id then some (.ended progress.result?) else s.stage? d := stage?_reach ..
    simp only [Holds, hget]
    by_cases hd : d = id
    · simp [hd, stage?_of_call hcall, hstage]
    · simp [hd]
  | removal =>
    have hsame : (s.leave id call progress).removal = s.removal := rfl
    simp [Holds, hsame]

lemma isStopped_leave (s : Compilations) (id : Nat) (call : Call) (progress : Progress) :
    (s.leave id call progress).isStopped a = s.isStopped a := by
  have hruns : (s.leave id call progress).isStopped a =
      (s.pipeline.runs.finish call.invocation.source id).isStopped a := rfl
  rw [hruns, RunRegistry.finish]
  split <;> rfl

lemma holds_strike {r : Removal} (hremoval : s.removal = some r) :
    (s.strike r id).Holds a h ↔ s.Holds a h ∧ ¬(h = .removal ∧ a = id) := by
  cases h with
  | place key => simp [Holds, strike, withRuns]
  | begin d =>
    have hsame : (s.strike r id).stage? d = s.stage? d := rfl
    simp [Holds, hsame]
  | removal =>
    have hnew : (s.strike r id).removal =
        some { r with untold := r.untold.filter fun x => x ≠ id } := rfl
    simp [Holds, hnew, hremoval]

lemma isStopped_strike (s : Compilations) (r : Removal) (id : Nat) :
    (s.strike r id).isStopped a = true ↔ s.isStopped a = true ∨ a = id :=
  RunRegistry.isStopped_stop

lemma holds_release {r : Removal} (hremoval : s.removal = some r) (htold : r.untold = []) :
    (s.release r).Holds a h ↔ s.Holds a h := by
  cases h with
  | place key => exact Iff.rfl
  | begin d => exact Iff.rfl
  | removal => simp [Holds, release, hremoval, htold]

end Compilations

open Compilations

/-! ### The invariant -/

/-- Every run that got a place has one holder, was told to stop, or is over; and a run whose place or
whose cancellation holds it is the latest of its source file. -/
structure Sound (s : Compilations) : Prop where
  known_lt : ∀ id stage, s.stage? id = some stage → id < s.pipeline.runs.next
  placed_iff : ∀ id, id ∈ s.order ↔ ∃ stage, s.stage? id = some stage ∧ stage ≠ .drawn
  stopped_placed : ∀ id, s.isStopped id = true → id ∈ s.order
  held_placed : ∀ a h, s.Holds a h → a ∈ s.order
  held_unstopped : ∀ a h, s.Holds a h → s.isStopped a = false
  held_once : ∀ a h h', s.Holds a h → s.Holds a h' → h = h'
  held_or_told : ∀ a ∈ s.order, (∃ h, s.Holds a h) ∨ s.isStopped a = true ∨
    ∃ result, s.stage? a = some (.ended result)
  place_key : ∀ a key, s.Holds a (.place key) → s.key? a = some key
  latest : ∀ a h, s.Holds a h → (∀ d, h ≠ .begin d) →
    ∀ b, [b, a].Sublist s.order → s.key? b ≠ s.key? a

/-- A step after which holders hold no more than before: a run that loses its holder was told to stop
or is over, and only such a run was told. -/
structure Narrows (s t : Compilations) : Prop where
  next_eq : t.pipeline.runs.next = s.pipeline.runs.next
  order_eq : t.order = s.order
  key_eq : ∀ x, t.key? x = s.key? x
  stage_cases : ∀ x, t.stage? x = s.stage? x ∨
    ∃ old new, s.stage? x = some old ∧ t.stage? x = some new ∧ old ≠ .drawn ∧ new ≠ .drawn ∧
      ∀ result, old ≠ .ended result
  stopped_mono : ∀ a, s.isStopped a = true → t.isStopped a = true
  stopped_cases : ∀ a, t.isStopped a = true → s.isStopped a = true ∨
    ∃ h, s.Holds a h ∧ ¬t.Holds a h
  held : ∀ a h, t.Holds a h → s.Holds a h
  lost : ∀ a h, s.Holds a h → t.Holds a h ∨ t.isStopped a = true ∨
    ∃ result, t.stage? a = some (.ended result)

namespace Compilations

variable {s t : Compilations} {a b id : Nat} {call : Call} {h : Holder}

lemma sound_ofOptions (options : CompileOptions) : Sound (ofOptions options) := by
  have hnone : ∀ a h, ¬(ofOptions options).Holds a h := by
    intro a h hheld
    cases h with
    | place key => exact absurd hheld (Option.some_ne_none a).symm
    | begin d => exact absurd hheld (Option.some_ne_none _).symm
    | removal =>
      obtain ⟨r, hr, -⟩ := hheld
      exact absurd hr (Option.some_ne_none r).symm
  refine ⟨?_, ?_, ?_, ?_, ?_, ?_, ?_, ?_, ?_⟩
  · exact fun id stage hid => absurd hid (Option.some_ne_none stage).symm
  · refine fun id => ⟨fun hid => absurd hid List.not_mem_nil, ?_⟩
    rintro ⟨stage, hid, -⟩
    exact absurd hid (Option.some_ne_none stage).symm
  · exact fun id hid => absurd hid Bool.false_ne_true
  · exact fun a h hheld => absurd hheld (hnone a h)
  · exact fun a h hheld => absurd hheld (hnone a h)
  · exact fun a h _ hheld => absurd hheld (hnone a h)
  · exact fun a ha => absurd ha List.not_mem_nil
  · exact fun a key hheld => absurd hheld (hnone a _)
  · exact fun a h hheld => absurd hheld (hnone a h)

lemma not_mem_of_drawn (hs : Sound s) (hcall : s.calls.get? id = some call)
    (hstage : call.stage = .drawn) : id ∉ s.order := by
  intro hid
  obtain ⟨stage, hold, hne⟩ := (hs.placed_iff id).mp hid
  rw [stage?_of_call hcall, hstage, Option.some.injEq] at hold
  exact hne hold.symm

/-- The number that is drawn next belongs to no call. -/
lemma stage?_next (hs : Sound s) : s.stage? s.pipeline.runs.next = none := by
  cases hstage : s.stage? s.pipeline.runs.next with
  | none => rfl
  | some stage => exact absurd (hs.known_lt _ stage hstage) (Nat.lt_irrefl _)

lemma sound_of_narrows (hs : Sound s) (hn : Narrows s t) : Sound t := by
  have hknown : ∀ x stage, t.stage? x = some stage → ∃ old, s.stage? x = some old := by
    intro x stage hx
    rcases hn.stage_cases x with heq | ⟨old, new, hold, -⟩
    · exact ⟨stage, heq ▸ hx⟩
    · exact ⟨old, hold⟩
  refine ⟨?_, ?_, ?_, ?_, ?_, ?_, ?_, ?_, ?_⟩
  · intro x stage hx
    obtain ⟨old, hold⟩ := hknown x stage hx
    rw [hn.next_eq]
    exact hs.known_lt x old hold
  · intro x
    rw [hn.order_eq, hs.placed_iff]
    rcases hn.stage_cases x with heq | ⟨old, new, hold, hnew, hold', hnew', -⟩
    · rw [heq]
    · exact ⟨fun _ => ⟨new, hnew, hnew'⟩, fun _ => ⟨old, hold, hold'⟩⟩
  · intro x hx
    rw [hn.order_eq]
    rcases hn.stopped_cases x hx with hx | ⟨h, hheld, -⟩
    · exact hs.stopped_placed x hx
    · exact hs.held_placed x h hheld
  · intro a h hheld
    rw [hn.order_eq]
    exact hs.held_placed a h (hn.held a h hheld)
  · intro a h hheld
    have hbefore := hn.held a h hheld
    refine Bool.eq_false_iff.mpr fun hstopped => ?_
    rcases hn.stopped_cases a hstopped with hstopped | ⟨h', hheld', hlost⟩
    · exact Bool.false_ne_true ((hs.held_unstopped a h hbefore).symm.trans hstopped)
    · exact hlost (hs.held_once a h h' hbefore hheld' ▸ hheld)
  · intro a h h' hheld hheld'
    exact hs.held_once a h h' (hn.held a h hheld) (hn.held a h' hheld')
  · intro a ha
    rw [hn.order_eq] at ha
    rcases hs.held_or_told a ha with ⟨h, hheld⟩ | hstopped | ⟨result, hended⟩
    · rcases hn.lost a h hheld with hheld | htold
      · exact Or.inl ⟨h, hheld⟩
      · exact Or.inr htold
    · exact Or.inr (Or.inl (hn.stopped_mono a hstopped))
    · rcases hn.stage_cases a with heq | ⟨old, new, hold, -, -, -, hne⟩
      · exact Or.inr (Or.inr ⟨result, heq.trans hended⟩)
      · exact absurd (Option.some.inj (hold.symm.trans hended)) (hne result)
  · intro a key hheld
    rw [hn.key_eq]
    exact hs.place_key a key (hn.held a _ hheld)
  · intro a h hheld hne b hb
    rw [hn.key_eq, hn.key_eq]
    exact hs.latest a h (hn.held a h hheld) hne b (hn.order_eq ▸ hb)

/-- A call that has got its place comes to a later stage. -/
lemma stage_cases_reach (hcall : s.calls.get? id = some call) (stage : Stage)
    (hold : call.stage ≠ .drawn) (hnew : stage ≠ .drawn)
    (hended : ∀ result, call.stage ≠ .ended result)
    (hreach : ∀ x, t.stage? x = if x = id then some stage else s.stage? x) (x : Nat) :
    t.stage? x = s.stage? x ∨
      ∃ old new, s.stage? x = some old ∧ t.stage? x = some new ∧ old ≠ .drawn ∧ new ≠ .drawn ∧
        ∀ result, old ≠ .ended result := by
  rw [hreach]
  by_cases hx : x = id
  · subst hx
    rw [if_pos rfl]
    exact Or.inr ⟨call.stage, stage, stage?_of_call hcall, rfl, hold, hnew, hended⟩
  · exact Or.inl (if_neg hx)

lemma narrows_tell {previous : Option Nat} (hcall : s.calls.get? id = some call)
    (hstage : call.stage = .placed previous) : Narrows s (s.tell id call previous) where
  next_eq := RunRegistry.next_stopAll ..
  order_eq := rfl
  key_eq x := key?_reach (s := s.withRuns _) hcall _ x
  stage_cases := stage_cases_reach hcall (.inside .begun) (by simp [hstage]) (by simp)
    (by simp [hstage]) (stage?_reach _ id call _)
  stopped_mono a ha := (isStopped_tell hcall hstage).mpr (Or.inl ha)
  stopped_cases a ha := by
    rcases (isStopped_tell hcall hstage).mp ha with ha | hheld
    · exact Or.inl ha
    · exact Or.inr ⟨.begin id, hheld, fun hstill => ((holds_tell).mp hstill).2 rfl⟩
  held a h hheld := (holds_tell.mp hheld).1
  lost a h hheld := by
    by_cases heq : h = .begin id
    · exact Or.inr (Or.inl ((isStopped_tell hcall hstage).mpr (Or.inr (heq ▸ hheld))))
    · exact Or.inl (holds_tell.mpr ⟨hheld, heq⟩)

lemma narrows_advance {p : Pipeline} {progress next : Progress}
    (hcall : s.calls.get? id = some call) (hstage : call.stage = .inside progress)
    (hruns : p.runs = s.pipeline.runs) :
    Narrows s ({ s with pipeline := p }.reach id call (.inside next)) where
  next_eq := congrArg RunRegistry.next hruns
  order_eq := rfl
  key_eq x := key?_reach (s := { s with pipeline := p }) hcall _ x
  stage_cases := stage_cases_reach hcall (.inside next) (by simp [hstage]) (by simp)
    (by simp [hstage]) (stage?_reach _ id call _)
  stopped_mono a ha := (congrArg (RunRegistry.isStopped · a) hruns).trans ha
  stopped_cases a ha := Or.inl ((congrArg (RunRegistry.isStopped · a) hruns).symm.trans ha)
  held a h hheld := (holds_advance hcall hstage hruns).mp hheld
  lost a h hheld := Or.inl ((holds_advance hcall hstage hruns).mpr hheld)

lemma narrows_leave {progress : Progress} (hcall : s.calls.get? id = some call)
    (hstage : call.stage = .inside progress) : Narrows s (s.leave id call progress) where
  next_eq := by
    show (s.pipeline.runs.finish call.invocation.source id).next = _
    rw [RunRegistry.finish]
    split <;> rfl
  order_eq := rfl
  key_eq x := key?_reach (s := s.withRuns _) hcall _ x
  stage_cases := stage_cases_reach hcall (.ended progress.result?) (by simp [hstage]) (by simp)
    (by simp [hstage]) (stage?_reach _ id call _)
  stopped_mono a ha := (isStopped_leave s id call progress).trans ha
  stopped_cases a ha := Or.inl ((isStopped_leave s id call progress).symm.trans ha)
  held a h hheld := ((holds_leave hcall hstage).mp hheld).1
  lost a h hheld := by
    by_cases heq : h = .place call.invocation.source.key ∧ a = id
    · have hended : (s.leave id call progress).stage? a =
          if a = id then some (.ended progress.result?) else s.stage? a := stage?_reach ..
      rw [if_pos heq.2] at hended
      exact Or.inr (Or.inr ⟨progress.result?, hended⟩)
    · exact Or.inl ((holds_leave hcall hstage).mpr ⟨hheld, heq⟩)

lemma narrows_strike {r : Removal} (hremoval : s.removal = some r) (hid : id ∈ r.untold) :
    Narrows s (s.strike r id) where
  next_eq := RunRegistry.next_stop ..
  order_eq := rfl
  key_eq _ := rfl
  stage_cases _ := Or.inl rfl
  stopped_mono a ha := (isStopped_strike s r id).mpr (Or.inl ha)
  stopped_cases a ha := by
    rcases (isStopped_strike s r id).mp ha with ha | rfl
    · exact Or.inl ha
    · exact Or.inr ⟨.removal, ⟨r, hremoval, hid⟩,
        fun hstill => ((holds_strike hremoval).mp hstill).2 ⟨rfl, rfl⟩⟩
  held a h hheld := ((holds_strike hremoval).mp hheld).1
  lost a h hheld := by
    by_cases heq : h = .removal ∧ a = id
    · exact Or.inr (Or.inl ((isStopped_strike s r id).mpr (Or.inr heq.2)))
    · exact Or.inl ((holds_strike hremoval).mpr ⟨hheld, heq⟩)

lemma narrows_release {r : Removal} (hremoval : s.removal = some r) (htold : r.untold = []) :
    Narrows s (s.release r) where
  next_eq := rfl
  order_eq := rfl
  key_eq _ := rfl
  stage_cases _ := Or.inl rfl
  stopped_mono _ ha := ha
  stopped_cases _ ha := Or.inl ha
  held _ _ hheld := (holds_release hremoval htold).mp hheld
  lost _ _ hheld := Or.inl ((holds_release hremoval htold).mpr hheld)

lemma sound_draw (hs : Sound s) (i : Invocation) (given : List Text) :
    Sound (s.draw i given) := by
  have hholds := fun a h => holds_draw (a := a) (h := h) s i given (stage?_next hs)
  have hstage : ∀ x, (s.draw i given).stage? x =
      if x = s.pipeline.runs.next then some .drawn else s.stage? x := stage?_reach _ _ _ _
  have hnew : s.pipeline.runs.next ∉ s.order := by
    intro hmem
    obtain ⟨stage, hold, -⟩ := (hs.placed_iff _).mp hmem
    exact absurd (hs.known_lt _ stage hold) (Nat.lt_irrefl _)
  have hold : ∀ x ∈ s.order, x ≠ s.pipeline.runs.next := fun x hx heq => hnew (heq ▸ hx)
  have hkey : ∀ x ∈ s.order, (s.draw i given).key? x = s.key? x := by
    intro x hx
    have hget : (s.draw i given).calls.get? x =
        if x = s.pipeline.runs.next then some ⟨i, given, .drawn⟩ else s.calls.get? x :=
      Table.get?_insert ..
    rw [key?, hget, if_neg (hold x hx)]
    rfl
  refine ⟨?_, ?_, hs.stopped_placed, ?_, ?_, ?_, ?_, ?_, ?_⟩
  · intro x stage hx
    rw [hstage] at hx
    split at hx
    · next heq => exact heq ▸ Nat.lt_succ_self _
    · exact Nat.lt_succ_of_lt (hs.known_lt x stage hx)
  · intro x
    show x ∈ s.order ↔ _
    rw [hstage]
    by_cases hx : x = s.pipeline.runs.next
    · rw [if_pos hx]
      refine ⟨fun hmem => absurd (hx ▸ hmem) hnew, ?_⟩
      rintro ⟨stage, hdrawn, hne⟩
      exact absurd (Option.some.inj hdrawn).symm hne
    · rw [if_neg hx]
      exact hs.placed_iff x
  · exact fun a h hheld => hs.held_placed a h ((hholds a h).mp hheld)
  · exact fun a h hheld => hs.held_unstopped a h ((hholds a h).mp hheld)
  · exact fun a h h' hheld hheld' =>
      hs.held_once a h h' ((hholds a h).mp hheld) ((hholds a h').mp hheld')
  · intro a ha
    rcases hs.held_or_told a ha with ⟨h, hheld⟩ | hstopped | ⟨result, hended⟩
    · exact Or.inl ⟨h, (hholds a h).mpr hheld⟩
    · exact Or.inr (Or.inl hstopped)
    · refine Or.inr (Or.inr ⟨result, ?_⟩)
      rw [hstage, if_neg (hold a ha)]
      exact hended
  · intro a key hheld
    have hbefore := (hholds a _).mp hheld
    rw [hkey a (hs.held_placed a _ hbefore)]
    exact hs.place_key a key hbefore
  · intro a h hheld hne b hb
    have hbefore := (hholds a h).mp hheld
    rw [hkey a (hs.held_placed a h hbefore), hkey b (hb.subset List.mem_cons_self)]
    exact hs.latest a h hbefore hne b hb

/-- Two runs are in order with another run in front exactly if they were before, or if the first is
the other one. -/
lemma pair_sublist_cons {a b x : Nat} {order : List Nat} (hab : [b, a].Sublist (x :: order)) :
    [b, a].Sublist order ∨ (b = x ∧ a ∈ order) := by
  rcases List.sublist_cons_iff.mp hab with hab | ⟨rest, heq, hrest⟩
  · exact Or.inl hab
  · obtain ⟨rfl, rfl⟩ := List.cons.inj heq
    exact Or.inr ⟨rfl, List.singleton_sublist.mp hrest⟩

/-- A run that gets its place was neither held nor told. -/
lemma fresh_of_drawn (hs : Sound s) (hcall : s.calls.get? id = some call)
    (hdrawn : call.stage = .drawn) : (∀ h, ¬s.Holds id h) ∧ s.isStopped id = false := by
  have hnew := not_mem_of_drawn hs hcall hdrawn
  refine ⟨fun h hheld => hnew (hs.held_placed id h hheld), ?_⟩
  exact Bool.eq_false_iff.mpr fun hstopped => hnew (hs.stopped_placed id hstopped)

lemma held_once_place (hs : Sound s) (hcall : s.calls.get? id = some call)
    (hdrawn : call.stage = .drawn) {h' : Holder} (hheld : (s.place id call).Holds a h)
    (hheld' : (s.place id call).Holds a h') : h = h' := by
  have hunheld := (fresh_of_drawn hs hcall hdrawn).1
  rcases (holds_place hcall hdrawn).mp hheld with ⟨heq, rfl⟩ | ⟨heq, hbefore⟩ | ⟨hne, hbefore⟩
  · rcases (holds_place hcall hdrawn).mp hheld' with ⟨heq', -⟩ | ⟨-, hbefore'⟩ | ⟨-, hbefore'⟩
    · exact heq.trans heq'.symm
    · exact absurd hbefore' (hunheld _)
    · exact absurd hbefore' (hunheld h')
  · rcases (holds_place hcall hdrawn).mp hheld' with ⟨-, rfl⟩ | ⟨heq', -⟩ | ⟨hne', hbefore'⟩
    · exact absurd hbefore (hunheld _)
    · exact heq.trans heq'.symm
    · exact absurd (hs.held_once a _ h' hbefore hbefore').symm hne'
  · rcases (holds_place hcall hdrawn).mp hheld' with ⟨-, rfl⟩ | ⟨-, hbefore'⟩ | ⟨-, hbefore'⟩
    · exact absurd hbefore (hunheld h)
    · exact absurd (hs.held_once a h _ hbefore hbefore') hne
    · exact hs.held_once a h h' hbefore hbefore'

/-- The run that gets a place is the latest of its source file. It follows no run that a place still
holds: that one has another source file. -/
lemma latest_place (hs : Sound s) (hcall : s.calls.get? id = some call)
    (hdrawn : call.stage = .drawn) (hlock : s.removal = none)
    (hheld : (s.place id call).Holds a h) (hne : ∀ d, h ≠ .begin d)
    (hb : [b, a].Sublist (id :: s.order)) : s.key? b ≠ s.key? a := by
  have hnew := not_mem_of_drawn hs hcall hdrawn
  rcases (holds_place hcall hdrawn).mp hheld with ⟨-, rfl⟩ | ⟨heq, -⟩ | ⟨hplace, hbefore⟩
  · rcases pair_sublist_cons hb with hb | ⟨-, hmem⟩
    · exact absurd (hb.subset (List.mem_cons_of_mem _ List.mem_cons_self)) hnew
    · exact absurd hmem hnew
  · exact absurd heq (hne id)
  · rcases pair_sublist_cons hb with hb | ⟨rfl, -⟩
    · exact hs.latest a h hbefore hne b hb
    · cases h with
      | place key =>
        rw [key?_of_call hcall, hs.place_key a key hbefore]
        exact fun heq => hplace (congrArg Holder.place (Option.some.inj heq)).symm
      | begin d => exact absurd rfl (hne d)
      | removal =>
        obtain ⟨r, hr, -⟩ := hbefore
        exact absurd (hlock.symm.trans hr) (Option.some_ne_none r).symm

lemma sound_place (hs : Sound s) (hcall : s.calls.get? id = some call)
    (hdrawn : call.stage = .drawn) (hlock : s.removal = none) : Sound (s.place id call) := by
  have hholds := fun a h => holds_place (a := a) (h := h) hcall hdrawn
  have hstage : ∀ x, (s.place id call).stage? x = if x = id then
      some (.placed (s.pipeline.runs.current.get? call.invocation.source.key))
      else s.stage? x := stage?_reach _ _ _ _
  have hkey : ∀ x, (s.place id call).key? x = s.key? x := key?_reach (s := s.withRuns _) hcall _
  refine ⟨?_, ?_, ?_, ?_, ?_, fun a h h' => held_once_place hs hcall hdrawn, ?_, ?_, ?_⟩
  · intro x stage hx
    rw [hstage] at hx
    split at hx
    · next heq => exact heq ▸ hs.known_lt id _ (stage?_of_call hcall)
    · exact hs.known_lt x stage hx
  · intro x
    show x ∈ id :: s.order ↔ _
    rw [hstage, List.mem_cons]
    by_cases hx : x = id
    · simp [hx]
    · rw [if_neg hx, or_iff_right hx]
      exact hs.placed_iff x
  · exact fun x hx => List.mem_cons_of_mem id (hs.stopped_placed x hx)
  · intro a h hheld
    rcases (hholds a h).mp hheld with ⟨-, rfl⟩ | ⟨-, hbefore⟩ | ⟨-, hbefore⟩
    · exact List.mem_cons_self
    · exact List.mem_cons_of_mem id (hs.held_placed a _ hbefore)
    · exact List.mem_cons_of_mem id (hs.held_placed a h hbefore)
  · intro a h hheld
    show s.isStopped a = false
    rcases (hholds a h).mp hheld with ⟨-, rfl⟩ | ⟨-, hbefore⟩ | ⟨-, hbefore⟩
    · exact (fresh_of_drawn hs hcall hdrawn).2
    · exact hs.held_unstopped a _ hbefore
    · exact hs.held_unstopped a h hbefore
  · intro a ha
    rcases List.mem_cons.mp ha with rfl | ha
    · exact Or.inl ⟨_, (hholds _ _).mpr (Or.inl ⟨rfl, rfl⟩)⟩
    rcases hs.held_or_told a ha with ⟨h, hbefore⟩ | hstopped | ⟨result, hended⟩
    · by_cases heq : h = .place call.invocation.source.key
      · exact Or.inl ⟨.begin id, (hholds a _).mpr (Or.inr (Or.inl ⟨rfl, heq ▸ hbefore⟩))⟩
      · exact Or.inl ⟨h, (hholds a h).mpr (Or.inr (Or.inr ⟨heq, hbefore⟩))⟩
    · exact Or.inr (Or.inl hstopped)
    · have hold : a ≠ id := fun heq => not_mem_of_drawn hs hcall hdrawn (heq ▸ ha)
      exact Or.inr (Or.inr ⟨result, (hstage a).trans ((if_neg hold).trans hended)⟩)
  · intro a key hheld
    rw [hkey]
    rcases (hholds a _).mp hheld with ⟨heq, rfl⟩ | ⟨heq, -⟩ | ⟨-, hbefore⟩
    · rw [Holder.place.inj heq]
      exact key?_of_call hcall
    · exact Holder.noConfusion heq
    · exact hs.place_key a key hbefore
  · intro a h hheld hne b hb
    rw [hkey, hkey]
    exact latest_place hs hcall hdrawn hlock hheld hne hb

end Compilations

end AsmExplorer.Proofs
