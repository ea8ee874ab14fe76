import AsmExplorer.Proofs.ToolChoice
import Mathlib.Logic.Relation

/-!
# Searches for tools at the same time

Calls that ask for the tool of a compiler go on at the same time. Each reads what is kept, looks
for the tool if nothing is, and then writes down what it has found. Reading and writing are under
the lock, looking is not, and files can change between any two steps.

A call that was looking when a tool came to be kept writes all the same, so that tool is final for
its compiler only when no such call is left.
-/

namespace AsmExplorer.Proofs

/-- How far a call has come. -/
inductive ToolStage where
  | begun
  /-- Nothing was kept for its compiler. -/
  | missed
  | looked (result : Option Path)
  | answered (p : Path)

/-- Whether a call has found nothing kept and has not answered yet. -/
def ToolStage.IsLooking : ToolStage → Prop
  | .missed => True
  | .looked _ => True
  | _ => False

structure ToolCall where
  compiler : Text
  stage : ToolStage

/-- A finder with the calls that use it, while files change. -/
structure ToolCalls where
  finder : ToolFinder
  host : Host
  calls : Table Nat ToolCall

namespace ToolCalls

def ofFinder (f : ToolFinder) (host : Host) : ToolCalls :=
  ⟨f, host, .empty⟩

def change (s : ToolCalls) (host : Host) : ToolCalls :=
  { s with host := host }

def enter (s : ToolCalls) (id : Nat) (compiler : Text) (stage : ToolStage) : ToolCalls :=
  { s with calls := s.calls.insert id ⟨compiler, stage⟩ }

/-- A call writes down what it has found and answers. -/
def write (s : ToolCalls) (id : Nat) (compiler : Text) (result : Option Path) : ToolCalls :=
  { s.enter id compiler (.answered (result.getD ⟨s.finder.tool⟩)) with
    finder := s.finder.remember compiler result }

/-- One step of one of the calls, or a change of files. -/
inductive Step : ToolCalls → ToolCalls → Prop where
  | change (s : ToolCalls) (host : Host) : Step s (s.change host)
  | begin {s : ToolCalls} {id : Nat} (c : Text) (hnew : s.calls.get? id = none) :
      Step s (s.enter id c .begun)
  | hit {s : ToolCalls} {id : Nat} {c : Text} {p : Path}
      (hcall : s.calls.get? id = some ⟨c, .begun⟩) (hkept : s.finder.cached? c = some p) :
      Step s (s.enter id c (.answered p))
  | miss {s : ToolCalls} {id : Nat} {c : Text} (hcall : s.calls.get? id = some ⟨c, .begun⟩)
      (hkept : s.finder.cached? c = none) : Step s (s.enter id c .missed)
  | look {s : ToolCalls} {id : Nat} {c : Text} (hcall : s.calls.get? id = some ⟨c, .missed⟩) :
      Step s (s.enter id c (.looked (s.finder.lookup? s.host c)))
  | write {s : ToolCalls} {id : Nat} {c : Text} {result : Option Path}
      (hcall : s.calls.get? id = some ⟨c, .looked result⟩) : Step s (s.write id c result)

abbrev Steps : ToolCalls → ToolCalls → Prop :=
  Relation.ReflTransGen Step

def Looking (s : ToolCalls) (id : Nat) (c : Text) : Prop :=
  ∃ stage, s.calls.get? id = some ⟨c, stage⟩ ∧ stage.IsLooking

def Answered (s : ToolCalls) (id : Nat) (c : Text) (p : Path) : Prop :=
  s.calls.get? id = some ⟨c, .answered p⟩

variable {s t : ToolCalls} {id x : Nat} {c : Text} {p : Path}

lemma get?_enter (s : ToolCalls) (id : Nat) (c : Text) (stage : ToolStage) (x : Nat) :
    (s.enter id c stage).calls.get? x = if x = id then some ⟨c, stage⟩ else s.calls.get? x :=
  Table.get?_insert ..

lemma get?_enter_self (s : ToolCalls) (id : Nat) (c : Text) (stage : ToolStage) :
    (s.enter id c stage).calls.get? id = some ⟨c, stage⟩ :=
  (get?_enter ..).trans (if_pos rfl)

/-- A call that nothing comes between does what the finder does at once. -/
theorem call_undisturbed (hnew : s.calls.get? id = none) (c : Text) :
    ∃ t, Steps s t ∧ t.finder = (s.finder.resolve s.host c).1 ∧
      t.Answered id c (s.finder.resolve s.host c).2 := by
  have hbegin : Steps s (s.enter id c .begun) := .single (.begin c hnew)
  cases hkept : s.finder.cached? c with
  | some p =>
    have hresolve : s.finder.resolve s.host c = (s.finder, p) := by
      rw [ToolFinder.resolve, hkept]
    rw [hresolve]
    exact ⟨_, hbegin.tail (.hit (get?_enter_self ..) hkept), rfl, get?_enter_self ..⟩
  | none =>
    have hlook := (hbegin.tail (.miss (get?_enter_self ..) hkept)).tail (.look (get?_enter_self ..))
    rw [resolve_of_new hkept]
    exact ⟨_, hlook.tail (.write (get?_enter_self ..)), rfl, get?_enter_self ..⟩

/-! ### What a step does -/

/-- What is kept changes only when a call for that compiler writes what it has found. -/
lemma cached?_step (h : Step s t) (c : Text) :
    t.finder.cached? c = s.finder.cached? c ∨
      ∃ id q, s.calls.get? id = some ⟨c, .looked (some q)⟩ ∧ t.Answered id c q ∧
        t.finder.cached? c = some q := by
  cases h with
  | change | begin | hit | miss | look => exact .inl rfl
  | @write id d result hcall =>
    cases result with
    | none => exact .inl rfl
    | some q =>
      have hget : (s.write id d (some q)).finder.cached? c =
          if c = d then some q else s.finder.cached? c :=
        cached?_remember s.finder d c q
      by_cases hcd : c = d
      · subst hcd
        exact .inr ⟨id, q, hcall, get?_enter_self .., hget.trans (if_pos rfl)⟩
      · exact .inl (hget.trans (if_neg hcd))

/-- What a step makes of a call, beside leaving it as it is. -/
lemma call_step (h : Step s t) {call : ToolCall} (hcall : t.calls.get? x = some call) :
    s.calls.get? x = some call ∨
      match call.stage with
      | .begun => s.calls.get? x = none
      | .missed => s.finder.cached? call.compiler = none
      | .looked result =>
        s.Looking x call.compiler ∧ result = s.finder.lookup? s.host call.compiler
      | .answered q =>
        s.Looking x call.compiler ∨ s.finder.cached? call.compiler = some q := by
  have hentered : ∀ {id d stage}, (s.enter id d stage).calls.get? x = some call →
      s.calls.get? x = some call ∨ (x = id ∧ call = ⟨d, stage⟩) := by
    intro id d stage hget
    rw [get?_enter] at hget
    split at hget
    · next hx => exact .inr ⟨hx, (Option.some.inj hget).symm⟩
    · exact .inl hget
  cases h with
  | change host => exact .inl hcall
  | begin d hnew =>
    refine (hentered hcall).imp_right ?_
    rintro ⟨rfl, rfl⟩
    exact hnew
  | hit hbegun hkept =>
    refine (hentered hcall).imp_right ?_
    rintro ⟨rfl, rfl⟩
    exact .inr hkept
  | miss hbegun hkept =>
    refine (hentered hcall).imp_right ?_
    rintro ⟨rfl, rfl⟩
    exact hkept
  | look hmissed =>
    refine (hentered hcall).imp_right ?_
    rintro ⟨rfl, rfl⟩
    exact ⟨⟨_, hmissed, trivial⟩, rfl⟩
  | write hlooked =>
    refine (hentered hcall).imp_right ?_
    rintro ⟨rfl, rfl⟩
    exact .inl ⟨_, hlooked, trivial⟩

lemma answered_of_step (h : Step s t) (hanswered : s.Answered x c p) : t.Answered x c p := by
  have hkeep : ∀ {id d stage}, (∀ q, s.calls.get? id ≠ some ⟨c, .answered q⟩) →
      (s.enter id d stage).Answered x c p := by
    intro id d stage hother
    have hne : x ≠ id := by
      rintro rfl
      exact hother p hanswered
    exact (get?_enter ..).trans ((if_neg hne).trans hanswered)
  cases h with
  | change host => exact hanswered
  | begin d hnew => exact hkeep (by simp [hnew])
  | hit hcall => exact hkeep (by simp [hcall])
  | miss hcall => exact hkeep (by simp [hcall])
  | look hcall => exact hkeep (by simp [hcall])
  | write hcall => exact hkeep (by simp [hcall])

lemma answered_of_steps (h : Steps s t) (hanswered : s.Answered x c p) : t.Answered x c p := by
  induction h with
  | refl => exact hanswered
  | tail _ hstep ih => exact answered_of_step hstep ih

/-- No call begins to look for a tool that is kept. -/
lemma looking_step (h : Step s t) (hkept : s.finder.cached? c = some p) (hlooking : t.Looking x c) :
    s.Looking x c := by
  obtain ⟨stage, hcall, hstage⟩ := hlooking
  rcases call_step h hcall with hsame | hmoved
  · exact ⟨stage, hsame, hstage⟩
  · cases stage with
    | begun => exact hstage.elim
    | missed => exact absurd (hkept.symm.trans hmoved) (Option.some_ne_none p)
    | looked result => exact hmoved.1
    | answered q => exact hstage.elim

/-! ### What a run keeps -/

/-- What becomes of a tool that is kept for a compiler. -/
structure KeepsTool (s t : ToolCalls) (c : Text) (p : Path) : Prop where
  /-- Whoever is looking for it now was looking then. -/
  looking : ∀ x, t.Looking x c → s.Looking x c
  /-- It stays, or one of those has put what it found in its place. -/
  kept : ∃ q, t.finder.cached? c = some q ∧ (q = p ∨ ∃ x, s.Looking x c ∧ t.Answered x c q)
  /-- It is what calls answer since then, or else one of those has answered so. -/
  answers : ∀ x q, t.Answered x c q →
    s.Answered x c q ∨ q = p ∨ ∃ y, s.Looking y c ∧ t.Answered y c q

theorem keepsTool_of_steps (h : Steps s t) (hkept : s.finder.cached? c = some p) :
    KeepsTool s t c p := by
  induction h with
  | refl => exact ⟨fun x h => h, ⟨p, hkept, .inl rfl⟩, fun x q h => .inl h⟩
  | @tail t u _ hstep ih =>
    obtain ⟨q, hq, hsource⟩ := ih.kept
    have hlast : q = p ∨ ∃ x, s.Looking x c ∧ u.Answered x c q :=
      hsource.imp_right fun ⟨x, hx, hanswer⟩ => ⟨x, hx, answered_of_step hstep hanswer⟩
    refine ⟨fun x hx => ih.looking x (looking_step hstep hq hx), ?_, fun x r hanswer => ?_⟩
    · rcases cached?_step hstep c with hsame | ⟨x, r, hlooked, hanswer, hnow⟩
      · exact ⟨q, hsame.trans hq, hlast⟩
      · exact ⟨r, hnow, .inr ⟨x, ih.looking x ⟨_, hlooked, trivial⟩, hanswer⟩⟩
    · rcases call_step hstep hanswer with hbefore | hlooking | hhit
      · refine (ih.answers x r hbefore).imp_right fun h => h.imp_right ?_
        exact fun ⟨y, hy, hearlier⟩ => ⟨y, hy, answered_of_step hstep hearlier⟩
      · exact .inr (.inr ⟨x, ih.looking x hlooking, hanswer⟩)
      -- the call is answered with what is kept, and where that comes from is known
      · obtain rfl := Option.some.inj (hq.symm.trans hhit)
        exact .inr hlast

/-- When no call is looking for it any more, the tool that is kept is final, and every later call
answers it. -/
theorem tool_final (h : Steps s t) (hkept : s.finder.cached? c = some p)
    (hnone : ∀ x, ¬s.Looking x c) :
    t.finder.cached? c = some p ∧ ∀ x q, t.Answered x c q → s.Answered x c q ∨ q = p := by
  have hkeeps := keepsTool_of_steps h hkept
  have hnobody : ∀ q, ¬∃ x, s.Looking x c ∧ t.Answered x c q := fun q ⟨x, hx, _⟩ => hnone x hx
  obtain ⟨q, hq, hsource⟩ := hkeeps.kept
  obtain rfl := hsource.resolve_right (hnobody q)
  exact ⟨hq, fun x r hr => (hkeeps.answers x r hr).imp_right fun h => h.resolve_right (hnobody r)⟩

/-- What is kept for a compiler is at last what it was at first, or what a call for this very
compiler has answered in between. -/
theorem kept_of_steps (h : Steps s t) (c : Text) :
    t.finder.cached? c = s.finder.cached? c ∨
      ∃ x q, t.finder.cached? c = some q ∧ t.Answered x c q ∧ ∀ r, ¬s.Answered x c r := by
  induction h with
  | refl => exact .inl rfl
  | @tail t u h hstep ih =>
    rcases cached?_step hstep c with hsame | ⟨x, q, hlooked, hanswer, hnow⟩
    · rw [hsame]
      refine ih.imp_right fun ⟨x, q, hq, hanswer, hnew⟩ => ⟨x, q, hq, ?_, hnew⟩
      exact answered_of_step hstep hanswer
    · refine .inr ⟨x, q, hnow, hanswer, fun r hr => ?_⟩
      have hstill : t.Answered x c r := answered_of_steps h hr
      cases hlooked.symm.trans hstill

/-! ### Where a kept tool comes from -/

/-- Whether a lookup for a compiler, made in some state of a run, finds a path. -/
def FoundBetween (s t : ToolCalls) (c : Text) (p : Path) : Prop :=
  ∃ u, Steps s u ∧ Steps u t ∧ u.finder.lookup? u.host c = some p

lemma foundBetween_tail {u : ToolCalls} (h : FoundBetween s t c p) (hstep : Step t u) :
    FoundBetween s u c p := by
  obtain ⟨v, hfirst, hlast, hfound⟩ := h
  exact ⟨v, hfirst, hlast.tail hstep, hfound⟩

variable {f : ToolFinder} {host : Host}

lemma found_of_looked (h : Steps (.ofFinder f host) t)
    (hlooked : t.calls.get? x = some ⟨c, .looked (some p)⟩) :
    FoundBetween (.ofFinder f host) t c p := by
  induction h with
  | refl => cases hlooked
  | @tail t u h hstep ih =>
    rcases call_step hstep hlooked with hbefore | ⟨-, hfound⟩
    · exact foundBetween_tail (ih hbefore) hstep
    · exact ⟨t, h, .single hstep, hfound.symm⟩

/-- A tool that is kept was kept at first, or a lookup for its compiler has found it. -/
theorem found_of_kept (h : Steps (.ofFinder f host) t)
    (hkept : t.finder.cached? c = some p) :
    f.cached? c = some p ∨ FoundBetween (.ofFinder f host) t c p := by
  induction h with
  | refl => exact .inl hkept
  | @tail t u h hstep ih =>
    rcases cached?_step hstep c with hsame | ⟨x, q, hlooked, -, hnow⟩
    · exact (ih (hsame.symm.trans hkept)).imp_right fun hfound => foundBetween_tail hfound hstep
    · obtain rfl := Option.some.inj (hnow.symm.trans hkept)
      exact .inr (foundBetween_tail (found_of_looked h hlooked) hstep)

/-! ### A tool that is replaced -/

/-- Of two calls that have found nothing kept, the one that looks first can write last. Then its
tool takes the place of the one that the other has found and kept in between. -/
theorem replaced_of_missed {x y : Nat} {q : Path} {host : Host}
    (hx : s.calls.get? x = some ⟨c, .missed⟩) (hy : s.calls.get? y = some ⟨c, .missed⟩)
    (hne : x ≠ y) (hearly : s.finder.lookup? s.host c = some p)
    (hlate : s.finder.lookup? host c = some q) :
    ∃ t u, Steps s t ∧ Steps t u ∧ t.finder.cached? c = some q ∧ t.Looking x c ∧
      u.finder.cached? c = some p ∧ u.Answered x c p := by
  let first := (s.enter x c (.looked (s.finder.lookup? s.host c))).change host
  let second := first.enter y c (.looked (s.finder.lookup? host c))
  have hmissed : first.calls.get? y = some ⟨c, .missed⟩ :=
    (get?_enter ..).trans ((if_neg hne.symm).trans hy)
  have hlook : Steps s second :=
    ((Relation.ReflTransGen.single (.look hx)).tail (.change _ host)).tail (.look hmissed)
  have hlater : second.calls.get? y = some ⟨c, .looked (some q)⟩ := by
    rw [← hlate]
    exact get?_enter_self ..
  have hearlier : (second.write y c (some q)).calls.get? x = some ⟨c, .looked (some p)⟩ := by
    rw [← hearly]
    exact (get?_enter ..).trans ((if_neg hne).trans
      ((get?_enter ..).trans ((if_neg hne).trans (get?_enter_self ..))))
  refine ⟨_, _, hlook.tail (.write hlater), .single (.write hearlier), ?_, ⟨_, hearlier, trivial⟩,
    ?_, get?_enter_self ..⟩
  · exact (cached?_remember ..).trans (if_pos rfl)
  · exact (cached?_remember ..).trans (if_pos rfl)

end ToolCalls

open ToolCalls

/-- The host with tools for other compilers, after the compiler's own was put beside them. -/
def filtHost : Host :=
  shellHost [("g++", .file [] true), ("mips-c++filt", textFile ""), ("arm-c++filt", textFile ""),
    ("c++filt", textFile "")]

/-- A tool that is kept does not always stay, and not every call that is still to answer gives
it. -/
theorem kept_tool_lost :
    ∃ s t x, Steps (.ofFinder filtFinder crossHost) s ∧ Steps s t ∧
      s.finder.cached? "g++".toList = some (.ofString "/c++filt") ∧ s.Looking x "g++".toList ∧
      t.finder.cached? "g++".toList = some (.ofString "/arm-c++filt") ∧
      t.Answered x "g++".toList (.ofString "/arm-c++filt") := by
  let missed := ((((ofFinder filtFinder crossHost).enter 0 "g++".toList .begun).enter 1
    "g++".toList .begun).enter 0 "g++".toList .missed).enter 1 "g++".toList .missed
  have hmissed : Steps (.ofFinder filtFinder crossHost) missed :=
    (((Relation.ReflTransGen.single (.begin _ rfl)).tail (.begin _ rfl)).tail (.miss rfl rfl)).tail
      (.miss rfl rfl)
  have hearly : filtFinder.lookup? crossHost "g++".toList = some (.ofString "/arm-c++filt") := by
    decide +kernel
  have hlate : filtFinder.lookup? filtHost "g++".toList = some (.ofString "/c++filt") := by
    decide +kernel
  obtain ⟨s, t, hfirst, hlast, hlater⟩ :=
    replaced_of_missed (s := missed) (x := 0) (y := 1) rfl rfl Nat.zero_ne_one hearly hlate
  exact ⟨s, t, 0, hmissed.trans hfirst, hlast, hlater⟩

end AsmExplorer.Proofs
