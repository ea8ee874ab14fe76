import AsmExplorer.Compile.RunRegistry
import Mathlib.Data.List.Induction
import Mathlib.Data.List.Nodup
import Mathlib.Data.List.Perm.Basic

/-!
# Histories of runs

A registry is used by beginning runs, letting go of them and cancelling them, in any order. A run is
live while it is held and has not been told to stop. The invariant that carries every law here is
that a place belongs to a run exactly when the run is live for that source file: so letting go of a
run that was superseded finds its place taken by another and leaves it alone.

Runs are numbered in the order in which they begin, so that a number is used once.
-/

namespace AsmExplorer.Proofs

/-- A registry and the runs that are held, each with its source file. -/
structure HeldRuns where
  registry : RunRegistry
  held : Table Nat Path

/-- What a registry is asked for. -/
inductive RunRequest where
  | begin (source : Path)
  /-- The run with the number is let go of. -/
  | drop (id : Nat)
  | cancel (source : Path)
  | cancelAll
  deriving DecidableEq

namespace RunRequest

def isBegin : RunRequest → Bool
  | .begin _ => true
  | _ => false

/-- Whether a request tells the run that is current for a key to stop. -/
def Strikes (key : List Component) : RunRequest → Prop
  | .begin source => source.key = key
  | .drop _ => False
  | .cancel source => source.key = key
  | .cancelAll => True

end RunRequest

namespace HeldRuns

/-- No run yet. -/
def empty : HeldRuns := ⟨.empty, .empty⟩

/-- Serves a request. Letting go of a run that is not held changes nothing. -/
def serve (d : HeldRuns) : RunRequest → HeldRuns
  | .begin source =>
    ⟨(d.registry.begin source).1, d.held.insert (d.registry.begin source).2 source⟩
  | .drop id =>
    match d.held.get? id with
    | some source => ⟨d.registry.finish source id, d.held.erase id⟩
    | none => d
  | .cancel source => ⟨(d.registry.cancel source).1, d.held⟩
  | .cancelAll => ⟨d.registry.cancelAll, d.held⟩

/-- A run is live while it is held and was not told to stop. -/
def IsLive (d : HeldRuns) (id : Nat) (source : Path) : Prop :=
  d.held.get? id = some source ∧ d.registry.isStopped id = false

/-- The live runs. -/
def live (d : HeldRuns) : List (Nat × Path) :=
  d.held.pairs.filter fun p => !d.registry.isStopped p.1

/-- Whether a request is about the runs of a key. -/
def Concerns (d : HeldRuns) (key : List Component) : RunRequest → Prop
  | .begin source => source.key = key
  | .drop id => ∃ source, d.held.get? id = some source ∧ source.key = key
  | .cancel source => source.key = key
  | .cancelAll => True

/-- A place belongs to a run exactly when the run is live, and numbers are below the next one. -/
structure Linked (d : HeldRuns) : Prop where
  held_lt : ∀ id source, d.held.get? id = some source → id < d.registry.next
  stopped_lt : ∀ id, d.registry.isStopped id = true → id < d.registry.next
  current_iff : ∀ key id, d.registry.current.get? key = some id ↔
    ∃ source, d.IsLive id source ∧ source.key = key

variable {d : HeldRuns}

lemma linked_empty : Linked empty := by
  refine ⟨fun id source h => ?_, fun id h => ?_, fun key id => ?_⟩
  · exact absurd h (by simp [empty])
  · exact absurd h (by simp [empty, RunRegistry.empty, RunRegistry.isStopped])
  · simp [empty, RunRegistry.empty, IsLive]

/-- The current run of a key is held for that key. -/
lemma key_of_current (h : Linked d) {key : List Component} {id : Nat} {source : Path}
    (hcurrent : d.registry.current.get? key = some id) (hheld : d.held.get? id = some source) :
    source.key = key := by
  obtain ⟨other, ⟨hother, -⟩, hkey⟩ := (h.current_iff key id).mp hcurrent
  rw [hheld, Option.some.injEq] at hother
  exact hother ▸ hkey

/-- The next number belongs to no run. -/
lemma held_next (h : Linked d) : d.held.get? d.registry.next = none := by
  by_contra hne
  obtain ⟨source, hsource⟩ := Option.ne_none_iff_exists'.mp hne
  exact Nat.lt_irrefl _ (h.held_lt _ _ hsource)

/-! ### What a request does -/

lemma serve_drop_of_held {id : Nat} {source : Path} (h : d.held.get? id = some source) :
    d.serve (.drop id) = ⟨d.registry.finish source id, d.held.erase id⟩ := by
  rw [serve, h]

lemma serve_drop_of_not_held {id : Nat} (h : d.held.get? id = none) :
    d.serve (.drop id) = d := by
  rw [serve, h]

lemma next_serve (d : HeldRuns) (r : RunRequest) :
    (d.serve r).registry.next = d.registry.next + if r.isBegin then 1 else 0 := by
  cases r with
  | begin source => simp [serve, RunRegistry.begin, RunRegistry.draw, RunRegistry.place,
      RunRequest.isBegin]
  | drop id =>
    cases hid : d.held.get? id with
    | none => rw [serve_drop_of_not_held hid]; rfl
    | some source =>
      rw [serve_drop_of_held hid]
      show (d.registry.finish source id).next = _
      unfold RunRegistry.finish
      split <;> rfl
  | cancel source => simp [serve, RunRegistry.cancel, RunRegistry.vacate, RunRequest.isBegin]
  | cancelAll => simp [serve, RunRegistry.cancelAll, RunRegistry.vacateAll, RunRequest.isBegin]

lemma held_serve (h : Linked d) (r : RunRequest) (id : Nat) (source : Path) :
    (d.serve r).held.get? id = some source ↔
      (r = .begin source ∧ id = d.registry.next) ∨
        (d.held.get? id = some source ∧ r ≠ .drop id) := by
  cases r with
  | begin other =>
    have hheld : (d.serve (.begin other)).held.get? id =
        if id = d.registry.next then some other else d.held.get? id := Table.get?_insert ..
    rw [hheld]
    by_cases hid : id = d.registry.next
    · simp [hid, held_next h]
    · simp [hid]
  | drop other =>
    cases hother : d.held.get? other with
    | none =>
      rw [serve_drop_of_not_held hother]
      constructor
      · intro hid
        refine Or.inr ⟨hid, fun he => ?_⟩
        rw [RunRequest.drop.inj he, hid] at hother
        exact absurd hother (by simp)
      · rintro (⟨he, -⟩ | ⟨hid, -⟩)
        · exact absurd he (by simp)
        · exact hid
    | some s =>
      rw [serve_drop_of_held hother]
      simp only [Table.get?_erase]
      by_cases hid : id = other
      · simp [hid]
      · simp [hid, Ne.symm hid]
  | cancel other => simp [serve]
  | cancelAll => simp [serve]

/-- A run is told to stop by a request that strikes its key while the run is live. -/
lemma isStopped_serve (h : Linked d) (r : RunRequest) (id : Nat) :
    (d.serve r).registry.isStopped id = true ↔
      d.registry.isStopped id = true ∨ ∃ source, d.IsLive id source ∧ r.Strikes source.key := by
  cases r with
  | begin other =>
    have hstop : (d.serve (.begin other)).registry.isStopped id = true ↔
        d.registry.isStopped id = true ∨ id ∈ (d.registry.current.get? other.key).toList :=
      RunRegistry.isStopped_stopAll
    rw [hstop, Option.mem_toList, h.current_iff]
    simp only [RunRequest.Strikes, eq_comm]
  | drop other =>
    have hsame : (d.serve (.drop other)).registry.isStopped id = d.registry.isStopped id := by
      cases hother : d.held.get? other with
      | none => rw [serve_drop_of_not_held hother]
      | some source =>
        rw [serve_drop_of_held hother]
        show (d.registry.finish source other).isStopped id = _
        unfold RunRegistry.finish
        split <;> rfl
    simp [hsame, RunRequest.Strikes]
  | cancel other =>
    have hstop : (d.serve (.cancel other)).registry.isStopped id = true ↔
        d.registry.isStopped id = true ∨ id ∈ (d.registry.current.get? other.key).toList :=
      RunRegistry.isStopped_stopAll
    rw [hstop, Option.mem_toList, h.current_iff]
    simp only [RunRequest.Strikes, eq_comm]
  | cancelAll =>
    have hstop : (d.serve .cancelAll).registry.isStopped id = true ↔
        d.registry.isStopped id = true ∨ id ∈ d.registry.current.values :=
      RunRegistry.isStopped_stopAll
    simp only [hstop, Table.mem_values_iff, h.current_iff, RunRequest.Strikes, and_true,
      exists_and_left, exists_comm]
    simp

/-- A place goes to the run that begins, and otherwise stays with its run until a request strikes its
key or the run is let go of. -/
lemma current_serve (h : Linked d) (r : RunRequest) (key : List Component) (id : Nat) :
    (d.serve r).registry.current.get? key = some id ↔
      (∃ source, r = .begin source ∧ source.key = key ∧ id = d.registry.next) ∨
        (d.registry.current.get? key = some id ∧ ¬r.Strikes key ∧ r ≠ .drop id) := by
  cases r with
  | begin source =>
    have hcurrent : (d.serve (.begin source)).registry.current.get? key =
        if key = source.key then some d.registry.next else d.registry.current.get? key := by
      simp only [serve, RunRegistry.begin, RunRegistry.draw, RunRegistry.place,
        RunRegistry.current_stopAll, Table.get?_insert]
    rw [hcurrent]
    by_cases hkey : key = source.key
    · simp [hkey, RunRequest.Strikes, eq_comm]
    · simp [hkey, Ne.symm hkey, RunRequest.Strikes]
  | drop other =>
    have hne : d.registry.current.get? key = some id → d.held.get? id ≠ none := by
      intro hid hnone
      obtain ⟨source, ⟨hsource, -⟩, -⟩ := (h.current_iff key id).mp hid
      rw [hnone] at hsource
      exact absurd hsource (by simp)
    cases hother : d.held.get? other with
    | none =>
      rw [serve_drop_of_not_held hother]
      have hdrop : d.registry.current.get? key = some id → other ≠ id :=
        fun hid he => hne hid (he ▸ hother)
      simp only [RunRequest.Strikes, not_false_eq_true, true_and, ne_eq, RunRequest.drop.injEq]
      constructor
      · exact fun hid => Or.inr ⟨hid, hdrop hid⟩
      · rintro (⟨source, he, -⟩ | ⟨hid, -⟩)
        · exact absurd he (by simp)
        · exact hid
    | some source =>
      rw [serve_drop_of_held hother]
      show (d.registry.finish source other).current.get? key = some id ↔ _
      unfold RunRegistry.finish
      split
      · next hplace =>
        rw [Table.get?_erase]
        by_cases hkey : key = source.key
        · subst hkey
          simp [hplace, RunRequest.Strikes]
        · have hdrop : d.registry.current.get? key = some id → other ≠ id := by
            rintro hid rfl
            exact hkey (key_of_current h hid hother).symm
          simpa [hkey, RunRequest.Strikes] using hdrop
      · next hplace =>
        have hdrop : d.registry.current.get? key = some id → other ≠ id := by
          rintro hid rfl
          rw [← key_of_current h hid hother] at hid
          exact hplace hid
        simpa [RunRequest.Strikes] using hdrop
  | cancel source =>
    have hcurrent : (d.serve (.cancel source)).registry.current.get? key =
        if key = source.key then none else d.registry.current.get? key := by
      simp only [serve, RunRegistry.cancel, RunRegistry.vacate, RunRegistry.current_stopAll,
        Table.get?_erase]
    rw [hcurrent]
    by_cases hkey : key = source.key
    · simp [hkey, RunRequest.Strikes]
    · simp [hkey, Ne.symm hkey, RunRequest.Strikes]
  | cancelAll =>
    simp [serve, RunRegistry.cancelAll, RunRegistry.vacateAll, RunRequest.Strikes]

/-- Every request keeps places and live runs together. -/
lemma linked_serve (h : Linked d) (r : RunRequest) : Linked (d.serve r) := by
  have hle : d.registry.next ≤ (d.serve r).registry.next := by
    rw [next_serve]
    exact Nat.le_add_right _ _
  refine ⟨fun id source hid => ?_, fun id hid => ?_, fun key id => ?_⟩
  · rcases (held_serve h r id source).mp hid with ⟨rfl, rfl⟩ | ⟨hheld, -⟩
    · rw [next_serve]
      exact Nat.lt_succ_self _
    · exact Nat.lt_of_lt_of_le (h.held_lt id source hheld) hle
  · rcases (isStopped_serve h r id).mp hid with hstopped | ⟨source, hlive, -⟩
    · exact Nat.lt_of_lt_of_le (h.stopped_lt id hstopped) hle
    · exact Nat.lt_of_lt_of_le (h.held_lt id source hlive.1) hle
  · rw [current_serve h]
    constructor
    · rintro (⟨source, rfl, hkey, rfl⟩ | ⟨hcurrent, hstrikes, hdrop⟩)
      · refine ⟨source, ⟨(held_serve h _ _ _).mpr (Or.inl ⟨rfl, rfl⟩), ?_⟩, hkey⟩
        refine Bool.eq_false_iff.mpr fun hs => ?_
        rcases (isStopped_serve h _ _).mp hs with hs | ⟨other, hlive, -⟩
        · exact Nat.lt_irrefl _ (h.stopped_lt _ hs)
        · exact Nat.lt_irrefl _ (h.held_lt _ _ hlive.1)
      · obtain ⟨source, ⟨hheld, hlive⟩, hkey⟩ := (h.current_iff key id).mp hcurrent
        refine ⟨source, ⟨(held_serve h _ _ _).mpr (Or.inr ⟨hheld, hdrop⟩), ?_⟩, hkey⟩
        refine Bool.eq_false_iff.mpr fun hs => ?_
        rcases (isStopped_serve h _ _).mp hs with hs | ⟨other, hother, hs⟩
        · exact Bool.false_ne_true (hlive.symm.trans hs)
        · exact hstrikes (key_of_current h hcurrent hother.1 ▸ hs)
    · rintro ⟨source, ⟨hheld, hlive⟩, hkey⟩
      have hnot := fun hs => Bool.eq_false_iff.mp hlive ((isStopped_serve h r id).mpr hs)
      rcases (held_serve h r id source).mp hheld with ⟨rfl, rfl⟩ | ⟨hheld, hdrop⟩
      · exact Or.inl ⟨source, rfl, hkey, rfl⟩
      · have hold : d.IsLive id source :=
          ⟨hheld, Bool.eq_false_iff.mpr fun hs => hnot (Or.inl hs)⟩
        have hcurrent := (h.current_iff key id).mpr ⟨source, hold, hkey⟩
        exact Or.inr ⟨hcurrent, fun hs => hnot (Or.inr ⟨source, hold, hkey ▸ hs⟩), hdrop⟩

lemma concerns_of_strikes (d : HeldRuns) {r : RunRequest} {key : List Component}
    (h : r.Strikes key) : d.Concerns key r := by
  cases r with
  | begin source => exact h
  | drop id => exact h.elim
  | cancel source => exact h
  | cancelAll => trivial

/-- As many places are taken as runs are live. -/
lemma active_eq_live (h : Linked d) : d.registry.active = d.live.length := by
  have hplaces : (d.registry.current.pairs.map Prod.snd).Nodup := by
    apply List.Nodup.map_on _ (List.Nodup.of_map Prod.fst d.registry.current.nodup)
    rintro ⟨key, id⟩ hp ⟨key', id'⟩ hp' rfl
    obtain ⟨source, hlive, rfl⟩ := (h.current_iff key id).mp (Table.mem_pairs_iff.mp hp)
    rw [key_of_current h (Table.mem_pairs_iff.mp hp') hlive.1]
  have hlive : (d.live.map Prod.fst).Nodup :=
    (List.Sublist.map Prod.fst List.filter_sublist).nodup d.held.nodup
  have hperm : (d.registry.current.pairs.map Prod.snd).Perm (d.live.map Prod.fst) := by
    rw [List.perm_ext_iff_of_nodup hplaces hlive]
    intro id
    constructor
    · intro hid
      obtain ⟨⟨key, id⟩, hp, rfl⟩ := List.mem_map.mp hid
      obtain ⟨source, ⟨hheld, hstopped⟩, -⟩ :=
        (h.current_iff key id).mp (Table.mem_pairs_iff.mp hp)
      refine List.mem_map.mpr ⟨(id, source), List.mem_filter.mpr ⟨?_, ?_⟩, rfl⟩
      · exact Table.mem_pairs_iff.mpr hheld
      · simp [hstopped]
    · intro hid
      obtain ⟨⟨id, source⟩, hp, rfl⟩ := List.mem_map.mp hid
      obtain ⟨hheld, hstopped⟩ := List.mem_filter.mp hp
      have hcurrent := (h.current_iff source.key id).mpr
        ⟨source, ⟨Table.mem_pairs_iff.mp hheld, by simpa using hstopped⟩, rfl⟩
      exact List.mem_map.mpr ⟨(source.key, id), Table.mem_pairs_iff.mpr hcurrent, rfl⟩
  have hlength := hperm.length_eq
  rwa [List.length_map, List.length_map] at hlength

/-- Letting go of a run that was told to stop leaves the registry alone. -/
lemma serve_drop_of_stopped (h : Linked d) {id : Nat} (hid : d.registry.isStopped id = true) :
    (d.serve (.drop id)).registry = d.registry := by
  cases hheld : d.held.get? id with
  | none => rw [serve_drop_of_not_held hheld]
  | some source =>
    have hplace : d.registry.current.get? source.key ≠ some id := by
      intro hcurrent
      obtain ⟨other, ⟨-, hlive⟩, -⟩ := (h.current_iff _ id).mp hcurrent
      exact Bool.false_ne_true (hlive.symm.trans hid)
    rw [serve_drop_of_held hheld]
    exact if_neg hplace

lemma cancel_iff (h : Linked d) (source : Path) :
    (d.registry.cancel source).2 = true ↔
      ∃ id other, d.IsLive id other ∧ other.key = source.key := by
  show (d.registry.current.get? source.key).isSome = true ↔ _
  rw [Option.isSome_iff_exists]
  simp only [h.current_iff]

/-- A request that is not about a key leaves the runs of that key alone. -/
lemma serve_frame (h : Linked d) {r : RunRequest} {id : Nat} {source : Path}
    (hheld : d.held.get? id = some source) (hr : ¬d.Concerns source.key r) :
    (d.serve r).held.get? id = some source ∧
      (d.serve r).registry.isStopped id = d.registry.isStopped id ∧
      (d.serve r).registry.current.get? source.key = d.registry.current.get? source.key := by
  have hstrikes : ¬r.Strikes source.key := fun hs => hr (concerns_of_strikes d hs)
  refine ⟨?_, ?_, ?_⟩
  · refine (held_serve h r id source).mpr (Or.inr ⟨hheld, ?_⟩)
    rintro rfl
    exact hr ⟨source, hheld, rfl⟩
  · rw [Bool.eq_iff_iff, isStopped_serve h]
    constructor
    · rintro (hs | ⟨other, hlive, hs⟩)
      · exact hs
      · have hsame : source = other := Option.some.inj (hheld.symm.trans hlive.1)
        exact absurd (hsame ▸ hs) hstrikes
    · exact Or.inl
  · refine Option.ext fun x => ?_
    rw [current_serve h]
    constructor
    · rintro (⟨other, rfl, hkey, -⟩ | ⟨hx, -, -⟩)
      · exact absurd hkey hr
      · exact hx
    · intro hx
      refine Or.inr ⟨hx, hstrikes, ?_⟩
      rintro rfl
      obtain ⟨other, ⟨hother, -⟩, hkey⟩ := (h.current_iff _ x).mp hx
      exact hr ⟨other, hother, hkey⟩

/-! ### What a history leads to -/

/-- The runs after a history of requests. -/
def ofHistory (history : List RunRequest) : HeldRuns :=
  history.foldl serve empty

/-- The number of runs that have begun in a history. -/
def begun (history : List RunRequest) : Nat :=
  history.countP RunRequest.isBegin

/-- Whether the run with a number is struck in the requests after its begin, while it is held. -/
def StruckIn (key : List Component) (id : Nat) (later : List RunRequest) : Prop :=
  ∃ mid r, mid ++ [r] <+: later ∧ .drop id ∉ mid ∧ r.Strikes key

lemma ofHistory_append_singleton (history : List RunRequest) (r : RunRequest) :
    ofHistory (history ++ [r]) = (ofHistory history).serve r := by
  simp only [ofHistory, List.foldl_append, List.foldl_cons, List.foldl_nil]

lemma linked_ofHistory (history : List RunRequest) : Linked (ofHistory history) := by
  induction history using List.reverseRecOn with
  | nil => exact linked_empty
  | append_singleton history r ih =>
    rw [ofHistory_append_singleton]
    exact linked_serve ih r

lemma next_ofHistory (history : List RunRequest) :
    (ofHistory history).registry.next = begun history := by
  induction history using List.reverseRecOn with
  | nil => rfl
  | append_singleton history r ih =>
    rw [ofHistory_append_singleton, next_serve, ih, begun, begun, List.countP_append,
      List.countP_singleton]

lemma begun_lt (before later : List RunRequest) (source : Path) :
    begun before < begun (before ++ .begin source :: later) := by
  rw [begun, begun, List.countP_append, List.countP_cons_of_pos rfl]
  omega

/-- A run is held from its begin until it is let go of. -/
lemma held_since (before later : List RunRequest) (source other : Path) :
    (ofHistory (before ++ .begin source :: later)).held.get? (begun before) = some other ↔
      other = source ∧ .drop (begun before) ∉ later := by
  induction later using List.reverseRecOn with
  | nil =>
    rw [ofHistory_append_singleton, held_serve (linked_ofHistory before), next_ofHistory]
    have hnone := held_next (linked_ofHistory before)
    rw [next_ofHistory] at hnone
    simp [hnone, eq_comm]
  | append_singleton later r ih =>
    have hne : begun before ≠ begun (before ++ .begin source :: later) :=
      Nat.ne_of_lt (begun_lt before later source)
    rw [← List.cons_append, ← List.append_assoc, ofHistory_append_singleton,
      held_serve (linked_ofHistory _), next_ofHistory, ih]
    simp only [hne, and_false, false_or, List.mem_append, List.mem_singleton, not_or, and_assoc,
      ne_eq, eq_comm]

lemma struckIn_append_singleton (key : List Component) (id : Nat) (later : List RunRequest)
    (r : RunRequest) :
    StruckIn key id (later ++ [r]) ↔
      StruckIn key id later ∨ (.drop id ∉ later ∧ r.Strikes key) := by
  constructor
  · rintro ⟨mid, r', hprefix, hdrop, hs⟩
    rcases List.prefix_concat_iff.mp hprefix with heq | hprefix
    · obtain ⟨rfl, hr⟩ := List.append_inj' heq rfl
      rw [List.singleton_inj.mp hr] at hs
      exact Or.inr ⟨hdrop, hs⟩
    · exact Or.inl ⟨mid, r', hprefix, hdrop, hs⟩
  · rintro (⟨mid, r', hprefix, hdrop, hs⟩ | ⟨hdrop, hs⟩)
    · exact ⟨mid, r', hprefix.trans (List.prefix_append later [r]), hdrop, hs⟩
    · exact ⟨later, r, List.prefix_rfl, hdrop, hs⟩

/-- A run was told to stop exactly when it was struck while it was held. -/
lemma isStopped_since (before later : List RunRequest) (source : Path) :
    (ofHistory (before ++ .begin source :: later)).registry.isStopped (begun before) = true ↔
      StruckIn source.key (begun before) later := by
  induction later using List.reverseRecOn with
  | nil =>
    have hlinked := linked_ofHistory before
    rw [ofHistory_append_singleton, isStopped_serve hlinked, ← next_ofHistory]
    constructor
    · rintro (hs | ⟨other, hlive, -⟩)
      · exact absurd (hlinked.stopped_lt _ hs) (Nat.lt_irrefl _)
      · exact absurd (hlinked.held_lt _ _ hlive.1) (Nat.lt_irrefl _)
    · rintro ⟨mid, r, hprefix, -, -⟩
      exact absurd (List.prefix_nil.mp hprefix) (List.append_ne_nil_of_right_ne_nil _ (by simp))
  | append_singleton later r ih =>
    have hheld := held_since before later source
    rw [← List.cons_append, ← List.append_assoc, ofHistory_append_singleton,
      isStopped_serve (linked_ofHistory _), ih, struckIn_append_singleton]
    constructor
    · rintro (hs | ⟨other, hlive, hs⟩)
      · exact Or.inl hs
      · obtain ⟨rfl, hdrop⟩ := (hheld other).mp hlive.1
        exact Or.inr ⟨hdrop, hs⟩
    · rintro (hs | ⟨hdrop, hs⟩)
      · exact Or.inl hs
      · by_cases hstruck : StruckIn source.key (begun before) later
        · exact Or.inl hstruck
        · refine Or.inr ⟨source, ⟨(hheld source).mpr ⟨rfl, hdrop⟩, ?_⟩, hs⟩
          exact Bool.eq_false_iff.mpr fun h => hstruck (ih.mp h)

/-- A run that is held was begun, and not let go of since. -/
lemma begin_of_held {history : List RunRequest} {id : Nat} {source : Path}
    (h : (ofHistory history).held.get? id = some source) :
    ∃ before later, history = before ++ .begin source :: later ∧ id = begun before ∧
      .drop id ∉ later := by
  induction history using List.reverseRecOn with
  | nil => exact absurd h (by simp [ofHistory, empty])
  | append_singleton history r ih =>
    rw [ofHistory_append_singleton, held_serve (linked_ofHistory history), next_ofHistory] at h
    rcases h with ⟨rfl, rfl⟩ | ⟨hheld, hdrop⟩
    · exact ⟨history, [], rfl, rfl, List.not_mem_nil⟩
    · obtain ⟨before, later, rfl, rfl, hlater⟩ := ih hheld
      refine ⟨before, later ++ [r], by simp, rfl, ?_⟩
      simp only [List.mem_append, List.mem_singleton, not_or]
      exact ⟨hlater, Ne.symm hdrop⟩

/-- Behind the begin of a live run no other run of its key has begun. -/
lemma latest_of_live {history : List RunRequest} {id : Nat} {source : Path}
    (h : (ofHistory history).IsLive id source) :
    ∃ before later, history = before ++ .begin source :: later ∧ id = begun before ∧
      ∀ other, .begin other ∈ later → other.key ≠ source.key := by
  obtain ⟨before, later, rfl, rfl, hdrop⟩ := begin_of_held h.1
  refine ⟨before, later, rfl, rfl, fun other hother hkey => ?_⟩
  obtain ⟨mid, rest, rfl⟩ := List.append_of_mem hother
  have hstruck : StruckIn source.key (begun before) (mid ++ .begin other :: rest) := by
    refine ⟨mid, .begin other, ⟨rest, by simp⟩, fun hmid => ?_, hkey⟩
    exact hdrop (List.mem_append_left _ hmid)
  exact Bool.false_ne_true (h.2.symm.trans ((isStopped_since before _ source).mpr hstruck))

end HeldRuns

open HeldRuns

/-- The laws of runs after a history of requests. -/
structure RunLaws (history : List RunRequest) : Prop where
  /-- The number of a run is the number of runs before it, so that no number is used twice. -/
  numbered : (ofHistory history).registry.next = begun history
  latest : ∀ id source, (ofHistory history).IsLive id source →
    ∃ before later, history = before ++ .begin source :: later ∧ id = begun before ∧
      ∀ other, .begin other ∈ later → other.key ≠ source.key
  unique : ∀ id source id' source', (ofHistory history).IsLive id source →
    (ofHistory history).IsLive id' source' → source.key = source'.key → id = id'
  active_eq : (ofHistory history).registry.active = (ofHistory history).live.length
  stopped_iff : ∀ before source later, history = before ++ .begin source :: later →
    ((ofHistory history).registry.isStopped (begun before) = true ↔
      StruckIn source.key (begun before) later)
  drop_stopped : ∀ id, (ofHistory history).registry.isStopped id = true →
    ((ofHistory history).serve (.drop id)).registry = (ofHistory history).registry
  cancel_iff : ∀ source, ((ofHistory history).registry.cancel source).2 = true ↔
    ∃ id other, (ofHistory history).IsLive id other ∧ other.key = source.key
  frame : ∀ r id source, (ofHistory history).held.get? id = some source →
    ¬(ofHistory history).Concerns source.key r →
      ((ofHistory history).serve r).held.get? id = some source ∧
      ((ofHistory history).serve r).registry.isStopped id =
        (ofHistory history).registry.isStopped id ∧
      ((ofHistory history).serve r).registry.current.get? source.key =
        (ofHistory history).registry.current.get? source.key

/-- In every history of begins, drops and cancellations, a source file has at most one live run, the
one begun last; and a run was told to stop exactly when a later request struck it while it was
held. -/
theorem runLaws_of_history (history : List RunRequest) : RunLaws history := by
  have hlinked := linked_ofHistory history
  refine ⟨next_ofHistory history, fun _ _ => latest_of_live, ?_, active_eq_live hlinked, ?_,
    fun _ => serve_drop_of_stopped hlinked, cancel_iff hlinked, fun _ _ _ => serve_frame hlinked⟩
  · intro id source id' source' hlive hlive' hkey
    have hcurrent := (hlinked.current_iff source.key id).mpr ⟨source, hlive, rfl⟩
    have hcurrent' := (hlinked.current_iff source.key id').mpr ⟨source', hlive', hkey.symm⟩
    exact Option.some.inj (hcurrent.symm.trans hcurrent')
  · rintro before source later rfl
    exact isStopped_since before later source

end AsmExplorer.Proofs
