import AsmExplorer.Machine.Outside
import Mathlib.Data.List.Nodup
import Mathlib.Tactic.Lemma

/-!
# Guarded openings

No pipe has fewer readers than openings that read it, nor fewer writers than openings that write to it.
Some openings belong to one program each: no stream of another program leads to them. Whatever other
programs open, share and close, guarded openings stay as they are, and their pipes stay with them.
-/

namespace AsmExplorer.Proofs

open Machine

/-! ### Tables of openings and pipes -/

section

variable {α : Type}

lemma keys_adjust (f : α → α) (n : Nat) (l : List (Nat × α)) :
    (adjust f n l).map Prod.fst = l.map Prod.fst := by
  induction l with
  | nil => rfl
  | cons e rest ih =>
    obtain ⟨k, a⟩ := e
    rw [adjust]
    split
    · rfl
    · rw [List.map_cons, List.map_cons, ih]

lemma lookup_adjust (f : α → α) (n k : Nat) (l : List (Nat × α)) :
    (adjust f n l).lookup k = if k = n then (l.lookup k).map f else l.lookup k := by
  induction l with
  | nil => simp [adjust]
  | cons e rest ih =>
    obtain ⟨x, a⟩ := e
    rw [adjust]
    by_cases hx : x = n
    · subst hx
      by_cases hk : k = x
      · simp [hk]
      · simp [List.lookup_cons, hk, beq_eq_false_iff_ne.mpr hk]
    · by_cases hk : k = x
      · subst hk
        simp [hx]
      · rw [if_neg hx, List.lookup_cons, List.lookup_cons, ih]
        simp [beq_eq_false_iff_ne.mpr hk]

lemma mem_adjust {f : α → α} {n : Nat} {l : List (Nat × α)} {e : Nat × α} (h : e ∈ adjust f n l) :
    e ∈ l ∨ ∃ a, l.lookup n = some a ∧ e = (n, f a) := by
  induction l with
  | nil => exact absurd h List.not_mem_nil
  | cons x rest ih =>
    obtain ⟨k, a⟩ := x
    rw [adjust] at h
    split at h
    · next hk =>
      rcases List.mem_cons.mp h with rfl | h
      · exact Or.inr ⟨a, by simp [hk], by rw [hk]⟩
      · exact Or.inl (List.mem_cons_of_mem _ h)
    · next hk =>
      have hother : (n == k) = false := beq_eq_false_iff_ne.mpr (Ne.symm hk)
      rcases List.mem_cons.mp h with rfl | h
      · exact Or.inl List.mem_cons_self
      · rcases ih h with h | ⟨b, hb, heq⟩
        · exact Or.inl (List.mem_cons_of_mem _ h)
        · exact Or.inr ⟨b, by rwa [List.lookup_cons, hother], heq⟩

lemma discard_sublist (n : Nat) (l : List (Nat × α)) : (discard n l).Sublist l := by
  induction l with
  | nil => exact List.Sublist.refl _
  | cons e rest ih =>
    obtain ⟨k, a⟩ := e
    rw [Machine.discard]
    split
    · exact List.sublist_cons_self _ _
    · exact ih.cons_cons _

lemma lookup_discard_of_ne {n k : Nat} (h : k ≠ n) (l : List (Nat × α)) :
    (discard n l).lookup k = l.lookup k := by
  induction l with
  | nil => rfl
  | cons e rest ih =>
    obtain ⟨x, a⟩ := e
    rw [Machine.discard]
    split
    · next hx =>
      have hk : (k == x) = false := beq_eq_false_iff_ne.mpr (hx ▸ h)
      rw [List.lookup_cons, hk]
    · rw [List.lookup_cons, List.lookup_cons, ih]

end

/-- How many openings lead to a target. -/
def leads (target : Target) (openings : List (Nat × Opening)) : Nat :=
  openings.countP fun e => e.2.target = target

section

variable {target : Target} {n : Nat} {openings : List (Nat × Opening)} {o : Opening}

lemma leads_adjust {f : Opening → Opening} (hf : ∀ o, (f o).target = o.target) (target : Target)
    (n : Nat) (openings : List (Nat × Opening)) :
    leads target (adjust f n openings) = leads target openings := by
  induction openings with
  | nil => rfl
  | cons e rest ih =>
    obtain ⟨k, o⟩ := e
    unfold leads at ih ⊢
    rw [adjust]
    split
    · rw [List.countP_cons, List.countP_cons, hf]
    · rw [List.countP_cons, List.countP_cons, ih]

lemma leads_cons (target : Target) (n : Nat) (o : Opening) (openings : List (Nat × Opening)) :
    leads target ((n, o) :: openings) =
      leads target openings + if o.target = target then 1 else 0 := by
  unfold leads
  rw [List.countP_cons]
  simp

/-- Of the openings that lead to a target, one less is left when one of them is closed. -/
lemma leads_discard (target : Target) (h : openings.lookup n = some o) :
    leads target (discard n openings) + (if o.target = target then 1 else 0) =
      leads target openings := by
  induction openings with
  | nil => simp at h
  | cons e rest ih =>
    obtain ⟨k, a⟩ := e
    rw [Machine.discard, leads_cons]
    by_cases hk : k = n
    · subst hk
      obtain rfl : a = o := by simpa using h
      rw [if_pos rfl]
    · rw [List.lookup_cons, beq_eq_false_iff_ne.mpr (Ne.symm hk)] at h
      rw [if_neg hk, leads_cons, ← ih h]
      omega

lemma leads_pos (h : openings.lookup n = some o) (ho : o.target = target) :
    0 < leads target openings := by
  have hdiscard := leads_discard target h
  rw [if_pos ho] at hdiscard
  omega

end

/-! ### Queues -/

/-- The size that a queue remembers is that of its pieces. -/
def Sized (q : Queue) : Prop :=
  q.size = q.front.length + q.back.flatten.length

lemma sized_put {q : Queue} (h : Sized q) (bytes : Bytes) : Sized (q.put bytes) := by
  unfold Sized at h ⊢
  simp only [Queue.put, List.flatten_cons, List.length_append]
  omega

lemma sized_take {q : Queue} (h : Sized q) (limit : Nat) : Sized (q.take limit).2 := by
  unfold Sized at h ⊢
  unfold Queue.take
  by_cases hfront : q.front = []
  · have hlength : q.back.reverse.flatten.length = q.back.flatten.length := by
      simp [List.length_flatten, List.map_reverse, List.sum_reverse]
    simp only [hfront, if_true, List.length_take, List.length_drop, List.flatten_nil,
      List.length_nil, hlength] at h ⊢
    omega
  · simp only [hfront, if_false, List.length_take, List.length_drop]
    omega

/-- What is taken from a queue is nothing only if nothing is in it. -/
lemma take_ne_nil {q : Queue} (h : Sized q) (hsize : q.size ≠ 0) {limit : Nat} (hlimit : 0 < limit) :
    (q.take limit).1 ≠ [] := by
  have htake : ∀ bytes : Bytes, bytes ≠ [] → bytes.take limit ≠ [] := by
    intro bytes hbytes
    rw [Ne, List.take_eq_nil_iff, not_or]
    exact ⟨by omega, hbytes⟩
  unfold Sized at h
  unfold Queue.take
  by_cases hfront : q.front = []
  · simp only [hfront, if_true]
    refine htake _ fun hback => hsize ?_
    have hlength : q.back.flatten.length = q.back.reverse.flatten.length := by
      simp [List.length_flatten, List.map_reverse, List.sum_reverse]
    rw [h, hlength, hback, hfront]
    rfl
  · simp only [hfront, if_false]
    exact htake _ hfront

/-! ### Pipes and openings -/

def readers (m : Machine) (p : Nat) : Nat :=
  (m.pipe? p).elim 0 Pipe.readers

def writers (m : Machine) (p : Nat) : Nat :=
  (m.pipe? p).elim 0 Pipe.writers

/-- Openings and pipes have numbers of their own, and a pipe has at least the ends that are open. -/
structure Plumbed (m : Machine) : Prop where
  nodup : (m.openings.map Prod.fst).Nodup
  opening_lt : ∀ n ∈ m.openings.map Prod.fst, n < m.next
  pipe_lt : ∀ p ∈ m.pipes.map Prod.fst, p < m.next
  sized : ∀ e ∈ m.pipes, Sized e.2.queue
  readers : ∀ p, leads (.source p) m.openings ≤ readers m p
  writers : ∀ p, leads (.sink p) m.openings ≤ writers m p

/-- An opening that belongs to one program. -/
structure Guard where
  opening : Nat
  target : Target
  readable : Bool
  writable : Bool

structure Guard.Fits (g : Guard) (o : Opening) : Prop where
  target : o.target = g.target
  readable : o.readable = g.readable
  writable : o.writable = g.writable

/-- Every guarded opening is there, as it is meant to be. -/
structure Guarded (guards : List Guard) (m : Machine) : Prop extends Plumbed m where
  guard : ∀ g ∈ guards, ∃ o, m.opening? g.opening = some o ∧ g.Fits o

/-- No stream leads to a guarded opening. -/
def Avoids (guards : List Guard) (streams : List (Nat × Stream)) : Prop :=
  ∀ s ∈ streams, ∀ g ∈ guards, s.2.opening ≠ g.opening

section

variable {guards : List Guard} {m m' : Machine} {n p : Nat} {o : Opening} {q : Pipe}

lemma mem_of_lookup {α : Type} {l : List (Nat × α)} {k : Nat} {a : α} (h : l.lookup k = some a) :
    (k, a) ∈ l := by
  obtain ⟨l₁, l₂, rfl, -⟩ := List.lookup_eq_some_iff.mp h
  exact List.mem_append_right _ List.mem_cons_self

lemma Plumbed.lt_of_opening (h : Plumbed m) (ho : m.opening? n = some o) : n < m.next :=
  h.opening_lt n (List.mem_map_of_mem (mem_of_lookup ho))

lemma Plumbed.lt_of_pipe (h : Plumbed m) (hq : m.pipe? p = some q) : p < m.next :=
  h.pipe_lt p (List.mem_map_of_mem (mem_of_lookup hq))

lemma Plumbed.sized_of_pipe (h : Plumbed m) (hq : m.pipe? p = some q) : Sized q.queue :=
  h.sized (p, q) (mem_of_lookup hq)

/-- A pipe that is open for reading has a reader. -/
lemma Plumbed.pipe_of_source (h : Plumbed m) (ho : m.opening? n = some o)
    (htarget : o.target = .source p) : ∃ q, m.pipe? p = some q ∧ 0 < q.readers := by
  have hpos := Nat.lt_of_lt_of_le (leads_pos ho htarget) (h.readers p)
  unfold Proofs.readers at hpos
  cases hq : m.pipe? p with
  | none =>
    rw [hq] at hpos
    exact absurd hpos (Nat.lt_irrefl 0)
  | some q =>
    rw [hq] at hpos
    exact ⟨q, rfl, hpos⟩

lemma Plumbed.pipe_of_sink (h : Plumbed m) (ho : m.opening? n = some o)
    (htarget : o.target = .sink p) : ∃ q, m.pipe? p = some q := by
  have hpos := Nat.lt_of_lt_of_le (leads_pos ho htarget) (h.writers p)
  unfold Proofs.writers at hpos
  cases hq : m.pipe? p with
  | none =>
    rw [hq] at hpos
    exact absurd hpos (Nat.lt_irrefl 0)
  | some q => exact ⟨q, rfl⟩

lemma Guarded.guard_lt (h : Guarded guards m) {g : Guard} (hg : g ∈ guards) :
    g.opening < m.next := by
  obtain ⟨o, ho, -⟩ := h.guard g hg
  exact h.lt_of_opening ho

lemma guarded_of_same (h : Guarded guards m) (hopenings : m'.openings = m.openings)
    (hpipes : m'.pipes = m.pipes) (hnext : m.next ≤ m'.next) : Guarded guards m' where
  nodup := hopenings ▸ h.nodup
  opening_lt n hn := Nat.lt_of_lt_of_le (h.opening_lt n (hopenings ▸ hn)) hnext
  pipe_lt p hp := Nat.lt_of_lt_of_le (h.pipe_lt p (hpipes ▸ hp)) hnext
  sized := hpipes ▸ h.sized
  readers p := by
    rw [hopenings, readers, pipe?, hpipes]
    exact h.readers p
  writers p := by
    rw [hopenings, writers, pipe?, hpipes]
    exact h.writers p
  guard g hg := by
    obtain ⟨o, ho, hfits⟩ := h.guard g hg
    exact ⟨o, by rwa [opening?, hopenings], hfits⟩

/-- An opening changes, but not what it leads to. -/
lemma guarded_changeOpening (h : Guarded guards m) (n : Nat) {f : Opening → Opening}
    (htarget : ∀ o, (f o).target = o.target) (hreadable : ∀ o, (f o).readable = o.readable)
    (hwritable : ∀ o, (f o).writable = o.writable) : Guarded guards (m.changeOpening n f) where
  nodup := by
    rw [changeOpening, keys_adjust]
    exact h.nodup
  opening_lt k hk := by
    rw [changeOpening, keys_adjust] at hk
    exact h.opening_lt k hk
  pipe_lt := h.pipe_lt
  sized := h.sized
  readers p := by
    rw [changeOpening, leads_adjust htarget]
    exact h.readers p
  writers p := by
    rw [changeOpening, leads_adjust htarget]
    exact h.writers p
  guard g hg := by
    obtain ⟨o, ho, hfits⟩ := h.guard g hg
    have hlookup : (m.changeOpening n f).opening? g.opening =
        if g.opening = n then (m.opening? g.opening).map f else m.opening? g.opening :=
      lookup_adjust f n g.opening m.openings
    rw [hlookup, ho]
    split
    · exact ⟨f o, rfl, (htarget o).trans hfits.target, (hreadable o).trans hfits.readable,
        (hwritable o).trans hfits.writable⟩
    · exact ⟨o, rfl, hfits⟩

lemma guarded_retain (h : Guarded guards m) (n : Nat) : Guarded guards (m.retain n) :=
  guarded_changeOpening h n (fun _ => rfl) (fun _ => rfl) fun _ => rfl

/-! ### Changes of pipes -/

lemma pipe?_changePipe (m : Machine) (n p : Nat) (f : Pipe → Pipe) :
    (m.changePipe n f).pipe? p = if p = n then (m.pipe? p).map f else m.pipe? p :=
  lookup_adjust f n p m.pipes

/-- Of a pipe that changes no more ends are lost than told. -/
lemma ends_changePipe {f : Pipe → Pipe} {ends : Pipe → Nat} (lost : Nat → Nat)
    (hf : ∀ q, ends q ≤ ends (f q) + lost n) (p : Nat) :
    (m.pipe? p).elim 0 ends ≤ ((m.changePipe n f).pipe? p).elim 0 ends + lost p := by
  rw [pipe?_changePipe]
  split
  · next hp =>
    cases m.pipe? p with
    | none => exact Nat.zero_le _
    | some q => exact hp ▸ hf q
  · exact Nat.le_add_right _ _

lemma sized_changePipe {f : Pipe → Pipe} (h : ∀ e ∈ m.pipes, Sized e.2.queue)
    (hf : ∀ q, m.pipe? n = some q → Sized q.queue → Sized (f q).queue) :
    ∀ e ∈ (m.changePipe n f).pipes, Sized e.2.queue := by
  intro e he
  rcases mem_adjust he with he | ⟨q, hq, rfl⟩
  · exact h e he
  · exact hf q hq (h (n, q) (mem_of_lookup hq))

lemma guarded_changePipe (h : Guarded guards m) (n : Nat) {f : Pipe → Pipe}
    (hreaders : ∀ q, q.readers ≤ (f q).readers) (hwriters : ∀ q, q.writers ≤ (f q).writers)
    (hsized : ∀ q, m.pipe? n = some q → Sized q.queue → Sized (f q).queue) :
    Guarded guards (m.changePipe n f) where
  nodup := h.nodup
  opening_lt := h.opening_lt
  pipe_lt := by
    rw [changePipe, keys_adjust]
    exact h.pipe_lt
  sized := sized_changePipe h.sized hsized
  readers p := Nat.le_trans (h.readers p) (ends_changePipe (fun _ => 0) hreaders p)
  writers p := Nat.le_trans (h.writers p) (ends_changePipe (fun _ => 0) hwriters p)
  guard := h.guard

/-- An opening under a new number. If it is an end of a pipe, that has been prepared for it. -/
lemma guarded_addOpening (h : Guarded guards m) (o : Opening)
    (hsource : ∀ p, o.target = .source p → leads (.source p) m.openings < readers m p)
    (hsink : ∀ p, o.target = .sink p → leads (.sink p) m.openings < writers m p) :
    Guarded guards (m.addOpening o).1 where
  nodup := by
    refine List.nodup_cons.mpr ⟨fun hmem => ?_, h.nodup⟩
    exact Nat.lt_irrefl _ (h.opening_lt _ hmem)
  opening_lt n hn := by
    rcases List.mem_cons.mp hn with rfl | hn
    · exact Nat.lt_succ_self _
    · exact Nat.lt_succ_of_lt (h.opening_lt n hn)
  pipe_lt p hp := Nat.lt_succ_of_lt (h.pipe_lt p hp)
  sized := h.sized
  readers p := by
    show leads (.source p) ((m.next, o) :: m.openings) ≤ _
    rw [leads_cons]
    split
    · next htarget => exact hsource p htarget
    · exact h.readers p
  writers p := by
    show leads (.sink p) ((m.next, o) :: m.openings) ≤ _
    rw [leads_cons]
    split
    · next htarget => exact hsink p htarget
    · exact h.writers p
  guard g hg := by
    obtain ⟨x, hx, hfits⟩ := h.guard g hg
    refine ⟨x, ?_, hfits⟩
    have hne := Nat.ne_of_lt (h.guard_lt hg)
    show ((m.next, o) :: m.openings).lookup g.opening = some x
    rw [List.lookup_cons, beq_eq_false_iff_ne.mpr hne]
    exact hx

lemma Plumbed.pipe_next (h : Plumbed m) : m.pipe? m.next = none := by
  cases hq : m.pipe? m.next with
  | none => rfl
  | some q => exact absurd (h.lt_of_pipe hq) (Nat.lt_irrefl _)

/-- No opening leads to a pipe that is not there. -/
lemma Plumbed.leads_next (h : Plumbed m) :
    leads (.source m.next) m.openings = 0 ∧ leads (.sink m.next) m.openings = 0 := by
  have hreaders := h.readers m.next
  have hwriters := h.writers m.next
  unfold Proofs.readers at hreaders
  unfold Proofs.writers at hwriters
  rw [h.pipe_next] at hreaders hwriters
  exact ⟨Nat.le_zero.mp hreaders, Nat.le_zero.mp hwriters⟩

lemma lookup_newPipe (m : Machine) (capacity : Option Nat) (p : Nat) :
    ((m.next, ({ capacity := capacity } : Pipe)) :: m.pipes).lookup p =
      if p = m.next then some { capacity := capacity } else m.pipe? p := by
  by_cases hp : p = m.next
  · simp [hp]
  · rw [List.lookup_cons, beq_eq_false_iff_ne.mpr hp, if_neg hp]
    rfl

/-- A pipe is there, but no opening leads to it yet. -/
lemma guarded_newPipe (h : Guarded guards m) (capacity : Option Nat) : Guarded guards
    { m with pipes := (m.next, { capacity := capacity }) :: m.pipes, next := m.next + 1 } := by
  have hends : ∀ (ends : Pipe → Nat) p, (m.pipe? p).elim 0 ends ≤
      (((m.next, ({ capacity := capacity } : Pipe)) :: m.pipes).lookup p).elim 0 ends := by
    intro ends p
    rw [lookup_newPipe]
    split
    · next hp =>
      subst hp
      rw [h.pipe_next]
      exact Nat.zero_le _
    · exact Nat.le_refl _
  refine ⟨⟨h.nodup, fun n hn => Nat.lt_succ_of_lt (h.opening_lt n hn), fun p hp => ?_,
    fun e he => ?_, fun p => Nat.le_trans (h.readers p) (hends Pipe.readers p),
    fun p => Nat.le_trans (h.writers p) (hends Pipe.writers p)⟩, h.guard⟩
  · rcases List.mem_cons.mp hp with rfl | hp
    · exact Nat.lt_succ_self _
    · exact Nat.lt_succ_of_lt (h.pipe_lt p hp)
  · rcases List.mem_cons.mp he with rfl | he
    · rfl
    · exact h.sized e he

lemma guarded_addPipe (h : Guarded guards m) (capacity : Option Nat) :
    Guarded guards (m.addPipe capacity).1 := by
  obtain ⟨hsources, hsinks⟩ := h.leads_next
  have hsource := guarded_addOpening (guarded_newPipe h capacity)
    { target := .source m.next, readable := true, writable := false } (fun p htarget => by
      obtain rfl := Target.source.inj htarget
      show leads (.source m.next) m.openings < Option.elim (List.lookup _ (_ :: _)) 0 _
      rw [lookup_newPipe, if_pos rfl, hsources]
      exact Nat.zero_lt_one) fun p htarget => Target.noConfusion htarget
  refine guarded_addOpening hsource { target := .sink m.next, readable := false, writable := true }
    (fun p htarget => Target.noConfusion htarget) fun p htarget => ?_
  obtain rfl := Target.sink.inj htarget
  show leads (.sink m.next) ((_, _) :: m.openings) < Option.elim (List.lookup _ (_ :: _)) 0 _
  rw [leads_cons, lookup_newPipe, if_pos rfl, hsinks]
  exact Nat.zero_lt_one

lemma guarded_dropPipe (h : Guarded guards m) (n : Nat) : Guarded guards (m.dropPipe n) := by
  unfold dropPipe
  split
  · next q hq =>
    split
    · next hempty =>
      have hends : ∀ (ends : Pipe → Nat) (target : Nat → Target), ends q = 0 →
          (∀ p, leads (target p) m.openings ≤ (m.pipe? p).elim 0 ends) →
          ∀ p, leads (target p) m.openings ≤ ((discard n m.pipes).lookup p).elim 0 ends := by
        intro ends target hzero hle p
        by_cases hp : p = n
        · subst hp
          have hnone := hle p
          rw [hq] at hnone
          change _ ≤ ends q at hnone
          omega
        · rw [lookup_discard_of_ne hp]
          exact hle p
      have hsub := discard_sublist n m.pipes
      exact ⟨⟨h.nodup, h.opening_lt, fun p hp => h.pipe_lt p ((hsub.map Prod.fst).subset hp),
        fun e he => h.sized e (hsub.subset he),
        hends Pipe.readers .source hempty.1 h.readers, hends Pipe.writers .sink hempty.2 h.writers⟩,
        h.guard⟩
    · exact h
  · exact h

/-- An opening is gone, and no other end of a pipe than that to which it led. -/
lemma guarded_discard (h : Guarded guards m) (ho : m.opening? n = some o)
    (hn : ∀ g ∈ guards, n ≠ g.opening) (hnext : m'.next = m.next)
    (hopenings : m'.openings = Machine.discard n m.openings)
    (hkeys : m'.pipes.map Prod.fst = m.pipes.map Prod.fst)
    (hsized : ∀ e ∈ m'.pipes, Sized e.2.queue)
    (hreaders : ∀ p, readers m p ≤ readers m' p + if o.target = .source p then 1 else 0)
    (hwriters : ∀ p, writers m p ≤ writers m' p + if o.target = .sink p then 1 else 0) :
    Guarded guards m' := by
  have hsub := (discard_sublist n m.openings).map Prod.fst
  refine ⟨⟨hopenings ▸ h.nodup.sublist hsub, fun x hx => ?_, fun p hp => ?_, hsized, fun p => ?_,
    fun p => ?_⟩, fun g hg => ?_⟩
  · rw [hopenings] at hx
    exact hnext ▸ h.opening_lt x (hsub.subset hx)
  · exact hnext ▸ h.pipe_lt p (hkeys ▸ hp)
  · have hleads := leads_discard (.source p) ho
    have hbefore := h.readers p
    have hafter := hreaders p
    rw [hopenings]
    omega
  · have hleads := leads_discard (.sink p) ho
    have hbefore := h.writers p
    have hafter := hwriters p
    rw [hopenings]
    omega
  · obtain ⟨x, hx, hfits⟩ := h.guard g hg
    refine ⟨x, ?_, hfits⟩
    rw [opening?, hopenings]
    exact (lookup_discard_of_ne (hn g hg).symm m.openings).trans hx

lemma guarded_closeOpening (h : Guarded guards m) (ho : m.opening? n = some o)
    (hn : ∀ g ∈ guards, n ≠ g.opening) : Guarded guards (m.closeOpening n o.target) := by
  -- reading end and writing end alike: the pipe loses one end at most, and is dropped with its last
  have hclosed : ∀ (k : Nat) (f : Pipe → Pipe), (∀ q, (f q).queue = q.queue) →
      (∀ q, q.readers ≤ (f q).readers + if o.target = .source k then 1 else 0) →
      (∀ q, q.writers ≤ (f q).writers + if o.target = .sink k then 1 else 0) →
      Guarded guards
        (({ m with openings := Machine.discard n m.openings }.changePipe k f).dropPipe k) := by
    intro k f hqueue hreaders hwriters
    refine guarded_dropPipe (guarded_discard h ho hn ?_ ?_ ?_ ?_ (fun p => ?_) fun p => ?_) k
    · rfl
    · rfl
    · exact keys_adjust f k m.pipes
    · exact sized_changePipe (m := { m with openings := _ }) h.sized fun q _ hsized =>
        hqueue q ▸ hsized
    · exact ends_changePipe (m := { m with openings := _ })
        (fun p => if o.target = .source p then 1 else 0) hreaders p
    · exact ends_changePipe (m := { m with openings := _ })
        (fun p => if o.target = .sink p then 1 else 0) hwriters p
  unfold closeOpening
  dsimp only
  split
  · next k htarget =>
    refine hclosed k _ (fun _ => rfl) (fun q => ?_) fun q => Nat.le_add_right _ _
    rw [if_pos htarget]
    dsimp only
    omega
  · next k htarget =>
    refine hclosed k _ (fun _ => rfl) (fun q => Nat.le_add_right _ _) fun q => ?_
    rw [if_pos htarget]
    dsimp only
    omega
  · exact guarded_discard h ho hn rfl rfl rfl h.sized (fun p => Nat.le_add_right _ _) fun p =>
      Nat.le_add_right _ _

lemma guarded_release (h : Guarded guards m) (hn : ∀ g ∈ guards, n ≠ g.opening) :
    Guarded guards (m.release n) := by
  unfold release
  split
  · next o ho =>
    split
    · exact guarded_closeOpening h ho hn
    · exact guarded_changeOpening h n (fun _ => rfl) (fun _ => rfl) fun _ => rfl
  · exact h

lemma guarded_releaseAll {streams : List (Nat × Stream)} (h : Guarded guards m)
    (havoids : Avoids guards streams) :
    Guarded guards (streams.foldl (fun m s => m.release s.2.opening) m) := by
  induction streams generalizing m with
  | nil => exact h
  | cons s rest ih =>
    refine ih (guarded_release h (havoids s List.mem_cons_self)) fun x hx => ?_
    exact havoids x (List.mem_cons_of_mem s hx)

lemma guarded_retainAll (streams : List (Nat × Stream)) (h : Guarded guards m) :
    Guarded guards (streams.foldl (fun m s => m.retain s.2.opening) m) := by
  induction streams generalizing m with
  | nil => exact h
  | cons s rest ih => exact ih (guarded_retain h s.2.opening)

end

end AsmExplorer.Proofs
