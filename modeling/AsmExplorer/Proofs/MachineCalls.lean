import AsmExplorer.Proofs.GuardedOpenings
import AsmExplorer.Proofs.MachineTasks

/-!
# Calls of programs

What a call of a program does to the machine: other programs stay as they are, but for a signal, and
guarded openings stay as they are if no stream of the program leads to them.
-/

namespace AsmExplorer.Proofs

open Machine

/-- What a call changes of the programs, and that it leaves guarded openings alone. Only the end of
the program to which it sends a signal could touch them. -/
structure Effect (c : Call) (m : Machine) (t : Task) (m' : Machine) (t' : Task) : Prop where
  frame : Frame c m t m' t'
  guarded : ∀ guards, Guarded guards m → Avoids guards t.streams →
    (∀ target signal, c = .send target signal → ∀ u ∈ m.tasks, u.id = target →
      Avoids guards u.streams ∨ target ∈ ids m') →
    Guarded guards m' ∧ Avoids guards t'.streams

/-- Whether machine and program are as told when a call is over for now. -/
def Leads (P : Machine → Task → Prop) : Turn → Prop
  | .goes m t _ => P m t
  | .waits m t _ => P m t
  | .ends m t _ => P m t

section

variable {guards : List Guard} {m m' : Machine} {t t' : Task} {c : Call}

/-! ### Streams that avoid guarded openings -/

lemma avoids_of_subset {streams streams' : List (Nat × Stream)} (h : Avoids guards streams)
    (hsub : streams' ⊆ streams) : Avoids guards streams' :=
  fun s hs => h s (hsub hs)

lemma avoids_of_stream {number : Nat} {s : Stream} (h : Avoids guards t.streams)
    (hs : t.stream? number = some s) : ∀ g ∈ guards, s.opening ≠ g.opening := by
  obtain ⟨l₁, l₂, heq, -⟩ := List.lookup_eq_some_iff.mp hs
  refine h (number, s) ?_
  rw [heq]
  exact List.mem_append_right _ List.mem_cons_self

lemma avoids_setStream {number : Nat} {s : Stream} (h : Avoids guards t.streams)
    (hs : ∀ g ∈ guards, s.opening ≠ g.opening) : Avoids guards (t.setStream number s).streams := by
  intro x hx
  rcases List.mem_cons.mp hx with rfl | hx
  · exact hs
  · exact h x ((discard_sublist number t.streams).subset hx)

lemma Guarded.ne_next (h : Guarded guards m) : ∀ g ∈ guards, m.next ≠ g.opening :=
  fun _ hg => (Nat.ne_of_lt (h.guard_lt hg)).symm

lemma effect_of_same (hid : t'.id = t.id) (hparent : t.parent = outside → t'.parent = outside)
    (hstreams : t'.streams = t.streams) (htasks : m'.tasks = m.tasks) (hended : m'.ended = m.ended)
    (hnext : m'.next = m.next) (hopenings : m'.openings = m.openings) (hpipes : m'.pipes = m.pipes) :
    Effect c m t m' t' where
  frame := frame_of_sameTasks hid hparent ⟨htasks, hended, hnext⟩
  guarded _ hm ht _ :=
    ⟨guarded_of_same hm hopenings hpipes (Nat.le_of_eq hnext.symm), hstreams ▸ ht⟩

lemma effect_refl : Effect c m t m t :=
  effect_of_same rfl id rfl rfl rfl rfl rfl rfl

/-! ### Opening -/

/-- What opening does before there is a stream: a pipe that is to be read has got a reader more, and
one that is to be written a writer. -/
structure Opened (m m' : Machine) (o : Opening) : Prop where
  same : SameTasks m m'
  guarded : ∀ guards, Guarded guards m → Guarded guards m' ∧
    (∀ p, o.target = .source p → leads (.source p) m'.openings < readers m' p) ∧
    ∀ p, o.target = .sink p → leads (.sink p) m'.openings < writers m' p

lemma opened_files {files : FileSystem} {o : Opening}
    (ho : ∀ p, o.target ≠ .source p ∧ o.target ≠ .sink p) : Opened m { m with files := files } o :=
  ⟨⟨rfl, rfl, rfl⟩, fun _ hm => ⟨guarded_of_same hm rfl rfl (Nat.le_refl _),
    fun p htarget => absurd htarget (ho p).1, fun p htarget => absurd htarget (ho p).2⟩⟩

lemma opened_sink {p : Nat} {o : Opening} (ho : o.target = .sink p)
    (hp : Plumbed m → ∃ q, m.pipe? p = some q) :
    Opened m (m.changePipe p fun q => { q with writers := q.writers + 1 }) o := by
  refine ⟨⟨rfl, rfl, rfl⟩, fun guards hm => ⟨?_, fun k htarget => ?_, fun k htarget => ?_⟩⟩
  · exact guarded_changePipe hm p (fun _ => Nat.le_refl _) (fun _ => Nat.le_succ _) fun _ _ h => h
  · exact Target.noConfusion (ho.symm.trans htarget)
  · obtain rfl : p = k := Target.sink.inj (ho.symm.trans htarget)
    obtain ⟨q, hq⟩ := hp hm.toPlumbed
    have hwriters := hm.writers p
    unfold writers at hwriters ⊢
    rw [hq] at hwriters
    rw [pipe?_changePipe, if_pos rfl, hq]
    exact Nat.lt_succ_of_le hwriters

lemma opened_source {p : Nat} {o : Opening} (ho : o.target = .source p)
    (hp : Plumbed m → ∃ q, m.pipe? p = some q) :
    Opened m (m.changePipe p fun q => { q with readers := q.readers + 1 }) o := by
  refine ⟨⟨rfl, rfl, rfl⟩, fun guards hm => ⟨?_, fun k htarget => ?_, fun k htarget => ?_⟩⟩
  · exact guarded_changePipe hm p (fun _ => Nat.le_succ _) (fun _ => Nat.le_refl _) fun _ _ h => h
  · obtain rfl : p = k := Target.source.inj (ho.symm.trans htarget)
    obtain ⟨q, hq⟩ := hp hm.toPlumbed
    have hreaders := hm.readers p
    unfold readers at hreaders ⊢
    rw [hq] at hreaders
    rw [pipe?_changePipe, if_pos rfl, hq]
    exact Nat.lt_succ_of_le hreaders
  · exact Target.noConfusion (ho.symm.trans htarget)

lemma opened_openNode {l : Location} {mode : OpenMode} {n : Node} {o : Opening}
    (h : m.openNode l mode n = .ok (m', o)) : Opened m m' o := by
  unfold openNode at h
  dsimp only at h
  have hfiles : ∀ {files : FileSystem} {o' : Opening},
      (∀ p, o'.target ≠ .source p ∧ o'.target ≠ .sink p) →
      (Except.ok ({ m with files := files }, o') : Except FileError (Machine × Opening)) =
        .ok (m', o) → Opened m m' o := by
    intro files o' ho heq
    obtain ⟨rfl, rfl⟩ := Prod.mk.inj (Except.ok.inj heq)
    exact opened_files ho
  repeat' split at h
  all_goals first
    | exact hfiles (fun p => ⟨Target.noConfusion, Target.noConfusion⟩) h
    | cases h

lemma opened_reopen {number : Nat} {mode : OpenMode} {o : Opening}
    (h : m.reopen t number mode = .ok (m', o)) : Opened m m' o := by
  unfold reopen at h
  dsimp only at h
  have hopened : ∀ {m₀ : Machine} {o₀ : Opening}, Opened m m₀ o₀ →
      (Except.ok (m₀, o₀) : Except FileError (Machine × Opening)) = .ok (m', o) → Opened m m' o := by
    intro m₀ o₀ hm₀ heq
    obtain ⟨rfl, rfl⟩ := Prod.mk.inj (Except.ok.inj heq)
    exact hm₀
  have hpipe : ∀ {p : Nat}, (Plumbed m → ∃ q, m.pipe? p = some q) → (Except.ok (if mode.writable then
        (m.changePipe p fun q => { q with writers := q.writers + 1 },
          { target := .sink p, readable := mode.readable, writable := mode.writable,
            appends := mode.appends })
      else (m.changePipe p fun q => { q with readers := q.readers + 1 },
        { target := .source p, readable := mode.readable, writable := mode.writable,
          appends := mode.appends })) : Except FileError (Machine × Opening)) = .ok (m', o) →
      Opened m m' o := by
    intro p hp heq
    split at heq
    · exact hopened (opened_sink rfl hp) heq
    · exact hopened (opened_source rfl hp) heq
  split at h
  · cases h
  · next o₁ ho₁ =>
    obtain ⟨s, -, ho₁⟩ := Option.bind_eq_some_iff.mp ho₁
    split at h
    · split at h
      · exact opened_openNode h
      · cases h
    · exact hopened (opened_files fun p => ⟨Target.noConfusion, Target.noConfusion⟩) h
    · next htarget =>
      refine hpipe (fun hm => ?_) h
      obtain ⟨q, hq, -⟩ := hm.pipe_of_source ho₁ htarget
      exact ⟨q, hq⟩
    · next htarget => exact hpipe (fun hm => hm.pipe_of_sink ho₁ htarget) h

lemma opened_openPath {base : Location} {path : Text} {mode : OpenMode} {o : Opening}
    (h : m.openPath t base path mode = .ok (m', o)) : Opened m m' o := by
  unfold openPath at h
  split at h
  · cases h
  · split at h
    · obtain ⟨rfl, rfl⟩ := Prod.mk.inj (Except.ok.inj h)
      exact opened_files fun p => ⟨Target.noConfusion, Target.noConfusion⟩
    · cases h
  · split at h
    · exact opened_reopen h
    · exact opened_openNode h
    · cases h

/-- A new stream leads to what has been opened. -/
lemma effect_openFile (m : Machine) (t : Task) (base : Location) (path : Text) (mode : OpenMode) :
    Effect c m t (m.openFile t base path mode).1 (m.openFile t base path mode).2.1 := by
  unfold openFile
  cases hopen : m.openPath t base path mode with
  | error e => exact effect_refl
  | ok opened =>
    obtain ⟨m₀, o⟩ := opened
    obtain ⟨hsame, hguarded⟩ := opened_openPath hopen
    refine ⟨frame_of_same rfl id ?_ hsame.tasks hsame.ended, fun guards hm ht _ => ?_⟩
    · exact Nat.le_trans (Nat.le_of_eq hsame.next.symm) (Nat.le_succ _)
    · obtain ⟨hm₀, hsource, hsink⟩ := hguarded guards hm
      exact ⟨guarded_addOpening hm₀ o hsource hsink, avoids_setStream ht hm₀.ne_next⟩

/-! ### Closing and sharing -/

lemma effect_closeStream (m : Machine) (t : Task) (number : Nat) :
    Effect c m t (m.closeStream t number).1 (m.closeStream t number).2.1 := by
  unfold closeStream
  split
  · next s hs =>
    refine ⟨frame_of_sameTasks rfl id (sameTasks_release m _), fun guards hm ht _ => ?_⟩
    refine ⟨guarded_release hm (avoids_of_stream ht hs), ?_⟩
    exact avoids_of_subset ht (discard_sublist number t.streams).subset
  · exact effect_refl

lemma effect_duplicate (m : Machine) (t : Task) (number least : Nat) (closesOnStart : Bool) :
    Effect c m t (m.duplicate t number least closesOnStart).1
      (m.duplicate t number least closesOnStart).2.1 := by
  unfold duplicate
  split
  · exact effect_refl
  · next s hs =>
    dsimp only
    split
    · exact effect_refl
    · refine ⟨frame_of_same rfl id (Nat.le_refl _) rfl rfl, fun guards hm ht _ => ?_⟩
      have hopening := avoids_of_stream ht hs
      exact ⟨guarded_retain hm _, avoids_setStream ht hopening⟩

lemma effect_assign (hc : ∀ target signal, c ≠ .send target signal) (m : Machine) (t : Task)
    (number target : Nat) :
    Effect c m t (m.assign t number target).1 (m.assign t number target).2.1 := by
  unfold assign
  split
  · exact effect_refl
  · next s hs =>
    split
    · exact effect_refl
    · obtain ⟨hframe, hguarded⟩ := effect_closeStream (c := c) (m.retain s.opening) t target
      refine ⟨⟨hframe.id, hframe.parent, hframe.next, hframe.ids, hframe.seat, hframe.tasks,
        hframe.present, hframe.ended, hframe.status⟩, fun guards hm ht _ => ?_⟩
      obtain ⟨hm', ht'⟩ := hguarded guards (guarded_retain hm _) ht fun x y h => absurd h (hc x y)
      have hopening := avoids_of_stream ht hs
      exact ⟨hm', avoids_setStream ht' hopening⟩

lemma effect_become (m : Machine) (t : Task) (dispositions : List (Nat × Disposition)) :
    Effect c m t
      ((t.streams.partition fun s => s.2.closesOnStart).1.foldl (fun m s => m.release s.2.opening) m)
      { t with
        streams := (t.streams.partition fun s => s.2.closesOnStart).2
        dispositions := dispositions
        arrived := [] } := by
  rw [List.partition_eq_filter_filter]
  refine ⟨frame_of_sameTasks rfl id (sameTasks_releaseAll _ m), fun guards hm ht _ => ⟨?_, ?_⟩⟩
  · exact guarded_releaseAll hm (avoids_of_subset ht List.filter_sublist.subset)
  · exact avoids_of_subset ht List.filter_sublist.subset

lemma effect_makePipe (m : Machine) (t : Task) (capacity : Option Nat) (a b : Nat) :
    Effect c m t (m.addPipe capacity).1
      ((t.setStream a { opening := (m.addPipe capacity).2.1 }).setStream b
        { opening := (m.addPipe capacity).2.2 }) := by
  have hle : m.next ≤ (m.addPipe capacity).1.next := by
    show m.next ≤ m.next + 1 + 1 + 1
    omega
  refine ⟨frame_of_same rfl id hle rfl rfl, fun guards hm ht _ => ⟨guarded_addPipe hm capacity, ?_⟩⟩
  have hlt : ∀ g ∈ guards, g.opening < m.next := fun g hg => hm.guard_lt hg
  refine avoids_setStream (avoids_setStream ht fun g hg => ?_) fun g hg => ?_
  · have hsource : (m.addPipe capacity).2.1 = m.next + 1 := rfl
    have hg := hlt g hg
    dsimp only
    omega
  · have hsink : (m.addPipe capacity).2.2 = m.next + 1 + 1 := rfl
    have hg := hlt g hg
    dsimp only
    omega

/-! ### Reading and writing -/

/-- A place in a file is left for another one, where the file may have changed. -/
lemma effect_changeOpening (m : Machine) (files : FileSystem) (t : Task) (n : Nat)
    (place : Opening → Nat) :
    Effect c m t ({ m with files := files }.changeOpening n fun o => { o with place := place o })
      t := by
  refine ⟨frame_of_same rfl id (Nat.le_refl _) rfl rfl, fun guards hm ht _ => ⟨?_, ht⟩⟩
  have hfiles : Guarded guards { m with files := files } := guarded_of_same hm rfl rfl (Nat.le_refl _)
  refine guarded_changeOpening hfiles n ?_ ?_ ?_ <;> exact fun _ => rfl

lemma effect_changeQueue (m : Machine) (t : Task) (p : Nat) (f : Queue → Queue)
    (hf : ∀ q, m.pipe? p = some q → Sized q.queue → Sized (f q.queue)) :
    Effect c m t (m.changePipe p fun q => { q with queue := f q.queue }) t :=
  ⟨frame_of_same rfl id (Nat.le_refl _) rfl rfl, fun _ hm ht _ =>
    ⟨guarded_changePipe hm p (fun _ => Nat.le_refl _) (fun _ => Nat.le_refl _) hf, ht⟩⟩

lemma effect_read (m : Machine) (t : Task) (number limit : Nat) (p : Process)
    (next : Except FileError Bytes → Process) :
    Leads (Effect c m t) (m.read t number limit p next) := by
  unfold Machine.read
  split
  · exact effect_refl
  · next id o ho =>
    split
    · exact effect_refl
    · split
      · split
        · exact effect_refl
        · exact effect_changeOpening m m.files t id _
        · exact effect_refl
      · exact effect_refl
      · exact effect_refl
      · exact effect_refl
      · next pipe _ =>
        split
        · exact effect_refl
        · next q hq =>
          split
          · split
            · exact effect_refl
            · split <;> exact effect_refl
          · refine effect_changeQueue m t pipe (fun _ => (q.queue.take limit).2) ?_
            intro q' hq' hsized
            obtain rfl : q' = q := Option.some.inj (hq'.symm.trans hq)
            exact sized_take hsized limit

lemma effect_writeFile (m : Machine) (t : Task) (n : Nat) (o : Opening) (l : Location)
    (bytes : Bytes) : Effect c m t (m.writeFile n o l bytes) t := by
  unfold writeFile
  split
  · exact effect_changeOpening m _ t n _
  · exact effect_refl

/-- A signal may arrive at a program that writes where nobody reads. -/
lemma effect_resembles (m : Machine) (h : Resembles t t') : Effect c m t m t' :=
  effect_of_same h.id h.parent h.streams rfl rfl rfl rfl rfl

lemma effect_writePipe (m : Machine) (t : Task) (number pipe : Nat) (q : Pipe) (bytes : Bytes)
    (p : Process) (next : Except FileError Unit → Process) :
    Leads (Effect c m t) (m.writePipe t number pipe q bytes p next) := by
  have hput : ∀ bytes, Effect c m t
      (m.changePipe pipe fun q => { q with queue := q.queue.put bytes }) t :=
    fun bytes => effect_changeQueue m t pipe (fun q => q.put bytes) fun _ _ hsized =>
      sized_put hsized bytes
  unfold writePipe
  dsimp only
  split
  · split
    · next t' ht' => exact effect_resembles m (.of_take ht')
    · exact effect_refl
  · split
    · exact hput bytes
    · split
      · exact hput bytes
      · split
        · exact effect_refl
        · split
          · exact effect_refl
          · exact hput _

lemma effect_write (m : Machine) (t : Task) (number : Nat) (bytes : Bytes) (p : Process)
    (next : Except FileError Unit → Process) :
    Leads (Effect c m t) (m.write t number bytes p next) := by
  unfold Machine.write
  split
  · exact effect_refl
  · split
    · exact effect_refl
    · split
      · exact effect_writeFile m t _ _ _ bytes
      · exact effect_refl
      · exact effect_refl
      · exact effect_refl
      · split
        · exact effect_refl
        · exact effect_writePipe m t number _ _ bytes p next

/-! ### Any call -/

lemma guarded_bury (h : Guarded guards m) (havoids : Avoids guards t.streams) (status : Status)
    (tasks : List Task) : Guarded guards ({ m with tasks := tasks }.bury t status) := by
  have htasks : Guarded guards { m with tasks := tasks } := guarded_of_same h rfl rfl (Nat.le_refl _)
  have hreleased := guarded_releaseAll htasks havoids
  exact guarded_of_same hreleased rfl rfl (Nat.le_refl _)

lemma effect_signal {target signal : Nat} (hm : Staffed m) (hne : target ≠ t.id) :
    Effect (.send target signal) m t (m.signal target signal) t := by
  refine ⟨frame_signal hm hne, fun guards hguarded ht hspared => ⟨?_, ht⟩⟩
  have hspared := hspared target signal rfl
  rcases signal_cases m target signal with heq | ⟨u, v, hu, hid, hv, heq⟩ | ⟨u, s, hu, hid, heq⟩
  · rw [heq]
    exact hguarded
  · rw [heq]
    exact guarded_of_same hguarded rfl rfl (Nat.le_refl _)
  · rw [heq] at hspared ⊢
    have hgone : u.id ∉ ids ({ m with tasks := m.tasks.filter fun x => x.id ≠ u.id }.bury u
        (.signal s)) := by
      rw [ids_bury _ (hm.ne_outside u.id (List.mem_map_of_mem hu))]
      simp [ids]
    have havoids := (hspared u hu hid).resolve_right (hid ▸ hgone)
    exact guarded_bury hguarded havoids _ _

lemma effect_await (hm : Staffed m) (ht : t.id ∈ ids m) (child : Option Nat) (waits : Bool) :
    Effect (.await child waits) m t (m.report t.id child).1 t := by
  refine ⟨frame_report (hm.ne_outside t.id ht), fun guards hguarded ht _ => ⟨?_, ht⟩⟩
  unfold report
  dsimp only
  split
  · exact guarded_of_same hguarded rfl rfl (Nat.le_refl _)
  · split <;> exact hguarded

lemma perform_await (p : Process) (child : Option Nat) (waits : Bool)
    (next : (Call.await child waits).Reply → Process) :
    perform m t p (.await child waits) next =
      match m.report t.id child with
      | (m', .going) =>
        if t.arrived ≠ [] then .goes m' t (next .interrupted)
        else if waits then .waits m' t p
        else .goes m' t (next .going)
      | (m', r) => .goes m' t (next r) :=
  rfl

lemma perform_sleep (p : Process) (nanos : Nat)
    (next : (Call.sleep nanos).Reply → Process) :
    perform m t p (.sleep nanos) next =
      match t.wakes with
      | none =>
        if nanos = 0 then .goes m t (next true)
        else .waits m { t with wakes := some (m.clock + nanos) } p
      | some time =>
        if time ≤ m.clock then .goes m { t with wakes := none } (next true)
        else if t.arrived ≠ [] then .goes m { t with wakes := none } (next false)
        else .waits m t p :=
  rfl

lemma perform_send (p : Process) (target signal : Nat)
    (next : (Call.send target signal).Reply → Process) :
    perform m t p (.send target signal) next =
      if target = t.id then
        match t.receive signal with
        | .ok t => if t.stopped then .waits m t (next (.ok ())) else .goes m t (next (.ok ()))
        | .error s => .ends m t (.signal s)
      else if m.isKnown target ∨ target = nobody ∨ target = outside then
        .goes (m.signal target signal) t (next (.ok ()))
      else .goes m t (next (.error .noProcess)) :=
  rfl

/-- Every call leaves other programs and guarded openings alone, but for signals. -/
lemma effect_perform (hm : Staffed m) (ht : t.id ∈ ids m) (p : Process) (c : Call)
    (next : c.Reply → Process) : Leads (Effect c m t) (perform m t p c next) := by
  cases c with
  | pause | files | inspect | arrangement | identity | clock => exact effect_refl
  | change f => exact effect_of_same rfl id rfl rfl rfl rfl rfl rfl
  | arrange signal d => exact effect_of_same rfl id rfl rfl rfl rfl rfl rfl
  | arrived => exact effect_of_same rfl id rfl rfl rfl rfl rfl rfl
  | openFile base path mode => exact effect_openFile m t base path mode
  | close number => exact effect_closeStream m t number
  | duplicate number least closesOnStart => exact effect_duplicate m t number least closesOnStart
  | assign number target => exact effect_assign (fun _ _ => Call.noConfusion) m t number target
  | makePipe => exact effect_makePipe m t _ _ _
  | read number limit => exact effect_read m t number limit p next
  | write number bytes => exact effect_write m t number bytes p next
  | move number distance =>
    unfold perform move
    dsimp only
    split
    · split
      · split
        · exact effect_refl
        · exact effect_changeOpening m m.files t _ _
      · exact effect_refl
    · exact effect_refl
  | await child waits =>
    have hreport := effect_await hm ht child waits
    rw [perform_await]
    generalize m.report t.id child = report at hreport ⊢
    obtain ⟨m', r⟩ := report
    cases r with
    | going =>
      dsimp only
      split
      · exact hreport
      · split <;> exact hreport
    | ended | childless | interrupted => exact hreport
  | sleep nanos =>
    rw [perform_sleep]
    split
    · split
      · exact effect_refl
      · exact effect_of_same rfl id rfl rfl rfl rfl rfl rfl
    · split
      · exact effect_of_same rfl id rfl rfl rfl rfl rfl rfl
      · split
        · exact effect_of_same rfl id rfl rfl rfl rfl rfl rfl
        · exact effect_refl
  | send target signal =>
    rw [perform_send]
    split
    · split
      · next t' ht' =>
        have hself : Effect (.send target signal) m t m t' := effect_resembles m (.of_receive ht')
        split <;> exact hself
      · exact effect_refl
    · next hne =>
      split
      · exact effect_signal hm hne
      · exact effect_refl
  | become => exact effect_become m t _

end

end AsmExplorer.Proofs
