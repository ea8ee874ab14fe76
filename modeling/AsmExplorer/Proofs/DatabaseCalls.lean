import AsmExplorer.Proofs.DatabaseHistory
import AsmExplorer.Proofs.ShellHost
import Mathlib.Logic.Relation

/-!
# Requests for databases at the same time

Calls that ask for the database of a file, and calls that have it read again, go on at the same time.
Each finds the key of its file, looks it up, reads the file, makes an index of what it has read, and
at last takes a new database into use or gives one its mapping. Looking up and the last step are
under the lock; reading and indexing are not, and files can change between any two steps.

How often files have changed is counted, so that it can be told which call has read before which
change.
-/

namespace AsmExplorer.Proofs

inductive Purpose where
  | obtain
  | reload

/-- What is done with a database that is read from a file. -/
inductive Goal where
  /-- It comes into use for the file of the call, if none has meanwhile. -/
  | adopt
  /-- The database with the number gets its mapping. -/
  | swap (id : Nat)

/-- How far a call has come. The time of a reading is the number of changes before it. -/
inductive CallStage where
  | keyed
  | chosen (goal : Goal)
  | read (goal : Goal) (file : Path) (entries : List CompileEntry) (time : Nat)
  | indexed (goal : Goal) (db : CompileDatabase) (time : Nat)
  | answered (a : DatabaseAnswer)

/-- When the file was read that a call is still to make use of. -/
def CallStage.reading? : CallStage → Option Nat
  | .read _ _ _ time => some time
  | .indexed _ _ time => some time
  | _ => none

structure DatabaseCall where
  purpose : Purpose
  file : Path
  /-- The host as it was when the call found the key of its file. -/
  host : Host
  /-- The number of changes before the call. -/
  begun : Nat
  /-- The calls that were still to make use of a file they had read, when this one looked up its
  key. -/
  rivals : List Nat
  stage : CallStage

def DatabaseCall.key (c : DatabaseCall) : List Component :=
  fileKey c.host c.file

/-- The call that gave a database its mapping, and the time at which it had read the file. -/
structure Reading where
  call : Nat
  time : Nat

/-- A registry with the calls that use it, while files change. -/
structure DatabaseCalls where
  registry : Registry
  host : Host
  changes : Nat
  calls : Table Nat DatabaseCall
  next : Nat
  readings : Table Nat Reading

/-- What a call does after it has found a database in use, or none. -/
def Purpose.after : Purpose → Option Nat → CallStage
  | .obtain, some id => .answered (.database (some id))
  | .obtain, none => .chosen .adopt
  | .reload, some id => .chosen (.swap id)
  | .reload, none => .answered (.reloaded false)

/-- The request that a call makes step by step. -/
def Purpose.request (host : Host) (file : Path) : Purpose → DatabaseRequest
  | .obtain => .getOrLoad host file
  | .reload => .reload host file

namespace DatabaseCalls

def ofRegistry (r : Registry) (host : Host) : DatabaseCalls :=
  ⟨r, host, 0, .empty, 0, .empty⟩

def stage? (s : DatabaseCalls) (id : Nat) : Option CallStage :=
  (s.calls.get? id).map DatabaseCall.stage

/-- The file that is read for a goal. -/
def source? (s : DatabaseCalls) (c : DatabaseCall) : Goal → Option Path
  | .adopt => some (Registry.keyPath c.host c.file)
  | .swap id => (s.registry.database? id).map CompileDatabase.origin

/-- The calls that are still to make use of a file they have read. -/
def underWay (s : DatabaseCalls) : List Nat :=
  (s.calls.pairs.filter fun p => p.2.stage.reading?.isSome).map Prod.fst

def enter (s : DatabaseCalls) (id : Nat) (c : DatabaseCall) (stage : CallStage) : DatabaseCalls :=
  { s with calls := s.calls.insert id { c with stage := stage } }

/-! ### Steps -/

def change (s : DatabaseCalls) (host : Host) : DatabaseCalls :=
  { s with host := host, changes := s.changes + 1 }

/-- A call begins: it finds the key of its file. -/
def begin (s : DatabaseCalls) (purpose : Purpose) (file : Path) : DatabaseCalls :=
  { s.enter s.next ⟨purpose, file, s.host, s.changes, [], .keyed⟩ .keyed with next := s.next + 1 }

def lookUp (s : DatabaseCalls) (id : Nat) (c : DatabaseCall) : DatabaseCalls :=
  s.enter id { c with rivals := s.underWay } (c.purpose.after (s.registry.get? c.host c.file))

/-- A call takes its database into use, or takes the one that has come into use meanwhile. -/
def adopt (s : DatabaseCalls) (id : Nat) (c : DatabaseCall) (db : CompileDatabase) (time : Nat) :
    DatabaseCalls :=
  let (registry, n) := s.registry.adopt c.host c.file db
  { s.enter id c (.answered (.database (some n))) with
    registry := registry
    readings := if (s.registry.get? c.host c.file).isSome then s.readings
      else s.readings.insert n ⟨id, time⟩ }

def swap (s : DatabaseCalls) (id : Nat) (c : DatabaseCall) (n : Nat) (db : CompileDatabase)
    (time : Nat) : DatabaseCalls :=
  { s.enter id c (.answered (.reloaded true)) with
    registry := s.registry.modify n fun _ => db
    readings := s.readings.insert n ⟨id, time⟩ }

/-- One step of one of the calls, or a change of files. -/
inductive Step : DatabaseCalls → DatabaseCalls → Prop where
  | change (s : DatabaseCalls) (host : Host) : Step s (s.change host)
  | begin (s : DatabaseCalls) (purpose : Purpose) (file : Path) : Step s (s.begin purpose file)
  | lookUp {s : DatabaseCalls} {id : Nat} {c : DatabaseCall} (hcall : s.calls.get? id = some c)
      (hstage : c.stage = .keyed) : Step s (s.lookUp id c)
  | read {s : DatabaseCalls} {id : Nat} {c : DatabaseCall} {goal : Goal} {p : Path}
      {entries : List CompileEntry} (hcall : s.calls.get? id = some c)
      (hstage : c.stage = .chosen goal) (hsource : s.source? c goal = some p)
      (hread : readEntries s.host p = .ok entries) :
      Step s (s.enter id c (.read goal p entries s.changes))
  | fail {s : DatabaseCalls} {id : Nat} {c : DatabaseCall} {goal : Goal} {p : Path}
      {failure : Failure} (hcall : s.calls.get? id = some c) (hstage : c.stage = .chosen goal)
      (hsource : s.source? c goal = some p) (hread : readEntries s.host p = .error failure) :
      Step s (s.enter id c (.answered (.failed failure)))
  | index {s : DatabaseCalls} {id : Nat} {c : DatabaseCall} {goal : Goal} {p : Path}
      {entries : List CompileEntry} {time : Nat} (hcall : s.calls.get? id = some c)
      (hstage : c.stage = .read goal p entries time) :
      Step s (s.enter id c (.indexed goal (.ofEntries s.host p entries) time))
  | adopt {s : DatabaseCalls} {id : Nat} {c : DatabaseCall} {db : CompileDatabase} {time : Nat}
      (hcall : s.calls.get? id = some c) (hstage : c.stage = .indexed .adopt db time) :
      Step s (s.adopt id c db time)
  | swap {s : DatabaseCalls} {id n : Nat} {c : DatabaseCall} {db : CompileDatabase} {time : Nat}
      (hcall : s.calls.get? id = some c) (hstage : c.stage = .indexed (.swap n) db time) :
      Step s (s.swap id c n db time)

/-- A request is served at once, beside the calls, and does not replace the database of a file. -/
inductive Aside (key : List Component) : DatabaseCalls → DatabaseCalls → Prop where
  | serve (s : DatabaseCalls) (q : DatabaseRequest) (hkeep : ¬q.Replaces key) :
      Aside key s { s with registry := (serve s.registry q).1 }

variable {s t : DatabaseCalls} {id : Nat} {c : DatabaseCall}

lemma get?_enter (s : DatabaseCalls) (id : Nat) (c : DatabaseCall) (stage : CallStage) (x : Nat) :
    (s.enter id c stage).calls.get? x =
      if x = id then some { c with stage := stage } else s.calls.get? x :=
  Table.get?_insert ..

lemma mem_underWay {x : Nat} :
    x ∈ s.underWay ↔ ∃ c time, s.calls.get? x = some c ∧ c.stage.reading? = some time := by
  rw [underWay, List.mem_map]
  constructor
  · rintro ⟨⟨x, c⟩, hmem, rfl⟩
    obtain ⟨hpair, hreading⟩ := List.mem_filter.mp hmem
    obtain ⟨time, htime⟩ := Option.isSome_iff_exists.mp hreading
    exact ⟨c, time, Table.mem_pairs_iff.mp hpair, htime⟩
  · rintro ⟨c, time, hcall, htime⟩
    refine ⟨(x, c), List.mem_filter.mpr ⟨Table.mem_pairs_iff.mpr hcall, ?_⟩, rfl⟩
    exact Option.isSome_iff_exists.mpr ⟨time, htime⟩

lemma adopt_of_used {n : Nat} (h : s.registry.get? c.host c.file = some n) (db : CompileDatabase)
    (time : Nat) : s.adopt id c db time = s.enter id c (.answered (.database (some n))) := by
  simp [adopt, Registry.adopt, h, enter]

lemma adopt_of_unused (h : s.registry.get? c.host c.file = none) (db : CompileDatabase)
    (time : Nat) :
    s.adopt id c db time =
      { s.enter id c (.answered (.database (some s.registry.databases.length))) with
        registry := (s.registry.add db).1.insert c.host c.file s.registry.databases.length
        readings := s.readings.insert s.registry.databases.length ⟨id, time⟩ } := by
  simp [adopt, Registry.adopt, h, Registry.add]

end DatabaseCalls

open DatabaseCalls

/-- Whether a call has obtained a database for a file. -/
def DatabaseCalls.Obtained (s : DatabaseCalls) (key : List Component) (x n : Nat) : Prop :=
  ∃ c, s.calls.get? x = some c ∧ c.key = key ∧ c.stage = .answered (.database (some n))

lemma modify_eq_of_database {r : Registry} {n : Nat} {db : CompileDatabase}
    (h : r.database? n = some db) (f : CompileDatabase → CompileDatabase) :
    (r.modify n fun _ => f db) = r.modify n f := by
  have hlist : (r.databases.modify n fun _ => f db) = r.databases.modify n f := by
    apply List.ext_getElem?
    intro x
    have hfirst := database?_modify r n x fun _ => f db
    have hsecond := database?_modify r n x f
    simp only [Registry.database?, Registry.modify] at hfirst hsecond h
    rw [hfirst, hsecond]
    by_cases hx : x = n
    · simp [hx, h]
    · simp [hx]
  rw [Registry.modify, hlist]
  rfl

/-- A call that nothing comes between does what the registry does at once. -/
theorem call_undisturbed (s : DatabaseCalls) (hvalid : Valid s.registry) (purpose : Purpose)
    (file : Path) :
    ∃ t, Relation.ReflTransGen Step s t ∧
      t.registry = (serve s.registry (purpose.request s.host file)).1 ∧
      t.stage? s.next = some (.answered (serve s.registry (purpose.request s.host file)).2) := by
  have hget : ∀ (calls : Table Nat DatabaseCall) (c : DatabaseCall),
      (calls.insert s.next c).get? s.next = some c :=
    fun calls c => (Table.get?_insert calls s.next s.next c).trans (if_pos rfl)
  have hstage : ∀ (calls : Table Nat DatabaseCall) (c : DatabaseCall),
      ((calls.insert s.next c).get? s.next).map DatabaseCall.stage = some c.stage :=
    fun calls c => congrArg (Option.map DatabaseCall.stage) (hget calls c)
  have hlook : Relation.ReflTransGen Step s ((s.begin purpose file).lookUp s.next
      ⟨purpose, file, s.host, s.changes, [], .keyed⟩) :=
    (Relation.ReflTransGen.single (.begin s purpose file)).tail (.lookUp (hget _ _) rfl)
  -- what the call finds at its key settles which steps are left
  cases hused : s.registry.get? s.host file with
  | some n =>
    obtain ⟨db, hdb⟩ := hvalid _ _ hused
    cases purpose with
    | obtain =>
      refine ⟨_, hlook, ?_, (hstage _ _).trans ?_⟩
      · rw [Purpose.request, serve_getOrLoad_of_used hused]
        rfl
      · show some (Purpose.obtain.after (s.registry.get? s.host file)) = _
        rw [Purpose.request, serve_getOrLoad_of_used hused, hused]
        rfl
    | reload =>
      have hchosen : Purpose.reload.after (s.registry.get? s.host file) = .chosen (.swap n) := by
        rw [hused]
        rfl
      cases hread : readEntries s.host db.origin with
      | error failure =>
        have hfail := hlook.tail (.fail (hget _ _) hchosen (congrArg (Option.map _) hdb) hread)
        refine ⟨_, hfail, ?_, (hstage _ _).trans ?_⟩
        · rw [Purpose.request, serve_reload_of_failed hused hdb hread]
          rfl
        · rw [Purpose.request, serve_reload_of_failed hused hdb hread]
      | ok entries =>
        have hindex := (hlook.tail (.read (hget _ _) hchosen (congrArg (Option.map _) hdb) hread)).tail
          (.index (hget _ _) rfl)
        refine ⟨_, hindex.tail (.swap (hget _ _) rfl), ?_, (hstage _ _).trans ?_⟩
        · rw [Purpose.request, serve_reload_of_read hused hdb hread]
          exact modify_eq_of_database hdb fun db => db.replace s.host entries
        · rw [Purpose.request, serve_reload_of_read hused hdb hread]
  | none =>
    cases purpose with
    | reload =>
      refine ⟨_, hlook, ?_, (hstage _ _).trans ?_⟩
      · rw [Purpose.request, serve_reload_of_unused hused]
        rfl
      · show some (Purpose.reload.after (s.registry.get? s.host file)) = _
        rw [Purpose.request, serve_reload_of_unused hused, hused]
        rfl
    | obtain =>
      have hchosen : Purpose.obtain.after (s.registry.get? s.host file) = .chosen .adopt := by
        rw [hused]
        rfl
      cases hread : readEntries s.host (Registry.keyPath s.host file) with
      | error failure =>
        have hload : CompileDatabase.load s.host (Registry.keyPath s.host file) =
            .error failure := by
          rw [CompileDatabase.load, hread]
          rfl
        have hfail := hlook.tail (.fail (hget _ _) hchosen rfl hread)
        refine ⟨_, hfail, ?_, (hstage _ _).trans ?_⟩
        · rw [Purpose.request, serve_getOrLoad_of_failed hused hload]
          rfl
        · rw [Purpose.request, serve_getOrLoad_of_failed hused hload]
      | ok entries =>
        have hload : CompileDatabase.load s.host (Registry.keyPath s.host file) =
            .ok (.ofEntries s.host (Registry.keyPath s.host file) entries) := by
          rw [CompileDatabase.load, hread]
          rfl
        have hindex := (hlook.tail (.read (hget _ _) hchosen rfl hread)).tail (.index (hget _ _) rfl)
        have hadopt := hindex.tail (.adopt (hget _ _) rfl)
        rw [adopt_of_unused (by exact hused)] at hadopt
        refine ⟨_, hadopt, ?_, (hstage _ _).trans ?_⟩
        · rw [Purpose.request, serve_getOrLoad_of_loaded hused hload]
          rfl
        · rw [Purpose.request, serve_getOrLoad_of_loaded hused hload]
          rfl

/-! ### Calls agree -/

namespace DatabaseCalls

variable {s t : DatabaseCalls} {id n x : Nat} {c : DatabaseCall} {key : List Component}

lemma get?_adopt (h : s.registry.table.get? key = some n) (db : CompileDatabase) (time : Nat) :
    (s.adopt id c db time).registry.table.get? key = some n := by
  cases hused : s.registry.get? c.host c.file with
  | some m =>
    rw [adopt_of_used hused]
    exact h
  | none =>
    rw [adopt_of_unused hused]
    exact get?_insert_of_unused (r := (s.registry.add db).1) hused h _

lemma valid_adopt (h : Valid s.registry) (db : CompileDatabase) (time : Nat) :
    Valid (s.adopt id c db time).registry := by
  cases hused : s.registry.get? c.host c.file with
  | some m =>
    rw [adopt_of_used hused]
    exact h
  | none =>
    rw [adopt_of_unused hused]
    exact valid_load h db c.host c.file

lemma valid_step (hs : Valid s.registry) (hstep : Step s t) : Valid t.registry := by
  cases hstep with
  | adopt hcall hstage => exact valid_adopt hs _ _
  | swap hcall hstage => exact valid_modify hs _ _
  | change | begin | lookUp | read | fail | index => exact hs

/-- A file keeps its database in every step. -/
lemma get?_step (hstep : Step s t) (h : s.registry.table.get? key = some n) :
    t.registry.table.get? key = some n := by
  cases hstep with
  | adopt hcall hstage => exact get?_adopt h _ _
  | change | begin | lookUp | read | fail | index | swap => exact h

lemma obtained_enter {stage : CallStage} (h : (s.enter id c stage).Obtained key x n) :
    s.Obtained key x n ∨ c.key = key ∧ stage = .answered (.database (some n)) := by
  obtain ⟨c', hget, hkey, hstage⟩ := h
  rw [get?_enter] at hget
  split at hget
  · obtain rfl := Option.some.inj hget
    exact Or.inr ⟨hkey, hstage⟩
  · exact Or.inl ⟨c', hget, hkey, hstage⟩

lemma obtained_of_other {stage : CallStage} (h : (s.enter id c stage).Obtained key x n)
    (hstage : stage ≠ .answered (.database (some n))) : s.Obtained key x n :=
  (obtained_enter h).resolve_right fun hnow => hstage hnow.2

lemma eq_of_after_eq_database {purpose : Purpose} {found : Option Nat}
    (h : purpose.after found = .answered (.database (some n))) : found = some n := by
  cases purpose <;> cases found <;> simp_all [Purpose.after]

/-- A database that a call obtains is in use for its file. -/
lemma obtained_step (hstep : Step s t) (h : t.Obtained key x n) :
    s.Obtained key x n ∨ t.registry.table.get? key = some n := by
  cases hstep with
  | change host => exact Or.inl h
  | begin purpose file =>
    obtain ⟨c, hget, hkey, hstage⟩ := h
    have hcases := (get?_enter s s.next _ .keyed x).symm.trans hget
    split at hcases
    · obtain rfl := Option.some.inj hcases
      exact CallStage.noConfusion hstage
    · exact Or.inl ⟨c, hcases, hkey, hstage⟩
  | @lookUp id c hcall hstage =>
    rcases obtained_enter h with hold | ⟨rfl, hanswer⟩
    · exact Or.inl hold
    · exact Or.inr (eq_of_after_eq_database hanswer)
  | read | fail | index => exact Or.inl (obtained_of_other h (by simp))
  | @adopt id c db time hcall hstage =>
    cases hused : s.registry.get? c.host c.file with
    | some m =>
      rw [adopt_of_used hused] at h ⊢
      rcases obtained_enter h with hold | ⟨rfl, hanswer⟩
      · exact Or.inl hold
      · obtain rfl := Option.some.inj (DatabaseAnswer.database.inj (CallStage.answered.inj hanswer))
        exact Or.inr hused
    | none =>
      rw [adopt_of_unused hused] at h ⊢
      rcases obtained_enter h with hold | ⟨rfl, hanswer⟩
      · exact Or.inl hold
      · obtain rfl := Option.some.inj (DatabaseAnswer.database.inj (CallStage.answered.inj hanswer))
        exact Or.inr ((Table.get?_insert ..).trans (if_pos rfl))
  | @swap id n c db time hcall hstage =>
    have hcalls : (s.enter id c (.answered (.reloaded true))).Obtained key x _ := h
    exact Or.inl (obtained_of_other hcalls (by simp))

/-- What is known when nothing replaces the database of a file: everybody has the one in use. -/
structure Agreed (key : List Component) (s : DatabaseCalls) : Prop where
  valid : Valid s.registry
  obtained : ∀ x n, s.Obtained key x n → s.registry.table.get? key = some n

lemma agreed_step (hs : Agreed key s) (hstep : Step s t) : Agreed key t := by
  refine ⟨valid_step hs.valid hstep, fun x n h => ?_⟩
  rcases obtained_step hstep h with hbefore | hafter
  · exact get?_step hstep (hs.obtained x n hbefore)
  · exact hafter

lemma agreed_aside (hs : Agreed key s) (haside : Aside key s t) : Agreed key t := by
  cases haside with
  | serve q hkeep =>
    have hserved := served_serve hs.valid q
    exact ⟨valid_of_served hs.valid hserved,
      fun x n h => get?_of_served hserved hkeep (hs.obtained x n h)⟩

end DatabaseCalls

/-- Calls for files with one key, while no database is replaced for it: all that succeed obtain one
database, and it is the one in use from then on. -/
theorem obtained_database_unique (history : List DatabaseRequest) (host : Host)
    (key : List Component) (s : DatabaseCalls)
    (h : Relation.ReflTransGen (fun s t => Step s t ∨ Aside key s t)
      (.ofRegistry (registryAfter history) host) s) :
    (∀ x n, s.Obtained key x n →
      s.registry.table.get? key = some n ∧ ∃ db, s.registry.database? n = some db) ∧
    ∀ x y n m, s.Obtained key x n → s.Obtained key y m → n = m := by
  -- by induction on the steps: what was obtained is in use and stays so
  have hagreed : Agreed key s := by
    induction h with
    | refl =>
      refine ⟨valid_registryAfter history, fun x n hobtained => ?_⟩
      obtain ⟨c, hc, -⟩ := hobtained
      exact absurd hc (Option.some_ne_none c).symm
    | tail _ hstep ih =>
      rcases hstep with hstep | haside
      · exact agreed_step ih hstep
      · exact agreed_aside ih haside
  refine ⟨fun x n hn => ?_, fun x y n m hn hm => ?_⟩
  · have hget := hagreed.obtained x n hn
    exact ⟨hget, hagreed.valid key n hget⟩
  · have hget := (hagreed.obtained x n hn).symm.trans (hagreed.obtained y m hm)
    exact Option.some.inj hget

/-! ### Two calls for one file -/

/-- Two calls find no database in use and read the file before and after a change. The second one is
the first to take its database into use, and a third one has it read again. -/
theorem obtained_database_of_two_calls :
    ∃ s, Relation.ReflTransGen (fun s t => Step s t ∨ Aside (fileKey emptyHost databaseFile) s t)
        (.ofRegistry (registryAfter []) emptyHost) s ∧
      s.Obtained (fileKey emptyHost databaseFile) 0 0 ∧
      s.Obtained (fileKey emptyHost databaseFile) 1 0 ∧
      s.registry.table.get? (fileKey emptyHost databaseFile) = some 0 := by
  have h0 : Relation.ReflTransGen
      (fun s t => Step s t ∨ Aside (fileKey emptyHost databaseFile) s t)
      (.ofRegistry (registryAfter []) emptyHost) _ := .refl
  have h1 := h0.tail (.inl (.begin _ .obtain databaseFile))
  have h2 := h1.tail (.inl (.begin _ .obtain databaseFile))
  have h3 := h2.tail (.inl (.begin _ .reload databaseFile))
  have h4 := h3.tail (.inl (@Step.lookUp _ 0 _ rfl rfl))
  have h5 := h4.tail (.inl (@Step.lookUp _ 1 _ rfl rfl))
  have h6 := h5.tail (.inl (@Step.read _ 0 _ .adopt _ _ rfl rfl rfl readEntries_emptyHost))
  have h7 := h6.tail (.inl (.change _ entryHost))
  have h8 := h7.tail (.inl (@Step.read _ 1 _ .adopt _ _ rfl rfl rfl readEntries_entryHost))
  have h9 := h8.tail (.inl (@Step.index _ 0 _ _ _ _ _ rfl rfl))
  have h10 := h9.tail (.inl (@Step.index _ 1 _ _ _ _ _ rfl rfl))
  have h11 := h10.tail (.inl (@Step.adopt _ 1 _ _ _ rfl rfl))
  have h12 := h11.tail (.inl (@Step.lookUp _ 2 _ rfl rfl))
  have h13 := h12.tail (.inl (@Step.read _ 2 _ (.swap 0) _ _ rfl rfl rfl readEntries_entryHost))
  have h14 := h13.tail (.inl (@Step.adopt _ 0 _ _ _ rfl rfl))
  have h15 := h14.tail (.inl (@Step.index _ 2 _ _ _ _ _ rfl rfl))
  have h16 := h15.tail (.inl (@Step.swap _ 2 _ _ _ _ rfl rfl))
  refine ⟨_, h16, ⟨_, rfl, rfl, rfl⟩, ⟨_, rfl, rfl, rfl⟩, ?_⟩
  exact ((obtained_database_unique [] _ _ _ h16).1 1 0 ⟨_, rfl, rfl, rfl⟩).1

end AsmExplorer.Proofs
