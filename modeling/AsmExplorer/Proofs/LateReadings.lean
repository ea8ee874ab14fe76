import AsmExplorer.Proofs.DatabaseCalls

/-!
# Readings that come late

A call makes use of what it has read in a later step, and files can change in between. So a database
has the mapping of the call that gave it one last, which need not be the call that read last.

After a reload that began behind the last change, the database in use is up to date, unless a call
that had read the file before the change was still under way when the reload looked up its key, and
makes use of its reading afterwards. Any change can be lost in this way, by a first load and by a
reload. Where one file has two keys, it takes no overlap to lose one.
-/

namespace AsmExplorer.Proofs

open DatabaseCalls

/-- Whether a database has the mapping of what its file holds. -/
def Current (host : Host) (db : CompileDatabase) : Prop :=
  ∃ entries, readEntries host db.origin = .ok entries ∧
    db = .ofEntries host db.origin entries

def CallStage.goal? : CallStage → Option Goal
  | .chosen goal => some goal
  | .read goal _ _ _ => some goal
  | .indexed goal _ _ => some goal
  | _ => none

/-- A reading is that of the file to be read, and not yet out of date if nothing has changed since. -/
def CallStage.Sound (s : DatabaseCalls) (c : DatabaseCall) : CallStage → Prop
  | .read goal p entries time => c.begun ≤ time ∧ time ≤ s.changes ∧ s.source? c goal = some p ∧
      (time = s.changes → readEntries s.host p = .ok entries)
  | .indexed goal db time => c.begun ≤ time ∧ time ≤ s.changes ∧
      s.source? c goal = some db.origin ∧ (time = s.changes → Current s.host db)
  | _ => True

structure DatabaseCall.Sound (s : DatabaseCalls) (c : DatabaseCall) : Prop where
  begun_le : c.begun ≤ s.changes
  host_eq : c.begun = s.changes → c.host = s.host
  stage : c.stage.Sound s c

namespace DatabaseCalls

variable {s t : DatabaseCalls} {id n x time : Nat} {c d : DatabaseCall} {key : List Component}

/-! ### Readings of calls -/

def Sound (s : DatabaseCalls) : Prop :=
  ∀ x c, s.calls.get? x = some c → c.Sound s

lemma sound_indexed {goal : Goal} {db : CompileDatabase} (hs : Sound s)
    (hcall : s.calls.get? id = some c) (hstage : c.stage = .indexed goal db time) :
    c.begun ≤ time ∧ time ≤ s.changes ∧ s.source? c goal = some db.origin ∧
      (time = s.changes → Current s.host db) := by
  have hsound := (hs id c hcall).stage
  rwa [hstage] at hsound

/-- What every step keeps of the surroundings of calls. -/
structure Onward (s t : DatabaseCalls) : Prop where
  changes_le : s.changes ≤ t.changes
  host_eq : t.changes = s.changes → t.host = s.host
  origin : ∀ n db, s.registry.database? n = some db →
    ∃ db', t.registry.database? n = some db' ∧ db'.origin = db.origin

lemma source?_onward (h : Onward s t) {goal : Goal} {p : Path} (hp : s.source? c goal = some p) :
    t.source? c goal = some p := by
  cases goal with
  | adopt => exact hp
  | swap n =>
    obtain ⟨db, hdb, rfl⟩ := Option.map_eq_some_iff.mp hp
    obtain ⟨db', hdb', horigin⟩ := h.origin n db hdb
    exact Option.map_eq_some_iff.mpr ⟨db', hdb', horigin⟩

lemma sound_onward (h : Onward s t) (hc : c.Sound s) : c.Sound t := by
  obtain ⟨hbegun, hhost, hstage⟩ := hc
  have hle := h.changes_le
  have hsame : ∀ time, time ≤ s.changes → time = t.changes →
      time = s.changes ∧ t.host = s.host := by
    intro time htime heq
    have hchanges : t.changes = s.changes := by omega
    exact ⟨by omega, h.host_eq hchanges⟩
  refine ⟨Nat.le_trans hbegun hle, fun heq => ?_, ?_⟩
  · obtain ⟨hnow, hsamehost⟩ := hsame c.begun hbegun heq
    rw [hsamehost, hhost hnow]
  · cases hs : c.stage with
    | keyed | chosen | answered => trivial
    | read goal p entries time =>
      rw [hs] at hstage
      obtain ⟨hfirst, htime, hsource, hread⟩ := hstage
      refine ⟨hfirst, Nat.le_trans htime hle, source?_onward h hsource, fun heq => ?_⟩
      obtain ⟨hnow, hsamehost⟩ := hsame time htime heq
      rw [hsamehost]
      exact hread hnow
    | indexed goal db time =>
      rw [hs] at hstage
      obtain ⟨hfirst, htime, hsource, hcurrent⟩ := hstage
      refine ⟨hfirst, Nat.le_trans htime hle, source?_onward h hsource, fun heq => ?_⟩
      obtain ⟨hnow, hsamehost⟩ := hsame time htime heq
      rw [hsamehost]
      exact hcurrent hnow

lemma onward_of_same (hregistry : t.registry = s.registry) (hhost : t.host = s.host)
    (hchanges : t.changes = s.changes) : Onward s t :=
  ⟨Nat.le_of_eq hchanges.symm, fun _ => hhost, fun _ db h => ⟨db, hregistry ▸ h, rfl⟩⟩

lemma onward_adopt (db : CompileDatabase) : Onward s (s.adopt id c db time) := by
  cases hused : s.registry.get? c.host c.file with
  | some m =>
    rw [adopt_of_used hused]
    exact onward_of_same rfl rfl rfl
  | none =>
    rw [adopt_of_unused hused]
    refine ⟨Nat.le_refl _, fun _ => rfl, fun n db' hdb' => ⟨db', ?_, rfl⟩⟩
    have hne : n ≠ s.registry.databases.length := Nat.ne_of_lt (lt_length_of_database hdb')
    exact (database?_add s.registry db n).trans ((if_neg hne).trans hdb')

lemma onward_swap {db : CompileDatabase} (hsource : s.source? c (.swap n) = some db.origin) :
    Onward s (s.swap id c n db time) := by
  refine ⟨Nat.le_refl _, fun _ => rfl, fun m old hold => ?_⟩
  have hget : (s.swap id c n db time).registry.database? m =
      if m = n then (s.registry.database? m).map fun _ => db else s.registry.database? m :=
    database?_modify ..
  rw [hget]
  split
  · next heq =>
    subst heq
    have horigin : some old.origin = some db.origin := by
      rw [← hsource, source?, hold, Option.map_some]
    exact ⟨db, by rw [hold, Option.map_some], (Option.some.inj horigin).symm⟩
  · exact ⟨old, hold, rfl⟩

lemma onward_step (hs : Sound s) (hstep : Step s t) : Onward s t := by
  cases hstep with
  | change host =>
    refine ⟨Nat.le_succ _, fun h => ?_, fun _ db h => ⟨db, h, rfl⟩⟩
    exact absurd h (Nat.succ_ne_self _)
  | begin | lookUp | read | fail | index => exact onward_of_same rfl rfl rfl
  | adopt hcall hstage => exact onward_adopt _
  | swap hcall hstage =>
    obtain ⟨-, -, hsource, -⟩ := sound_indexed hs hcall hstage
    exact onward_swap hsource

lemma sound_insert (hs : Sound s) (h : Onward s t) (hcalls : t.calls = s.calls.insert id d)
    (hd : d.Sound t) : Sound t := by
  intro x c hx
  rw [hcalls, Table.get?_insert] at hx
  split at hx
  · exact Option.some.inj hx ▸ hd
  · exact sound_onward h (hs x c hx)

lemma sound_after (purpose : Purpose) (found : Option Nat) : (purpose.after found).Sound s c := by
  cases purpose <;> cases found <;> trivial

lemma sound_step (hs : Sound s) (hstep : Step s t) : Sound t := by
  have honward := onward_step hs hstep
  cases hstep with
  | change host => exact fun x c hx => sound_onward honward (hs x c hx)
  | begin purpose file =>
    exact sound_insert hs honward rfl ⟨Nat.le_refl _, fun _ => rfl, trivial⟩
  | @lookUp id c hcall hstage =>
    obtain ⟨hbegun, hhost, -⟩ := hs id c hcall
    exact sound_insert hs honward rfl ⟨hbegun, hhost, sound_after _ _⟩
  | @read id c goal p entries hcall hstage hsource hread =>
    obtain ⟨hbegun, hhost, -⟩ := hs id c hcall
    exact sound_insert hs honward rfl
      ⟨hbegun, hhost, hbegun, Nat.le_refl _, source?_onward honward hsource, fun _ => hread⟩
  | @fail id c goal p failure hcall hstage hsource hread =>
    obtain ⟨hbegun, hhost, -⟩ := hs id c hcall
    exact sound_insert hs honward rfl ⟨hbegun, hhost, trivial⟩
  | @index id c goal p entries time hcall hstage =>
    obtain ⟨hbegun, hhost, hsound⟩ := hs id c hcall
    rw [hstage] at hsound
    obtain ⟨hfirst, htime, hsource, hread⟩ := hsound
    refine sound_insert hs honward rfl ⟨hbegun, hhost, hfirst, htime, ?_, fun heq => ?_⟩
    · exact source?_onward honward hsource
    · exact ⟨entries, hread heq, rfl⟩
  | @adopt id c db time hcall hstage =>
    obtain ⟨hbegun, hhost, -⟩ := hs id c hcall
    cases hused : s.registry.get? c.host c.file with
    | some n =>
      rw [adopt_of_used hused] at honward ⊢
      exact sound_insert hs honward rfl ⟨hbegun, hhost, trivial⟩
    | none =>
      rw [adopt_of_unused hused] at honward ⊢
      exact sound_insert hs honward rfl ⟨hbegun, hhost, trivial⟩
  | @swap id n c db time hcall hstage =>
    obtain ⟨hbegun, hhost, -⟩ := hs id c hcall
    exact sound_insert hs honward rfl ⟨hbegun, hhost, trivial⟩

/-! ### What a step makes of a call -/

/-- How a call has come to be where a step leaves it. -/
inductive Moved (s t : DatabaseCalls) (x : Nat) (d : DatabaseCall) : Prop where
  | begun (stage : d.stage = .keyed)
  | looked (stage : d.stage = d.purpose.after (s.registry.get? d.host d.file))
    (rivals : d.rivals = s.underWay) (registry : t.registry = s.registry)
  | went {c : DatabaseCall} (call : s.calls.get? x = some c) (later : c.stage ≠ .keyed)
    (key : c.key = d.key) (begun : c.begun = d.begun) (rivals : c.rivals = d.rivals)
    (reading : ∀ time, d.stage.reading? = some time →
      time = s.changes ∨ c.stage.reading? = some time)
    (goal : ∀ goal, d.stage.goal? = some goal → c.stage.goal? = some goal)
    (reloaded : ∀ found, d.stage = .answered (.reloaded found) → ∃ n db time,
      c.stage = .indexed (.swap n) db time ∧ t.registry.table = s.registry.table ∧
      t.readings.get? n = some ⟨x, time⟩)

lemma get?_insert_cases (h : (s.calls.insert id d).get? x = some c) :
    s.calls.get? x = some c ∨ x = id ∧ c = d := by
  rw [Table.get?_insert] at h
  split at h
  · next heq => exact Or.inr ⟨heq, (Option.some.inj h).symm⟩
  · exact Or.inl h

lemma moved_answered {a : DatabaseAnswer} (hcall : s.calls.get? x = some c)
    (hlater : c.stage ≠ .keyed)
    (hreloaded : ∀ found, a = .reloaded found → ∃ n db time, c.stage = .indexed (.swap n) db time ∧
      t.registry.table = s.registry.table ∧ t.readings.get? n = some ⟨x, time⟩) :
    Moved s t x { c with stage := .answered a } := by
  refine .went hcall hlater rfl rfl rfl (fun _ h => ?_) (fun _ h => ?_) (fun found h => ?_)
  · exact absurd h.symm (Option.some_ne_none _)
  · exact absurd h.symm (Option.some_ne_none _)
  · exact hreloaded found (CallStage.answered.inj h)

lemma moved_of_step (hstep : Step s t) (hd : t.calls.get? x = some d) :
    s.calls.get? x = some d ∨ Moved s t x d := by
  cases hstep with
  | change host => exact Or.inl hd
  | begin purpose file =>
    refine (get?_insert_cases hd).imp_right ?_
    rintro ⟨-, rfl⟩
    exact .begun rfl
  | lookUp hcall hstage =>
    refine (get?_insert_cases hd).imp_right ?_
    rintro ⟨-, rfl⟩
    exact .looked rfl rfl rfl
  | read hcall hstage hsource hread =>
    refine (get?_insert_cases hd).imp_right ?_
    rintro ⟨rfl, rfl⟩
    refine .went hcall ?_ rfl rfl rfl (fun time htime => ?_) (fun goal hgoal => ?_) ?_
    · simp [hstage]
    · exact Or.inl (Option.some.inj htime).symm
    · exact hstage ▸ hgoal
    · exact fun _ h => CallStage.noConfusion h
  | fail hcall hstage hsource hread =>
    refine (get?_insert_cases hd).imp_right ?_
    rintro ⟨rfl, rfl⟩
    exact moved_answered hcall (by simp [hstage]) fun _ h => DatabaseAnswer.noConfusion h
  | index hcall hstage =>
    refine (get?_insert_cases hd).imp_right ?_
    rintro ⟨rfl, rfl⟩
    refine .went hcall ?_ rfl rfl rfl (fun time htime => ?_) (fun goal hgoal => ?_) ?_
    · simp [hstage]
    · exact Or.inr (hstage ▸ htime)
    · exact hstage ▸ hgoal
    · exact fun _ h => CallStage.noConfusion h
  | @adopt id c db time hcall hstage =>
    have hanswer : ∃ n, (s.adopt id c db time).calls =
        s.calls.insert id { c with stage := .answered (.database (some n)) } := ⟨_, rfl⟩
    obtain ⟨n, hcalls⟩ := hanswer
    refine (get?_insert_cases (hcalls ▸ hd)).imp_right ?_
    rintro ⟨rfl, rfl⟩
    exact moved_answered hcall (by simp [hstage]) fun _ h => DatabaseAnswer.noConfusion h
  | swap hcall hstage =>
    refine (get?_insert_cases hd).imp_right ?_
    rintro ⟨rfl, rfl⟩
    refine moved_answered hcall (by simp [hstage]) fun _ _ => ⟨_, _, _, hstage, rfl, ?_⟩
    exact (Table.get?_insert ..).trans (if_pos rfl)

/-- Nothing changes but in the step that says so. -/
lemma changes_step (hstep : Step s t) : t.changes = s.changes ∨ ∃ host, t = s.change host := by
  cases hstep with
  | change host => exact Or.inr ⟨host, rfl⟩
  | begin | lookUp | read | fail | index | adopt | swap => exact Or.inl rfl

/-! ### Calls that hold an older reading -/

/-- Whether a call is still to make use of what it had read before the last change. -/
def Outdated (s : DatabaseCalls) (y : Nat) : Prop :=
  ∃ c time, s.calls.get? y = some c ∧ c.stage.reading? = some time ∧ time < s.changes

lemma mem_underWay_of_outdated (h : s.Outdated x) : x ∈ s.underWay := by
  obtain ⟨c, time, hcall, hreading, -⟩ := h
  exact mem_underWay.mpr ⟨c, time, hcall, hreading⟩

/-- A reading does not become older than the last change by a step of a call. -/
lemma outdated_of_step (hstep : Step s t) (hsame : t.changes = s.changes) (h : t.Outdated x) :
    s.Outdated x := by
  obtain ⟨d, time, hd, hreading, htime⟩ := h
  rw [hsame] at htime
  rcases moved_of_step hstep hd with hold | hmoved
  · exact ⟨d, time, hold, hreading, htime⟩
  · cases hmoved with
    | begun stage => simp [stage, CallStage.reading?] at hreading
    | looked stage =>
      cases hpurpose : d.purpose <;> cases hused : s.registry.get? d.host d.file <;>
        simp [stage, hpurpose, hused, Purpose.after, CallStage.reading?] at hreading
    | went call later key begun rivals reading =>
      rcases reading time hreading with hnow | hbefore
      · omega
      · exact ⟨_, time, call, hbefore, htime⟩

/-- A call that has looked up its key since the last change knows those that hold an older
reading. -/
def Aware (s : DatabaseCalls) : Prop :=
  ∀ x c, s.calls.get? x = some c → c.stage ≠ .keyed → c.begun = s.changes →
    ∀ y, s.Outdated y → y ∈ c.rivals

lemma aware_step (hsound : Sound s) (hs : Aware s) (hstep : Step s t) : Aware t := by
  intro x d hd hlater hbegun y hy
  -- a change puts every call that there is behind it, so the statement is about none of them
  rcases changes_step hstep with hsame | ⟨host, rfl⟩
  · have hbefore := outdated_of_step hstep hsame hy
    rw [hsame] at hbegun
    rcases moved_of_step hstep hd with hold | hmoved
    · exact hs x d hold hlater hbegun y hbefore
    · cases hmoved with
      | begun stage => exact absurd stage hlater
      | looked stage rivals => exact rivals ▸ mem_underWay_of_outdated hbefore
      | went call later key begun rivals =>
        exact rivals ▸ hs x _ call later (begun.trans hbegun) y hbefore
  · have hle := (hsound x d hd).begun_le
    exact absurd hbegun (Nat.ne_of_lt (Nat.lt_succ_of_le hle))

/-! ### Readings of databases -/

/-- A reading in use was made, and its database is up to date if nothing has changed since. -/
def Installed (s : DatabaseCalls) : Prop :=
  ∀ n reading, s.readings.get? n = some reading → reading.time ≤ s.changes ∧
    (reading.time = s.changes → ∃ db, s.registry.database? n = some db ∧ Current s.host db)

lemma installed_insert (db : CompileDatabase) (hs : Installed s)
    (hchanges : t.changes = s.changes) (hhost : t.host = s.host)
    (hreadings : t.readings = s.readings.insert n ⟨id, time⟩)
    (hothers : ∀ m, m ≠ n → t.registry.database? m = s.registry.database? m)
    (hdb : t.registry.database? n = some db) (htime : time ≤ s.changes)
    (hcurrent : time = s.changes → Current s.host db) : Installed t := by
  intro m reading hm
  rw [hreadings, Table.get?_insert] at hm
  rw [hchanges, hhost]
  split at hm
  · next heq =>
    obtain rfl := Option.some.inj hm
    exact ⟨htime, fun hnow => ⟨db, heq ▸ hdb, hcurrent hnow⟩⟩
  · next hne => exact hothers m hne ▸ hs m reading hm

lemma installed_step (hsound : Sound s) (hs : Installed s) (hstep : Step s t) : Installed t := by
  cases hstep with
  | change host =>
    intro n reading hn
    obtain ⟨hle, -⟩ := hs n reading hn
    exact ⟨Nat.le_succ_of_le hle, fun h => absurd h (Nat.ne_of_lt (Nat.lt_succ_of_le hle))⟩
  | begin | lookUp | read | fail | index => exact hs
  | @adopt id c db time hcall hstage =>
    cases hused : s.registry.get? c.host c.file with
    | some n =>
      rw [adopt_of_used hused]
      exact hs
    | none =>
      obtain ⟨-, htime, -, hcurrent⟩ := sound_indexed hsound hcall hstage
      rw [adopt_of_unused hused]
      refine installed_insert db hs rfl rfl rfl (fun m hne => ?_) ?_ htime hcurrent
      · exact (database?_add s.registry db m).trans (if_neg hne)
      · exact (database?_add s.registry db _).trans (if_pos rfl)
  | @swap id n c db time hcall hstage =>
    obtain ⟨-, htime, hsource, hcurrent⟩ := sound_indexed hsound hcall hstage
    obtain ⟨old, hold, -⟩ := Option.map_eq_some_iff.mp hsource
    refine installed_insert db hs rfl rfl rfl (fun m hne => ?_) ?_ htime hcurrent
    · exact (database?_modify s.registry n m _).trans (if_neg hne)
    · rw [swap, database?_modify, if_pos rfl, hold, Option.map_some]

/-- A database in use for a file was in use before, with the reading it has, or it has the reading
of a call that was still to make use of it. -/
lemma reading_of_step (hvalid : Valid s.registry) (hstep : Step s t)
    (hused : t.registry.table.get? key = some n) :
    (s.registry.table.get? key = some n ∧ t.readings.get? n = s.readings.get? n) ∨
      ∃ id c goal db time, s.calls.get? id = some c ∧ c.stage = .indexed goal db time ∧
        t.readings.get? n = some ⟨id, time⟩ := by
  cases hstep with
  | change | begin | lookUp | read | fail | index => exact Or.inl ⟨hused, rfl⟩
  | @adopt id c db time hcall hstage =>
    cases hbefore : s.registry.get? c.host c.file with
    | some m =>
      rw [adopt_of_used hbefore] at hused ⊢
      exact Or.inl ⟨hused, rfl⟩
    | none =>
      rw [adopt_of_unused hbefore] at hused ⊢
      have hget : (if key = fileKey c.host c.file then some s.registry.databases.length
          else s.registry.table.get? key) = some n := (Table.get?_insert ..).symm.trans hused
      split at hget
      · obtain rfl := Option.some.inj hget
        exact Or.inr ⟨id, c, _, db, time, hcall, hstage, (Table.get?_insert ..).trans (if_pos rfl)⟩
      · obtain ⟨old, hold⟩ := hvalid key n hget
        have hne : n ≠ s.registry.databases.length := Nat.ne_of_lt (lt_length_of_database hold)
        exact Or.inl ⟨hget, (Table.get?_insert ..).trans (if_neg hne)⟩
  | @swap id m c db time hcall hstage =>
    by_cases heq : n = m
    · exact Or.inr ⟨id, c, _, db, time, hcall, hstage,
        (Table.get?_insert ..).trans (if_pos heq)⟩
    · exact Or.inl ⟨hused, (Table.get?_insert ..).trans (if_neg heq)⟩

/-! ### Reloads -/

/-- A database that is to get another mapping is the one in use. -/
def Aimed (s : DatabaseCalls) : Prop :=
  ∀ x c n, s.calls.get? x = some c → c.stage.goal? = some (.swap n) →
    s.registry.table.get? c.key = some n

lemma eq_of_goal?_after {purpose : Purpose} {found : Option Nat}
    (h : (purpose.after found).goal? = some (.swap n)) : found = some n := by
  cases purpose <;> cases found <;> simp_all [Purpose.after, CallStage.goal?]

lemma aimed_step (hs : Aimed s) (hstep : Step s t) : Aimed t := by
  intro x d n hd hgoal
  rcases moved_of_step hstep hd with hold | hmoved
  · exact get?_step hstep (hs x d n hold hgoal)
  · cases hmoved with
    | begun stage => simp [stage, CallStage.goal?] at hgoal
    | looked stage => exact get?_step hstep (eq_of_goal?_after (stage ▸ hgoal))
    | went call later key begun rivals reading goal =>
      exact get?_step hstep (key ▸ hs x _ n call (goal _ hgoal))

/-- After a reload that began behind the last change, a database in use has a reading made since, or
one of a call that the reload knows. -/
def Renewed (s : DatabaseCalls) : Prop :=
  ∀ x c found n, s.calls.get? x = some c → c.stage = .answered (.reloaded found) →
    c.begun = s.changes → s.registry.table.get? c.key = some n →
    ∃ reading, s.readings.get? n = some reading ∧
      (reading.time = s.changes ∨ reading.call ∈ c.rivals)

lemma get?_of_after_eq_reloaded {purpose : Purpose} {used : Option Nat} {found : Bool}
    (h : purpose.after used = .answered (.reloaded found)) : used = none := by
  cases purpose <;> cases used <;> simp_all [Purpose.after]

lemma renewed_step (hvalid : Valid s.registry) (hsound : Sound s) (haware : Aware s)
    (haimed : Aimed s) (hs : Renewed s) (hstep : Step s t) : Renewed t := by
  intro x d found n hd hreloaded hbegun hused
  rcases changes_step hstep with hsame | ⟨host, rfl⟩
  · rw [hsame] at hbegun ⊢
    rcases moved_of_step hstep hd with hold | hmoved
    · rcases reading_of_step hvalid hstep hused with ⟨hbefore, hreading⟩ | hcame
      · rw [hreading]
        exact hs x d found n hold hreloaded hbegun hbefore
      · obtain ⟨id, c, goal, db, time, hcall, hstage, hreading⟩ := hcame
        obtain ⟨-, htime, -⟩ := sound_indexed hsound hcall hstage
        refine ⟨_, hreading, ?_⟩
        -- the call whose reading came in was still to make use of it, so it is known if it is old
        rcases Nat.lt_or_eq_of_le htime with hlt | heq
        · have houtdated : s.Outdated id := ⟨c, time, hcall, by rw [hstage]; rfl, hlt⟩
          exact Or.inr (haware x d hold (by simp [hreloaded]) hbegun id houtdated)
        · exact Or.inl heq
    · cases hmoved with
      | begun stage => exact absurd (stage.symm.trans hreloaded) (by simp)
      | looked stage rivals registry =>
        have hnone := get?_of_after_eq_reloaded (stage.symm.trans hreloaded)
        rw [registry] at hused
        exact absurd (hnone.symm.trans hused) (Option.some_ne_none n).symm
      | went call later key begun rivals reading goal reloaded =>
        -- the reload itself, which has read after it began
        obtain ⟨m, db, time, hstage, htable, hreading⟩ := reloaded found hreloaded
        have haim := haimed x _ m call (by rw [hstage]; rfl)
        rw [htable, ← key, haim] at hused
        obtain rfl := Option.some.inj hused
        obtain ⟨hfirst, htime, -⟩ := sound_indexed hsound call hstage
        rw [begun, hbegun] at hfirst
        exact ⟨_, hreading, Or.inl (Nat.le_antisymm htime hfirst)⟩
  · have hle := (hsound x d hd).begun_le
    exact absurd hbegun (Nat.ne_of_lt (Nat.lt_succ_of_le hle))

/-- What is known of calls and readings in every order of steps. -/
structure Traced (s : DatabaseCalls) : Prop where
  valid : Valid s.registry
  sound : Sound s
  aware : Aware s
  installed : Installed s
  aimed : Aimed s
  renewed : Renewed s

lemma traced_ofRegistry {r : Registry} (hr : Valid r) (host : Host) :
    Traced (.ofRegistry r host) := by
  have hnone : ∀ x c, (ofRegistry r host).calls.get? x ≠ some c :=
    fun x c h => absurd h (Option.some_ne_none c).symm
  refine ⟨hr, fun x c h => absurd h (hnone x c), fun x c h => absurd h (hnone x c), ?_,
    fun x c n h => absurd h (hnone x c), fun x c found n h => absurd h (hnone x c)⟩
  exact fun n reading h => absurd h (Option.some_ne_none reading).symm

lemma traced_step (hs : Traced s) (hstep : Step s t) : Traced t where
  valid := valid_step hs.valid hstep
  sound := sound_step hs.sound hstep
  aware := aware_step hs.sound hs.aware hstep
  installed := installed_step hs.sound hs.installed hstep
  aimed := aimed_step hs.aimed hstep
  renewed := renewed_step hs.valid hs.sound hs.aware hs.aimed hs.renewed hstep

lemma traced_of_run {r : Registry} {host : Host} (hr : Valid r)
    (h : Relation.ReflTransGen Step (.ofRegistry r host) s) : Traced s := by
  induction h with
  | refl => exact traced_ofRegistry hr host
  | tail _ hstep ih => exact traced_step ih hstep

end DatabaseCalls

/-- After a reload that began behind the last change and has not failed, the database in use is up
to date, or it has the older reading of a call that was under way when the reload looked up its
key. -/
theorem current_after_reload (history : List DatabaseRequest) (host : Host) (s : DatabaseCalls)
    (h : Relation.ReflTransGen Step (.ofRegistry (registryAfter history) host) s) (x n : Nat)
    (c : DatabaseCall) (found : Bool) (hcall : s.calls.get? x = some c)
    (hreloaded : c.stage = .answered (.reloaded found)) (hbegun : c.begun = s.changes)
    (hused : s.registry.get? s.host c.file = some n) :
    ∃ reading, s.readings.get? n = some reading ∧
      ((reading.time = s.changes ∧ ∃ db, s.registry.database? n = some db ∧ Current s.host db) ∨
        (reading.time < s.changes ∧ reading.call ∈ c.rivals)) := by
  have htraced := traced_of_run (valid_registryAfter history) h
  have hkey : s.registry.table.get? c.key = some n := by
    rw [DatabaseCall.key, (htraced.sound x c hcall).host_eq hbegun]
    exact hused
  obtain ⟨reading, hreading, hcases⟩ := htraced.renewed x c found n hcall hreloaded hbegun hkey
  obtain ⟨hle, hcurrent⟩ := htraced.installed n reading hreading
  refine ⟨reading, hreading, ?_⟩
  rcases Nat.lt_or_eq_of_le hle with hlt | heq
  · exact Or.inr ⟨hlt, hcases.resolve_left (Nat.ne_of_lt hlt)⟩
  · exact Or.inl ⟨heq, hcurrent heq⟩

lemma get?_insert_of_eq {key key' : List Component} (h : key' = key)
    (table : Table (List Component) Nat) (n : Nat) :
    (table.insert key n).get? key' = some n := by
  rw [h, Table.get?_insert, if_pos rfl]

/-- A first load and a reload with a change in between: the reload finds the database in use and
knows no other reading. -/
theorem current_after_reload_of_change :
    ∃ s n db, Relation.ReflTransGen Step (.ofRegistry (registryAfter []) emptyHost) s ∧
      s.registry.get? s.host databaseFile = some n ∧ s.registry.database? n = some db ∧
      Current entryHost db := by
  have h0 : Relation.ReflTransGen Step (.ofRegistry (registryAfter []) emptyHost) _ := .refl
  have h1 := h0.tail (.begin _ .obtain databaseFile)
  have h2 := h1.tail (@Step.lookUp _ 0 _ rfl rfl)
  have h3 := h2.tail (@Step.read _ 0 _ .adopt _ _ rfl rfl rfl readEntries_emptyHost)
  have h4 := h3.tail (@Step.index _ 0 _ _ _ _ _ rfl rfl)
  have h5 := h4.tail (@Step.adopt _ 0 _ _ _ rfl rfl)
  have h6 := h5.tail (.change _ entryHost)
  have h7 := h6.tail (.begin _ .reload databaseFile)
  have h8 := h7.tail (@Step.lookUp _ 1 _ rfl rfl)
  have hused := get?_insert_of_eq fileKey_entryHost .empty 0
  have hchosen := congrArg Purpose.reload.after hused
  have h9 := h8.tail (@Step.read _ 1 _ (.swap 0) _ _ rfl hchosen rfl readEntries_entryHost)
  have h10 := h9.tail (@Step.index _ 1 _ _ _ _ _ rfl rfl)
  have h11 := h10.tail (@Step.swap _ 1 _ _ _ _ rfl rfl)
  obtain ⟨reading, -, ⟨-, db, hdb, hcurrent⟩ | ⟨-, hrival⟩⟩ :=
    current_after_reload [] _ _ h11 1 0 _ true rfl rfl rfl hused
  · exact ⟨_, 0, db, h11, hused, hdb, hcurrent⟩
  · exact absurd hrival List.not_mem_nil

/-! ### Changes that are lost -/

/-- Whether a file can change, a reload begin after that and succeed, or find nothing to do, and the
database in use not be up to date. -/
def LosesChange (before after : Host) (file : Path) (found : Bool) : Prop :=
  ∃ s x c n db, Relation.ReflTransGen Step (.ofRegistry (registryAfter []) before) s ∧
    s.host = after ∧ s.calls.get? x = some c ∧ c.file = file ∧
    c.stage = .answered (.reloaded found) ∧ c.begun = s.changes ∧
    s.registry.get? s.host c.file = some n ∧ s.registry.database? n = some db ∧
    ¬Current s.host db

section

variable {before after : Host} {file : Path} {old new : List CompileEntry}

/-- The first load has read the file when it changes, and takes its database into use after the
reload has found none. -/
lemma losesChange_of_load (hkey : fileKey after file = fileKey before file)
    (hold : readEntries before (Registry.keyPath before file) = .ok old)
    (hlost : ¬Current after (.ofEntries after (Registry.keyPath before file) old)) :
    LosesChange before after file false := by
  have h0 : Relation.ReflTransGen Step (.ofRegistry (registryAfter []) before) _ := .refl
  have h1 := h0.tail (.begin _ .obtain file)
  have h2 := h1.tail (@Step.lookUp _ 0 _ rfl rfl)
  have h3 := h2.tail (@Step.read _ 0 _ .adopt _ _ rfl rfl rfl hold)
  have h4 := h3.tail (.change _ after)
  have h5 := h4.tail (.begin _ .reload file)
  have h6 := h5.tail (@Step.lookUp _ 1 _ rfl rfl)
  have h7 := h6.tail (@Step.index _ 0 _ _ _ _ _ rfl rfl)
  have h8 := h7.tail (@Step.adopt _ 0 _ _ _ rfl rfl)
  have hused := get?_insert_of_eq hkey .empty 0
  exact ⟨_, 1, _, 0, _, h8, rfl, rfl, rfl, rfl, rfl, hused, rfl, hlost⟩

/-- A reload has read the file when it changes, and is overtaken by a later one. -/
lemma losesChange_of_reload (hkey : fileKey after file = fileKey before file)
    (hold : readEntries before (Registry.keyPath before file) = .ok old)
    (hnew : readEntries after (Registry.keyPath before file) = .ok new)
    (hlost : ¬Current after (.ofEntries after (Registry.keyPath before file) old)) :
    LosesChange before after file true := by
  have h0 : Relation.ReflTransGen Step (.ofRegistry (registryAfter []) before) _ := .refl
  have h1 := h0.tail (.begin _ .obtain file)
  have h2 := h1.tail (@Step.lookUp _ 0 _ rfl rfl)
  have h3 := h2.tail (@Step.read _ 0 _ .adopt _ _ rfl rfl rfl hold)
  have h4 := h3.tail (@Step.index _ 0 _ _ _ _ _ rfl rfl)
  have h5 := h4.tail (@Step.adopt _ 0 _ _ _ rfl rfl)
  have h6 := h5.tail (.begin _ .reload file)
  have h7 := h6.tail (@Step.lookUp _ 1 _ rfl rfl)
  have hearlier := congrArg Purpose.reload.after
    (get?_insert_of_eq (Eq.refl (fileKey before file)) .empty 0)
  have h8 := h7.tail (@Step.read _ 1 _ (.swap 0) _ _ rfl hearlier rfl hold)
  have h9 := h8.tail (.change _ after)
  have h10 := h9.tail (.begin _ .reload file)
  have h11 := h10.tail (@Step.lookUp _ 2 _ rfl rfl)
  have hused := get?_insert_of_eq hkey .empty 0
  have hlater := congrArg Purpose.reload.after hused
  have h12 := h11.tail (@Step.read _ 2 _ (.swap 0) _ _ rfl hlater rfl hnew)
  have h13 := h12.tail (@Step.index _ 2 _ _ _ _ _ rfl rfl)
  have h14 := h13.tail (@Step.swap _ 2 _ _ _ _ rfl rfl)
  have h15 := h14.tail (@Step.index _ 1 _ _ _ _ _ rfl rfl)
  have h16 := h15.tail (@Step.swap _ 1 _ _ _ _ rfl rfl)
  exact ⟨_, 2, _, 0, _, h16, rfl, rfl, rfl, rfl, rfl, hused, rfl, hlost⟩

end

lemma origin_ofEntries (host : Host) (p : Path) (entries : List CompileEntry) :
    (CompileDatabase.ofEntries host p entries).origin = p :=
  rfl

/-- The mapping from before the first entry was written is not up to date. -/
lemma not_current_empty (host : Host) : ¬Current entryHost
    (.ofEntries host (Registry.keyPath emptyHost databaseFile) []) := by
  rintro ⟨entries, hread, hdb⟩
  rw [origin_ofEntries, readEntries_entryHost] at hread
  obtain rfl := Except.ok.inj hread
  rw [origin_ofEntries] at hdb
  have hsize := congrArg (fun db => db.commands.values.length) hdb
  have hone : (CompileDatabase.ofEntries entryHost (Registry.keyPath emptyHost databaseFile)
      [entryOf "main.c"]).commands.values.length = 1 := by decide +kernel
  exact absurd (hsize.trans hone) Nat.zero_ne_one

/-- An entry is written to the database file, and in both ways the change can be lost. -/
theorem change_lost_by_late_reading : LosesChange emptyHost entryHost databaseFile false ∧
    LosesChange emptyHost entryHost databaseFile true := by
  constructor
  · exact losesChange_of_load fileKey_entryHost readEntries_emptyHost (not_current_empty entryHost)
  · exact losesChange_of_reload fileKey_entryHost readEntries_emptyHost readEntries_entryHost
      (not_current_empty entryHost)

/-- A host on which the database file is a link. -/
def linkedHost (t : Text) : Host :=
  shellHost [("real.json", .file (Utf8.encode t) false),
    ("compile_commands.json", .link "real.json".toList)]

/-- The database file by a path without a directory, which has another key where it is a link. -/
def bareFile : Path := .ofString "compile_commands.json"

def linkedHistory : List DatabaseRequest :=
  [.getOrLoad (linkedHost (entryText "old.c")) databaseFile,
    .getOrLoad (linkedHost (entryText "old.c")) bareFile,
    .reload (linkedHost (entryText "new.c")) bareFile]

/-- Without any overlap, a reload by one path leaves the database of the other one as it was. -/
theorem change_lost_behind_link :
    answerAfter (linkedHistory.take 2) (.reload (linkedHost (entryText "new.c")) bareFile) =
      .reloaded true ∧
    answerAfter linkedHistory (.getOrLoad (linkedHost (entryText "new.c")) databaseFile) =
      .database (some 0) ∧
    ((registryAfter linkedHistory).database? 0).map CompileDatabase.sources =
      some [.ofString "/old.c"] ∧
    (CompileDatabase.load (linkedHost (entryText "new.c")) databaseFile).toOption.map
      CompileDatabase.sources = some [.ofString "/new.c"] := by
  decide +kernel

end AsmExplorer.Proofs
