import AsmExplorer.Proofs.DatabaseCalls
import AsmExplorer.Proofs.DatabaseLookup
import AsmExplorer.Proofs.PathOrder

/-!
# What a database holds

A database never mixes what it held with what it gets: every update puts a whole list of entries in
the place of the old one, or fails and leaves everything as it was. So what it holds after any
updates is the table of the entries that were put into it last, as they were seen on the host of
that time.
-/

namespace AsmExplorer.Proofs

/-- How a database comes about: from its file, or from entries given by somebody else. -/
inductive DatabaseOpening where
  | load (file : Path)
  | ofEntries (origin : Path) (entries : List CompileEntry)

/-- What is done with a database. -/
inductive DatabaseUpdate where
  | reload
  | replace (entries : List CompileEntry)
  | modelChanged (entries : List CompileEntry)
  | clear

namespace DatabaseOpening

def origin : DatabaseOpening → Path
  | .load file => file
  | .ofEntries origin _ => origin

/-- The entries that are there to begin with. -/
def entries (host : Host) : DatabaseOpening → Except Failure (List CompileEntry)
  | .load file => readEntries host file
  | .ofEntries _ entries => .ok entries

def perform (host : Host) : DatabaseOpening → Except Failure CompileDatabase
  | .load file => CompileDatabase.load host file
  | .ofEntries origin entries => .ok (CompileDatabase.ofEntries host origin entries)

end DatabaseOpening

namespace DatabaseUpdate

/-- The entries that an update puts into a database of the given origin, if it does. -/
def entries? (host : Host) (origin : Path) : DatabaseUpdate → Option (List CompileEntry)
  | .reload => (readEntries host origin).toOption
  | .replace entries => some entries
  | .modelChanged entries => some entries
  | .clear => some []

/-- The database after an update, and the answer: the number of its sources where one is given. -/
def perform (host : Host) (db : CompileDatabase) :
    DatabaseUpdate → CompileDatabase × Except Failure (Option Nat)
  | .reload =>
    match db.reload host with
    | .ok db => (db, .ok (some db.size))
    | .error failure => (db, .error failure)
  | .replace entries =>
    let db := db.replace host entries
    (db, .ok (some db.size))
  | .modelChanged entries => (db.replace host entries, .ok none)
  | .clear => (db.clear, .ok none)

end DatabaseUpdate

/-- Entries that were put into a database, and the host at that time. -/
structure PutEntries where
  host : Host
  entries : List CompileEntry

/-- Each update finds the host in a state of its own. -/
abbrev UpdateHistory := List (Host × DatabaseUpdate)

def databaseAfter (db : CompileDatabase) (history : UpdateHistory) : CompileDatabase :=
  history.foldl (fun db u => (u.2.perform u.1 db).1) db

def PutEntries.next (origin : Path) (put : PutEntries) (u : Host × DatabaseUpdate) : PutEntries :=
  match u.2.entries? u.1 origin with
  | some entries => ⟨u.1, entries⟩
  | none => put

/-- What was put into a database last. -/
def lastPut (origin : Path) (put : PutEntries) (history : UpdateHistory) : PutEntries :=
  history.foldl (PutEntries.next origin) put

def PutEntries.table (origin : Path) (put : PutEntries) : Table (List Component) Invocation :=
  CompileDatabase.tableOf put.host (CompileDatabase.baseOf put.host origin) put.entries

/-- Whether an invocation is that of the last entry for the source with a key. Entries that have no
invocation do not count. -/
def LastFor (host : Host) (base : Path) (entries : List CompileEntry) (k : List Component)
    (i : Invocation) : Prop :=
  ∃ before e later, entries = before ++ e :: later ∧ e.invocation? host base = some i ∧
    i.source.key = k ∧ ∀ e' ∈ later, ∀ i', e'.invocation? host base = some i' → i'.source.key ≠ k

/-- Whether a database holds the given entries and nothing else. -/
structure Holds (db : CompileDatabase) (put : PutEntries) : Prop where
  table : db.commands = put.table db.origin
  lastEntry : ∀ k i, db.commands.get? k = some i ↔
    LastFor put.host (CompileDatabase.baseOf put.host db.origin) put.entries k i
  source : ∀ k i, db.commands.get? k = some i → i.source.key = k
  listed : ∀ s, s ∈ db.sources ↔ ∃ i, db.commands.get? s.key = some i ∧ i.source = s
  size : db.sources.length = db.size
  ascending : db.sources.Pairwise fun p q => p.compare q = .lt

/-- What is known of one update of a database. -/
structure UpdateLaws (host : Host) (db : CompileDatabase) (u : DatabaseUpdate) : Prop where
  fails_iff : ∀ failure, (u.perform host db).2 = .error failure ↔
    u = .reload ∧ readEntries host db.origin = .error failure
  kept : ∀ failure, (u.perform host db).2 = .error failure → (u.perform host db).1 = db
  cleared : u = .clear → (u.perform host db).1.commands = Table.empty
  counted : ∀ n, (u.perform host db).2 = .ok (some n) →
    n = (u.perform host db).1.size ∧ n = (u.perform host db).1.sources.length

/-! ### The last entry of a source -/

section

variable {host : Host} {base : Path} {entries : List CompileEntry} {e : CompileEntry}
  {k : List Component} {i : Invocation}

lemma not_lastFor_nil : ¬LastFor host base [] k i := by
  rintro ⟨before, e, later, h, -⟩
  simp at h

lemma lastFor_concat : LastFor host base (entries ++ [e]) k i ↔
    (e.invocation? host base = some i ∧ i.source.key = k) ∨
      (LastFor host base entries k i ∧
        ∀ i', e.invocation? host base = some i' → i'.source.key ≠ k) := by
  constructor
  · rintro ⟨before, x, later, h, hx, hk, hlater⟩
    rcases List.eq_nil_or_concat later with rfl | ⟨rest, y, rfl⟩
    · obtain ⟨-, hlast⟩ := List.append_inj' h rfl
      obtain rfl := List.singleton_inj.mp hlast
      exact .inl ⟨hx, hk⟩
    · have hsplit : entries ++ [e] = (before ++ x :: rest) ++ [y] := by simpa using h
      obtain ⟨rfl, hlast⟩ := List.append_inj' hsplit rfl
      obtain rfl := List.singleton_inj.mp hlast
      refine .inr ⟨⟨before, x, rest, rfl, hx, hk, fun e' he' => hlater e' (by simp [he'])⟩, ?_⟩
      exact hlater e (by simp)
  · rintro (⟨hx, hk⟩ | ⟨⟨before, x, later, rfl, hx, hk, hlater⟩, he⟩)
    · exact ⟨entries, e, [], rfl, hx, hk, by simp⟩
    · refine ⟨before, x, later ++ [e], by simp, hx, hk, ?_⟩
      intro e' he'
      rcases List.mem_append.mp he' with he' | he'
      · exact hlater e' he'
      · obtain rfl := List.mem_singleton.mp he'
        exact he

lemma get?_addEntry {commands : Table (List Component) Invocation} :
    (CompileDatabase.addEntry host base commands e).get? k = some i ↔
      (e.invocation? host base = some i ∧ i.source.key = k) ∨
        (commands.get? k = some i ∧
          ∀ i', e.invocation? host base = some i' → i'.source.key ≠ k) := by
  unfold CompileDatabase.addEntry
  cases he : e.invocation? host base with
  | none => simp
  | some j =>
    rw [Table.get?_insert]
    by_cases hk : k = j.source.key
    · subst hk
      simp [eq_comm]
      rintro rfl
      rfl
    · rw [if_neg hk]
      have hne : j.source.key ≠ k := Ne.symm hk
      constructor
      · intro h
        exact .inr ⟨h, fun i' hi' => Option.some.inj hi' ▸ hne⟩
      · rintro (⟨hj, hi⟩ | ⟨h, -⟩)
        · obtain rfl := Option.some.inj hj
          exact absurd hi hne
        · exact h

lemma get?_tableOf :
    (CompileDatabase.tableOf host base entries).get? k = some i ↔ LastFor host base entries k i := by
  induction entries using List.reverseRecOn with
  | nil => exact iff_of_false (Option.some_ne_none i).symm not_lastFor_nil
  | append_singleton before e ih =>
    rw [CompileDatabase.tableOf, List.foldl_append, lastFor_concat, ← ih]
    exact get?_addEntry

end

/-! ### The sources of a database -/

section

variable {db : CompileDatabase}

lemma length_sources (db : CompileDatabase) : db.sources.length = db.size := by
  rw [CompileDatabase.sources, List.length_mergeSort, List.length_map, Table.values,
    List.length_map]
  rfl

lemma nodup_sourceKeys (h : ∀ k i, db.commands.get? k = some i → i.source.key = k) :
    ((db.commands.values.map Invocation.source).map Path.key).Nodup := by
  have hkeys : (db.commands.values.map Invocation.source).map Path.key =
      db.commands.pairs.map Prod.fst := by
    rw [Table.values, List.map_map, List.map_map]
    apply List.map_congr_left
    rintro ⟨k, i⟩ hp
    exact h k i (Table.mem_pairs_iff.mp hp)
  rw [hkeys]
  exact db.commands.nodup

lemma holds_of_table {put : PutEntries} (h : db.commands = put.table db.origin) :
    Holds db put := by
  have hlast : ∀ k i, db.commands.get? k = some i ↔
      LastFor put.host (CompileDatabase.baseOf put.host db.origin) put.entries k i := by
    intro k i
    rw [h]
    exact get?_tableOf
  have hsource : ∀ k i, db.commands.get? k = some i → i.source.key = k := by
    intro k i hi
    obtain ⟨-, -, -, -, -, hk, -⟩ := (hlast k i).mp hi
    exact hk
  exact ⟨h, hlast, hsource, fun s => mem_sources hsource, length_sources db,
    ascending_mergeSort (nodup_sourceKeys hsource)⟩

end

/-! ### Updates -/

section

variable {host : Host} {db : CompileDatabase} {u : DatabaseUpdate} {put : PutEntries}

/-- What an update does: it puts its entries in, or it fails and changes nothing. -/
lemma perform_cases (host : Host) (db : CompileDatabase) (u : DatabaseUpdate) :
    (∃ entries, u.entries? host db.origin = some entries ∧
      (u.perform host db).1 = .ofEntries host db.origin entries ∧
      ∀ failure, (u.perform host db).2 ≠ .error failure) ∨
    (∃ failure, u = .reload ∧ readEntries host db.origin = .error failure ∧
      u.perform host db = (db, .error failure)) := by
  cases u with
  | reload =>
    cases hread : readEntries host db.origin with
    | ok entries =>
      refine .inl ⟨entries, ?_, ?_, ?_⟩ <;>
        simp [DatabaseUpdate.entries?, DatabaseUpdate.perform, CompileDatabase.reload, hread,
          Except.map, Except.toOption, CompileDatabase.replace]
    | error failure =>
      refine .inr ⟨failure, rfl, rfl, ?_⟩
      simp [DatabaseUpdate.perform, CompileDatabase.reload, hread, Except.map]
  | replace entries => exact .inl ⟨entries, rfl, rfl, fun _ h => by cases h⟩
  | modelChanged entries => exact .inl ⟨entries, rfl, rfl, fun _ h => by cases h⟩
  | clear => exact .inl ⟨[], rfl, rfl, fun _ h => by cases h⟩

lemma perform_count {n : Nat} (h : (u.perform host db).2 = .ok (some n)) :
    n = (u.perform host db).1.size := by
  cases u with
  | reload =>
    unfold DatabaseUpdate.perform at h ⊢
    cases hread : db.reload host with
    | ok db' =>
      rw [hread] at h
      exact (Option.some.inj (Except.ok.inj h)).symm
    | error failure =>
      rw [hread] at h
      cases h
  | replace entries => exact (Option.some.inj (Except.ok.inj h)).symm
  | modelChanged entries => cases h
  | clear => cases h

lemma updateLaws (host : Host) (db : CompileDatabase) (u : DatabaseUpdate) :
    UpdateLaws host db u := by
  have hcounted : ∀ n, (u.perform host db).2 = .ok (some n) →
      n = (u.perform host db).1.size ∧ n = (u.perform host db).1.sources.length := by
    intro n hn
    rw [length_sources]
    exact ⟨perform_count hn, perform_count hn⟩
  have hcleared : u = .clear → (u.perform host db).1.commands = Table.empty := by
    rintro rfl
    rfl
  rcases perform_cases host db u with ⟨entries, hentries, -, hok⟩ | ⟨failure, rfl, hread, hfail⟩
  · refine ⟨fun failure => ⟨fun h => absurd h (hok failure), ?_⟩,
      fun failure h => absurd h (hok failure), hcleared, hcounted⟩
    rintro ⟨rfl, hread⟩
    simp [DatabaseUpdate.entries?, hread, Except.toOption] at hentries
  · refine ⟨fun failure' => ?_, fun _ _ => ?_, hcleared, hcounted⟩
    · rw [hfail, hread]
      simp
    · rw [hfail]

lemma origin_perform : (u.perform host db).1.origin = db.origin := by
  rcases perform_cases host db u with ⟨entries, -, hdb, -⟩ | ⟨failure, -, -, hfail⟩
  · rw [hdb]
    rfl
  · rw [hfail]

lemma table_perform (h : db.commands = put.table db.origin) :
    (u.perform host db).1.commands = (put.next db.origin (host, u)).table db.origin := by
  unfold PutEntries.next
  rcases perform_cases host db u with ⟨entries, hentries, hdb, -⟩ | ⟨failure, rfl, hread, hfail⟩
  · simp only [hentries, hdb]
    rfl
  · have hnone : DatabaseUpdate.reload.entries? host db.origin = none := by
      rw [DatabaseUpdate.entries?, hread]
      rfl
    simp only [hnone, hfail, h]

lemma databaseAfter_spec (h : db.commands = put.table db.origin) (history : UpdateHistory) :
    (databaseAfter db history).origin = db.origin ∧
      (databaseAfter db history).commands = (lastPut db.origin put history).table db.origin := by
  -- along the history: the table is that of what was put in last, and the origin never changes
  induction history generalizing db put with
  | nil => exact ⟨rfl, h⟩
  | cons u rest ih =>
    have horigin : (u.2.perform u.1 db).1.origin = db.origin := origin_perform
    have htable : (u.2.perform u.1 db).1.commands = (put.next db.origin u).table db.origin :=
      table_perform h
    rw [← horigin] at htable
    obtain ⟨hrest, hcommands⟩ := ih htable
    rw [horigin] at hrest hcommands
    exact ⟨hrest, hcommands⟩

end

lemma entries_of_opening {host : Host} {opening : DatabaseOpening} {db : CompileDatabase}
    (h : opening.perform host = .ok db) :
    ∃ entries, opening.entries host = .ok entries ∧ db = .ofEntries host opening.origin entries := by
  cases opening with
  | load file =>
    cases hread : readEntries host file with
    | ok entries =>
      rw [DatabaseOpening.perform, CompileDatabase.load, hread] at h
      exact ⟨entries, hread, (Except.ok.inj h).symm⟩
    | error failure =>
      rw [DatabaseOpening.perform, CompileDatabase.load, hread] at h
      cases h
  | ofEntries origin entries => exact ⟨entries, rfl, (Except.ok.inj h).symm⟩

/-- After any updates, whatever happens to the files between them, a database holds the entries that
were put into it last and nothing else: under each key the invocation of the last entry for that
source. An update fails exactly if the file cannot be read, and then nothing changes. -/
theorem contents_after_updates (host : Host) (opening : DatabaseOpening) (db : CompileDatabase)
    (hopen : opening.perform host = .ok db) :
    ∃ entries, opening.entries host = .ok entries ∧ ∀ history : UpdateHistory,
      (databaseAfter db history).origin = opening.origin ∧
      Holds (databaseAfter db history) (lastPut opening.origin ⟨host, entries⟩ history) ∧
      ∀ (host' : Host) (u : DatabaseUpdate), UpdateLaws host' (databaseAfter db history) u := by
  obtain ⟨entries, hentries, rfl⟩ := entries_of_opening hopen
  refine ⟨entries, hentries, fun history => ?_⟩
  have htable : (CompileDatabase.ofEntries host opening.origin entries).commands =
      (PutEntries.mk host entries).table opening.origin := rfl
  obtain ⟨horigin, hcommands⟩ := databaseAfter_spec htable history
  refine ⟨horigin, holds_of_table ?_, fun host' u => updateLaws host' _ u⟩
  rw [horigin]
  exact hcommands

/-- A file is spelled in two ways. -/
def respelledEntries : List CompileEntry :=
  [entryOf "b.c", entryOf "a.c", entryOf "./b.c"]

lemma load_entryHost :
    CompileDatabase.load entryHost databaseFile =
      .ok (.ofEntries entryHost databaseFile [entryOf "main.c"]) :=
  congrArg (Except.map _) readEntries_entryHost

/-- The file is broken when it is read again, so that the database stays. Then it gets entries of
which two are for one source, and the file is broken still. -/
theorem contents_after_broken_reloads :
    ∃ db, (DatabaseOpening.load databaseFile).perform entryHost = .ok db ∧
      (∃ failure, (DatabaseUpdate.reload.perform brokenHost db).2 = .error failure) ∧
      Holds (databaseAfter db [(brokenHost, .reload)]) ⟨entryHost, [entryOf "main.c"]⟩ ∧
      Holds (databaseAfter db [(brokenHost, .reload), (brokenHost, .replace respelledEntries),
        (brokenHost, .reload)]) ⟨brokenHost, respelledEntries⟩ ∧
      (databaseAfter db [(brokenHost, .reload), (brokenHost, .replace respelledEntries),
        (brokenHost, .reload)]).size = 2 := by
  have hbroken : (readEntries brokenHost databaseFile).toOption = none := by decide +kernel
  obtain ⟨entries, hentries, hlaws⟩ :=
    contents_after_updates entryHost (.load databaseFile) _ load_entryHost
  obtain rfl := Except.ok.inj (hentries.symm.trans readEntries_entryHost)
  refine ⟨_, load_entryHost, ?_, ?_, ?_, ?_⟩
  · obtain ⟨-, -, hupdate⟩ := hlaws []
    cases hread : readEntries brokenHost databaseFile with
    | error failure =>
      exact ⟨failure, ((hupdate brokenHost .reload).fails_iff failure).mpr ⟨rfl, hread⟩⟩
    | ok entries => simp [hread, Except.toOption] at hbroken
  · obtain ⟨-, hholds, -⟩ := hlaws [(brokenHost, .reload)]
    simpa [lastPut, PutEntries.next, DatabaseUpdate.entries?, DatabaseOpening.origin, hbroken]
      using hholds
  · obtain ⟨-, hholds, -⟩ :=
      hlaws [(brokenHost, .reload), (brokenHost, .replace respelledEntries), (brokenHost, .reload)]
    simpa [lastPut, PutEntries.next, DatabaseUpdate.entries?, DatabaseOpening.origin, hbroken]
      using hholds
  · decide +kernel

end AsmExplorer.Proofs
