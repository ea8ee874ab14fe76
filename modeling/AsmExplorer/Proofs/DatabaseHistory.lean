import AsmExplorer.Database.Registry
import AsmExplorer.Proofs.ShellHost
import Mathlib.Data.Finset.Card
import Mathlib.Data.List.Induction
import Mathlib.Tactic.Lemma

/-!
# Histories of shared databases

A registry serves requests for databases in any order, and every request finds the host as it is at
that moment. A database is known by its number, to the registry and to everybody who holds it: what
a holder sees is what the registry has under that number. Numbers are given once, so that a database
with a number that none had before is a new one.

What a request can do is said once, in `Served`; the laws of histories follow from it.
-/

namespace AsmExplorer.Proofs

abbrev fileKey (host : Host) (file : Path) : List Component :=
  (Registry.keyPath host file).key

/-- What a registry is asked for, and what holders of databases do with them. -/
inductive DatabaseRequest where
  | getOrLoad (host : Host) (file : Path)
  | get (host : Host) (file : Path)
  | insert (host : Host) (file : Path) (id : Nat)
  | reload (host : Host) (file : Path)
  | remove (host : Host) (file : Path)
  | clear
  /-- A database is built elsewhere. -/
  | build (db : CompileDatabase)
  /-- A database gets other entries. -/
  | replace (host : Host) (id : Nat) (entries : List CompileEntry)

inductive DatabaseAnswer where
  | database (id : Option Nat)
  | reloaded (found : Bool)
  | failed (failure : Failure)
  | done
  deriving DecidableEq

namespace DatabaseRequest

/-- Whether a request asks for the database of a file. -/
def Asks (key : List Component) : DatabaseRequest → Prop
  | .getOrLoad host file => fileKey host file = key
  | .get host file => fileKey host file = key
  | _ => False

/-- Whether a request takes the database of a file out of use. -/
def Drops (key : List Component) : DatabaseRequest → Prop
  | .remove host file => fileKey host file = key
  | .clear => True
  | _ => False

/-- Whether a request can give a file another database than the one in use. -/
def Replaces (key : List Component) : DatabaseRequest → Prop
  | .insert host file _ => fileKey host file = key
  | .remove host file => fileKey host file = key
  | .clear => True
  | _ => False

/-- Whether a request with this answer has taken a database into use for a file. -/
def Registers (key : List Component) : DatabaseRequest → DatabaseAnswer → Prop
  | .getOrLoad host file, .database (some _) => fileKey host file = key
  | .insert host file _, .database (some _) => fileKey host file = key
  | _, _ => False

end DatabaseRequest

/-- Serves a request. Only a database that there is can be inserted. -/
def serve (r : Registry) : DatabaseRequest → Registry × DatabaseAnswer
  | .getOrLoad host file =>
    match r.getOrLoad host file with
    | (r, .ok id) => (r, .database (some id))
    | (r, .error failure) => (r, .failed failure)
  | .get host file => (r, .database (r.get? host file))
  | .insert host file id =>
    if id < r.databases.length then (r.insert host file id, .database (some id))
    else (r, .database none)
  | .reload host file =>
    match r.reload host file with
    | (r, .ok found) => (r, .reloaded found)
    | (r, .error failure) => (r, .failed failure)
  | .remove host file => ((r.remove host file).1, .database (r.remove host file).2)
  | .clear => (r.clear, .done)
  | .build db => ((r.add db).1, .database (some (r.add db).2))
  | .replace host id entries => (r.modify id fun db => db.replace host entries, .done)

def registryAfter (history : List DatabaseRequest) : Registry :=
  history.foldl (fun r q => (serve r q).1) .empty

/-- What a request is answered after a history. -/
def answerAfter (history : List DatabaseRequest) (q : DatabaseRequest) : DatabaseAnswer :=
  (serve (registryAfter history) q).2

/-- Whether a history has taken a database into use for a file, and none out of it since. -/
def InUse (history : List DatabaseRequest) (key : List Component) : Prop :=
  ∃ before q later, history = before ++ q :: later ∧ q.Registers key (answerAfter before q) ∧
    ∀ x ∈ later, ¬x.Drops key

/-! ### Tables and databases -/

lemma database?_modify (r : Registry) (id x : Nat) (f : CompileDatabase → CompileDatabase) :
    (r.modify id f).database? x = if x = id then (r.database? x).map f else r.database? x := by
  simp only [Registry.database?, Registry.modify, List.getElem?_modify]
  by_cases hx : x = id
  · simp [hx]
  · simp [hx, Ne.symm hx]

lemma database?_add (r : Registry) (db : CompileDatabase) (x : Nat) :
    (r.add db).1.database? x = if x = r.databases.length then some db else r.database? x := by
  simp only [Registry.database?, Registry.add]
  rcases Nat.lt_trichotomy x r.databases.length with hx | hx | hx
  · rw [if_neg (Nat.ne_of_lt hx), List.getElem?_append_left hx]
  · simp [hx]
  · rw [if_neg (Nat.ne_of_gt hx), List.getElem?_append_right (Nat.le_of_lt hx),
      List.getElem?_eq_none (by simp; omega), List.getElem?_eq_none (Nat.le_of_lt hx)]

lemma database?_clearAll (r : Registry) (ids : List Nat) (x : Nat) :
    (ids.foldl (fun r id => r.modify id CompileDatabase.clear) r).database? x =
      if x ∈ ids then (r.database? x).map CompileDatabase.clear else r.database? x := by
  induction ids generalizing r with
  | nil => simp
  | cons id rest ih =>
    rw [List.foldl_cons, ih, database?_modify]
    by_cases hx : x = id
    · subst hx
      cases r.database? x <;> simp [CompileDatabase.clear]
    · simp [hx]

/-- Every database in use is there. -/
def Valid (r : Registry) : Prop :=
  ∀ key id, r.table.get? key = some id → ∃ db, r.database? id = some db

lemma lt_length_of_database {r : Registry} {id : Nat} {db : CompileDatabase}
    (h : r.database? id = some db) : id < r.databases.length :=
  (List.getElem?_eq_some_iff.mp h).1

section

variable {r : Registry} {id : Nat}

lemma valid_modify (hr : Valid r) (id : Nat) (f : CompileDatabase → CompileDatabase) :
    Valid (r.modify id f) := by
  intro key x hx
  obtain ⟨db, hdb⟩ := hr key x hx
  rw [database?_modify, hdb]
  split
  · exact ⟨f db, rfl⟩
  · exact ⟨db, rfl⟩

lemma valid_add (hr : Valid r) (db : CompileDatabase) : Valid (r.add db).1 := by
  intro key x hx
  obtain ⟨db', hdb'⟩ := hr key x hx
  have hne : x ≠ r.databases.length := Nat.ne_of_lt (lt_length_of_database hdb')
  exact ⟨db', (database?_add r db x).trans ((if_neg hne).trans hdb')⟩

lemma valid_insert (hr : Valid r) (hid : ∃ db, r.database? id = some db) (host : Host)
    (file : Path) : Valid (r.insert host file id) := by
  intro key x hx
  have hget : (if key = fileKey host file then some id else r.table.get? key) = some x :=
    (Table.get?_insert ..).symm.trans hx
  split at hget
  · exact Option.some.inj hget ▸ hid
  · exact hr key x hget

lemma valid_load (hr : Valid r) (db : CompileDatabase) (host : Host) (file : Path) :
    Valid ((r.add db).1.insert host file r.databases.length) :=
  valid_insert (valid_add hr db) ⟨db, (database?_add r db _).trans (if_pos rfl)⟩ host file

/-- A file without a database gets one, and the others keep theirs. -/
lemma get?_insert_of_unused {host : Host} {file : Path} {key : List Component} {x : Nat}
    (hunused : r.get? host file = none) (hget : r.table.get? key = some x) (id : Nat) :
    (r.insert host file id).table.get? key = some x := by
  have hne : key ≠ fileKey host file := by
    rintro rfl
    exact absurd (hunused.symm.trans hget) (Option.some_ne_none x).symm
  exact (Table.get?_insert ..).trans ((if_neg hne).trans hget)

end

/-! ### What a request does -/

section

variable {r : Registry} {host : Host} {file : Path} {id : Nat} {db : CompileDatabase}
  {failure : Failure} {entries : List CompileEntry}

lemma serve_getOrLoad_of_used (h : r.get? host file = some id) :
    serve r (.getOrLoad host file) = (r, .database (some id)) := by
  simp [serve, Registry.getOrLoad, h]

lemma serve_getOrLoad_of_loaded (h : r.get? host file = none)
    (hload : CompileDatabase.load host (Registry.keyPath host file) = .ok db) :
    serve r (.getOrLoad host file) =
      ((r.add db).1.insert host file r.databases.length,
        .database (some r.databases.length)) := by
  simp [serve, Registry.getOrLoad, Registry.adopt, h, hload, Registry.add]

lemma serve_getOrLoad_of_failed (h : r.get? host file = none)
    (hload : CompileDatabase.load host (Registry.keyPath host file) = .error failure) :
    serve r (.getOrLoad host file) = (r, .failed failure) := by
  simp [serve, Registry.getOrLoad, h, hload]

lemma serve_reload_of_unused (h : r.get? host file = none) :
    serve r (.reload host file) = (r, .reloaded false) := by
  simp [serve, Registry.reload, h]

lemma serve_reload_of_read (h : r.get? host file = some id) (hdb : r.database? id = some db)
    (hread : readEntries host db.origin = .ok entries) :
    serve r (.reload host file) =
      (r.modify id fun db => db.replace host entries, .reloaded true) := by
  simp [serve, Registry.reload, h, hdb, hread]

lemma serve_reload_of_failed (h : r.get? host file = some id) (hdb : r.database? id = some db)
    (hread : readEntries host db.origin = .error failure) :
    serve r (.reload host file) = (r, .failed failure) := by
  simp [serve, Registry.reload, h, hdb, hread]

lemma serve_remove_of_unused (h : r.get? host file = none) :
    serve r (.remove host file) = (r, .database none) := by
  simp [serve, Registry.remove, h]

lemma serve_remove_of_used (h : r.get? host file = some id) :
    serve r (.remove host file) =
      ({ r with table := r.table.erase (fileKey host file) }.modify id CompileDatabase.clear,
        .database (some id)) := by
  simp [serve, Registry.remove, h]

end

/-- What serving a request can do to a registry. -/
inductive Served (r : Registry) : DatabaseRequest → Registry → DatabaseAnswer → Prop where
  /-- A request that asks for a database in use, or fails, or has nothing to do. -/
  | nothing (q : DatabaseRequest) (a : DatabaseAnswer)
    (registers : ∀ key, q.Registers key a → ∃ id, r.table.get? key = some id)
    (drops : ∀ key, q.Drops key → r.table.get? key = none) : Served r q r a
  | load {host : Host} {file : Path} {db : CompileDatabase}
    (unused : r.get? host file = none)
    (loaded : CompileDatabase.load host (Registry.keyPath host file) = .ok db) :
    Served r (.getOrLoad host file) ((r.add db).1.insert host file r.databases.length)
      (.database (some r.databases.length))
  | insert {host : Host} {file : Path} {id : Nat} (hid : id < r.databases.length) :
    Served r (.insert host file id) (r.insert host file id) (.database (some id))
  | reload {host : Host} {file : Path} {id : Nat} {db : CompileDatabase}
    {entries : List CompileEntry} (used : r.get? host file = some id)
    (there : r.database? id = some db) (read : readEntries host db.origin = .ok entries) :
    Served r (.reload host file) (r.modify id fun db => db.replace host entries) (.reloaded true)
  | remove {host : Host} {file : Path} {id : Nat} (used : r.get? host file = some id) :
    Served r (.remove host file)
      ({ r with table := r.table.erase (fileKey host file) }.modify id CompileDatabase.clear)
      (.database (some id))
  | clear : Served r .clear r.clear .done
  | build (db : CompileDatabase) :
    Served r (.build db) (r.add db).1 (.database (some r.databases.length))
  | replace (host : Host) (id : Nat) (entries : List CompileEntry) :
    Served r (.replace host id entries) (r.modify id fun db => db.replace host entries) .done

lemma served_serve {r : Registry} (hr : Valid r) (q : DatabaseRequest) :
    Served r q (serve r q).1 (serve r q).2 := by
  cases q with
  | getOrLoad host file =>
    cases hget : r.get? host file with
    | some id =>
      rw [serve_getOrLoad_of_used hget]
      exact .nothing _ _ (fun key hkey => ⟨id, hkey ▸ hget⟩) fun _ => False.elim
    | none =>
      cases hload : CompileDatabase.load host (Registry.keyPath host file) with
      | ok db =>
        rw [serve_getOrLoad_of_loaded hget hload]
        exact .load hget hload
      | error failure =>
        rw [serve_getOrLoad_of_failed hget hload]
        exact .nothing _ _ (fun _ => False.elim) fun _ => False.elim
  | get host file => exact .nothing _ _ (fun _ => False.elim) fun _ => False.elim
  | insert host file id =>
    by_cases hid : id < r.databases.length
    · simp only [serve, if_pos hid]
      exact .insert hid
    · simp only [serve, if_neg hid]
      exact .nothing _ _ (fun _ => False.elim) fun _ => False.elim
  | reload host file =>
    cases hget : r.get? host file with
    | none =>
      rw [serve_reload_of_unused hget]
      exact .nothing _ _ (fun _ => False.elim) fun _ => False.elim
    | some id =>
      obtain ⟨db, hdb⟩ := hr _ _ hget
      cases hread : readEntries host db.origin with
      | ok entries =>
        rw [serve_reload_of_read hget hdb hread]
        exact .reload hget hdb hread
      | error failure =>
        rw [serve_reload_of_failed hget hdb hread]
        exact .nothing _ _ (fun _ => False.elim) fun _ => False.elim
  | remove host file =>
    cases hget : r.get? host file with
    | none =>
      rw [serve_remove_of_unused hget]
      exact .nothing _ _ (fun _ => False.elim) fun key hkey => hkey ▸ hget
    | some id =>
      rw [serve_remove_of_used hget]
      exact .remove hget
  | clear => exact .clear
  | build db => exact .build db
  | replace host id entries => exact .replace host id entries

section

variable {r t : Registry} {q : DatabaseRequest} {a : DatabaseAnswer} {key : List Component}
  {id : Nat}

lemma valid_of_served (hr : Valid r) (h : Served r q t a) : Valid t := by
  cases h with
  | nothing => exact hr
  | load unused loaded => exact valid_load hr _ _ _
  | insert hid => exact valid_insert hr ⟨_, List.getElem?_eq_getElem hid⟩ _ _
  | reload used there read => exact valid_modify hr _ _
  | @remove host file id used =>
    refine valid_modify (fun key x hx => ?_) _ _
    have hget : (if key = fileKey host file then none else r.table.get? key) = some x :=
      (Table.get?_erase ..).symm.trans hx
    split at hget
    · exact absurd hget (Option.some_ne_none x).symm
    · exact hr key x hget
  | clear => exact fun key x hx => absurd hx (Option.some_ne_none x).symm
  | build db => exact valid_add hr db
  | replace host id entries => exact valid_modify hr _ _

/-- A file keeps its database through requests that do not replace it. -/
lemma get?_of_served (h : Served r q t a) (hkeep : ¬q.Replaces key)
    (hget : r.table.get? key = some id) : t.table.get? key = some id := by
  cases h with
  | nothing => exact hget
  | load unused loaded => exact get?_insert_of_unused unused hget _
  | insert hid => exact (Table.get?_insert ..).trans ((if_neg (Ne.symm hkeep)).trans hget)
  | reload used there read => exact hget
  | remove used => exact (Table.get?_erase ..).trans ((if_neg (Ne.symm hkeep)).trans hget)
  | clear => exact absurd trivial hkeep
  | build db => exact hget
  | replace host id entries => exact hget

/-- A file has a database in use after a request that took one into use for it, or if it had one
that the request did not drop. -/
lemma used_of_served (h : Served r q t a) :
    (∃ id, t.table.get? key = some id) ↔
      q.Registers key a ∨ (∃ id, r.table.get? key = some id) ∧ ¬q.Drops key := by
  cases h with
  | nothing q a registers drops =>
    constructor
    · intro hused
      refine Or.inr ⟨hused, fun hdrop => ?_⟩
      obtain ⟨id, hid⟩ := hused
      exact absurd ((drops key hdrop).symm.trans hid) (Option.some_ne_none id).symm
    · rintro (hregisters | ⟨hused, -⟩)
      · exact registers key hregisters
      · exact hused
  | @load host file db unused loaded =>
    have hget : (((r.add db).1.insert host file r.databases.length).table.get? key) =
        if key = fileKey host file then some r.databases.length else r.table.get? key :=
      Table.get?_insert ..
    rw [hget]
    by_cases hkey : key = fileKey host file
    · simp [hkey, DatabaseRequest.Registers]
    · simp [hkey, Ne.symm hkey, DatabaseRequest.Registers, DatabaseRequest.Drops]
  | @insert host file id hid =>
    have hget : ((r.insert host file id).table.get? key) =
        if key = fileKey host file then some id else r.table.get? key := Table.get?_insert ..
    rw [hget]
    by_cases hkey : key = fileKey host file
    · simp [hkey, DatabaseRequest.Registers]
    · simp [hkey, Ne.symm hkey, DatabaseRequest.Registers, DatabaseRequest.Drops]
  | reload used there read =>
    simp [Registry.modify, DatabaseRequest.Registers, DatabaseRequest.Drops]
  | @remove host file id used =>
    have hget : ({ r with table := r.table.erase (fileKey host file) }.modify id
        CompileDatabase.clear).table.get? key =
        if key = fileKey host file then none else r.table.get? key := Table.get?_erase ..
    rw [hget]
    by_cases hkey : key = fileKey host file
    · simp [hkey, DatabaseRequest.Registers, DatabaseRequest.Drops]
    · simp [hkey, Ne.symm hkey, DatabaseRequest.Registers, DatabaseRequest.Drops]
  | clear => simp [Registry.clear, DatabaseRequest.Registers, DatabaseRequest.Drops]
  | build db => simp [Registry.add, DatabaseRequest.Registers, DatabaseRequest.Drops]
  | replace host id entries =>
    simp [Registry.modify, DatabaseRequest.Registers, DatabaseRequest.Drops]

lemma eq_of_served_failed {failure : Failure} (h : Served r q t (.failed failure)) : t = r := by
  cases h
  rfl

end

/-! ### What a history leads to -/

section

variable (history : List DatabaseRequest) {key : List Component} {id : Nat} {q : DatabaseRequest}

lemma registryAfter_append_singleton (q : DatabaseRequest) :
    registryAfter (history ++ [q]) = (serve (registryAfter history) q).1 := by
  simp only [registryAfter, List.foldl_append, List.foldl_cons, List.foldl_nil]

lemma valid_registryAfter : Valid (registryAfter history) := by
  induction history using List.reverseRecOn with
  | nil => exact fun key id h => absurd h (Option.some_ne_none id).symm
  | append_singleton history q ih =>
    rw [registryAfter_append_singleton]
    exact valid_of_served ih (served_serve ih q)

lemma served_after (q : DatabaseRequest) :
    Served (registryAfter history) q (registryAfter (history ++ [q])) (answerAfter history q) := by
  rw [registryAfter_append_singleton]
  exact served_serve (valid_registryAfter history) q

lemma inUse_append_singleton (q : DatabaseRequest) :
    InUse (history ++ [q]) key ↔
      q.Registers key (answerAfter history q) ∨ InUse history key ∧ ¬q.Drops key := by
  constructor
  · rintro ⟨before, x, later, heq, hregisters, hlater⟩
    rcases List.eq_nil_or_concat later with rfl | ⟨rest, y, rfl⟩
    · obtain ⟨rfl, hx⟩ := List.append_inj' heq rfl
      exact Or.inl (List.singleton_inj.mp hx ▸ hregisters)
    · rw [List.concat_eq_append, ← List.cons_append, ← List.append_assoc] at heq
      obtain ⟨rfl, hy⟩ := List.append_inj' heq rfl
      obtain rfl := List.singleton_inj.mp hy
      refine Or.inr ⟨⟨before, x, rest, rfl, hregisters, fun z hz => hlater z ?_⟩, hlater q ?_⟩
      · simp [hz]
      · simp
  · rintro (hregisters | ⟨⟨before, x, later, rfl, hregisters, hlater⟩, hdrop⟩)
    · exact ⟨history, q, [], rfl, hregisters, fun _ h => absurd h List.not_mem_nil⟩
    · refine ⟨before, x, later ++ [q], by simp, hregisters, fun y hy => ?_⟩
      rcases List.mem_append.mp hy with hy | hy
      · exact hlater y hy
      · exact List.mem_singleton.mp hy ▸ hdrop

/-- The table holds exactly the files that the history has left with a database. -/
lemma inUse_iff : InUse history key ↔ ∃ id, (registryAfter history).table.get? key = some id := by
  induction history using List.reverseRecOn with
  | nil =>
    constructor
    · rintro ⟨before, q, later, heq, -⟩
      exact absurd heq.symm (List.append_ne_nil_of_right_ne_nil _ (List.cons_ne_nil q later))
    · rintro ⟨id, h⟩
      exact absurd h (Option.some_ne_none id).symm
  | append_singleton history q ih =>
    rw [inUse_append_singleton, ih, used_of_served (served_after history q)]

lemma get?_registryAfter_append {later : List DatabaseRequest}
    (hkeep : ∀ q ∈ later, ¬q.Replaces key)
    (hget : (registryAfter history).table.get? key = some id) :
    (registryAfter (history ++ later)).table.get? key = some id := by
  induction later using List.reverseRecOn with
  | nil => rwa [List.append_nil]
  | append_singleton later q ih =>
    rw [← List.append_assoc]
    refine get?_of_served (served_after (history ++ later) q) (hkeep q (by simp)) (ih ?_)
    exact fun x hx => hkeep x (List.mem_append_left _ hx)

/-- A request that asks for a database in use gets that one. -/
lemma answerAfter_of_used (hasks : q.Asks key)
    (hget : (registryAfter history).table.get? key = some id) :
    answerAfter history q = .database (some id) := by
  cases q with
  | getOrLoad host file =>
    obtain rfl : fileKey host file = key := hasks
    rw [answerAfter, serve_getOrLoad_of_used hget]
  | get host file =>
    obtain rfl : fileKey host file = key := hasks
    exact congrArg DatabaseAnswer.database hget
  | insert | reload | remove | clear | build | replace => exact hasks.elim

/-- The database that a request got is in use afterwards. -/
lemma get?_of_answerAfter (hasks : q.Asks key)
    (hanswer : answerAfter history q = .database (some id)) :
    (registryAfter (history ++ [q])).table.get? key = some id := by
  rw [registryAfter_append_singleton]
  cases q with
  | getOrLoad host file =>
    obtain rfl : fileKey host file = key := hasks
    rw [answerAfter] at hanswer
    cases hget : (registryAfter history).get? host file with
    | some x =>
      rw [serve_getOrLoad_of_used hget] at hanswer ⊢
      exact hget.trans (DatabaseAnswer.database.inj hanswer)
    | none =>
      cases hload : CompileDatabase.load host (Registry.keyPath host file) with
      | ok db =>
        rw [serve_getOrLoad_of_loaded hget hload] at hanswer ⊢
        refine (Table.get?_insert ..).trans ((if_pos rfl).trans ?_)
        exact DatabaseAnswer.database.inj hanswer
      | error failure =>
        rw [serve_getOrLoad_of_failed hget hload] at hanswer
        exact DatabaseAnswer.noConfusion hanswer
  | get host file =>
    obtain rfl : fileKey host file = key := hasks
    exact DatabaseAnswer.database.inj hanswer
  | insert | reload | remove | clear | build | replace => exact hasks.elim

end

/-! ### The laws -/

/-- The mapping of some entries that were read for a database on a host. -/
abbrev mappingOf (host : Host) (origin : Path) (entries : List CompileEntry) :
    Table (List Component) Invocation :=
  CompileDatabase.tableOf host (CompileDatabase.baseOf host origin) entries

/-- What a request does to the table and to the databases that others hold. -/
structure ServingLaws (r : Registry) : Prop where
  inserted : ∀ host file id, id < r.databases.length →
    ∃ t, serve r (.insert host file id) = (t, .database (some id)) ∧
      (∀ key, t.table.get? key = if key = fileKey host file then some id else r.table.get? key) ∧
      ∀ x, t.database? x = r.database? x
  /-- A reload that succeeds gives the database in use the entries that its file has now. -/
  reloaded : ∀ host file t, serve r (.reload host file) = (t, .reloaded true) →
    ∃ id db entries, r.table.get? (fileKey host file) = some id ∧ r.database? id = some db ∧
      readEntries host db.origin = .ok entries ∧ t.table = r.table ∧
      ∀ x, t.database? x =
        if x = id then some ⟨db.origin, mappingOf host db.origin entries⟩ else r.database? x
  reloads : ∀ host file id db entries, r.table.get? (fileKey host file) = some id →
    r.database? id = some db → readEntries host db.origin = .ok entries →
      (serve r (.reload host file)).2 = .reloaded true
  removed : ∀ host file id, r.table.get? (fileKey host file) = some id →
    ∃ db t, r.database? id = some db ∧ serve r (.remove host file) = (t, .database (some id)) ∧
      (∀ key, t.table.get? key = if key = fileKey host file then none else r.table.get? key) ∧
      ∀ x, t.database? x = if x = id then some ⟨db.origin, Table.empty⟩ else r.database? x
  /-- Without a database in use for the file there is nothing to reload or to remove. -/
  absent : ∀ host file, r.table.get? (fileKey host file) = none →
    serve r (.reload host file) = (r, .reloaded false) ∧
      serve r (.remove host file) = (r, .database none)
  cleared : ∀ x db, r.database? x = some db →
    ((∃ key, r.table.get? key = some x) →
      (serve r .clear).1.database? x = some ⟨db.origin, Table.empty⟩) ∧
    ((¬∃ key, r.table.get? key = some x) → (serve r .clear).1.database? x = some db)
  failed : ∀ q t failure, serve r q = (t, .failed failure) → t = r

lemma servingLaws_of_valid {r : Registry} (hr : Valid r) : ServingLaws r := by
  refine ⟨?_, ?_, ?_, ?_, ?_, ?_, ?_⟩
  · intro host file id hid
    exact ⟨_, if_pos hid, fun key => Table.get?_insert .., fun x => rfl⟩
  · intro host file t hserve
    cases hget : r.get? host file with
    | none =>
      rw [serve_reload_of_unused hget] at hserve
      exact absurd (Prod.mk.inj hserve).2 (by simp)
    | some id =>
      obtain ⟨db, hdb⟩ := hr _ _ hget
      cases hread : readEntries host db.origin with
      | error failure =>
        rw [serve_reload_of_failed hget hdb hread] at hserve
        exact absurd (Prod.mk.inj hserve).2 (by simp)
      | ok entries =>
        rw [serve_reload_of_read hget hdb hread] at hserve
        obtain rfl := (Prod.mk.inj hserve).1
        refine ⟨id, db, entries, hget, hdb, hread, rfl, fun x => ?_⟩
        rw [database?_modify]
        split
        · next hx =>
          rw [hx, hdb]
          rfl
        · rfl
  · intro host file id db entries hget hdb hread
    rw [serve_reload_of_read hget hdb hread]
  · intro host file id hget
    obtain ⟨db, hdb⟩ := hr _ _ hget
    refine ⟨db, _, hdb, serve_remove_of_used hget, fun key => Table.get?_erase .., fun x => ?_⟩
    rw [database?_modify]
    split
    · next hx =>
      rw [hx]
      exact congrArg (Option.map CompileDatabase.clear) hdb
    · rfl
  · exact fun host file hget => ⟨serve_reload_of_unused hget, serve_remove_of_unused hget⟩
  · intro x db hdb
    have hclear : (serve r .clear).1.database? x =
        if x ∈ r.table.values then (r.database? x).map CompileDatabase.clear
        else r.database? x := database?_clearAll r _ x
    rw [hclear, hdb, ← Table.mem_values_iff]
    exact ⟨fun hused => if_pos hused, fun hunused => if_neg hunused⟩
  · intro q t failure hserve
    have hserved := served_serve hr q
    rw [hserve] at hserved
    exact eq_of_served_failed hserved

/-- The laws of shared databases after a history of requests. -/
structure SharingLaws (history : List DatabaseRequest) : Prop where
  /-- Requests for files with one key get one database, unless it was replaced in between. -/
  shared : ∀ key a between b id, a.Asks key → b.Asks key → (∀ q ∈ between, ¬q.Replaces key) →
    answerAfter history a = .database (some id) →
    answerAfter (history ++ a :: between) b = .database (some id)
  serving : ServingLaws (registryAfter history)
  registered : ∀ key, InUse history key ↔
    ∃ id, (registryAfter history).table.get? key = some id
  dropped : ∀ q key, q.Drops key → ¬InUse (history ++ [q]) key
  /-- A file without a database in use gets a new one, with the entries that the file has now. -/
  rebuilt : ∀ host file entries, ¬InUse history (fileKey host file) →
    readEntries host (Registry.keyPath host file) = .ok entries →
      ∃ t id, serve (registryAfter history) (.getOrLoad host file) = (t, .database (some id)) ∧
        (registryAfter history).database? id = none ∧
        (∀ key, t.table.get? key =
          if key = fileKey host file then some id else (registryAfter history).table.get? key) ∧
        ∀ x, t.database? x =
          if x = id then
            some ⟨Registry.keyPath host file, mappingOf host (Registry.keyPath host file) entries⟩
          else (registryAfter history).database? x
  unreadable : ∀ host file failure, ¬InUse history (fileKey host file) →
    readEntries host (Registry.keyPath host file) = .error failure →
      serve (registryAfter history) (.getOrLoad host file) =
        (registryAfter history, .failed failure)
  size_eq : ∃ keys : Finset (List Component), (∀ key, key ∈ keys ↔ InUse history key) ∧
    (registryAfter history).size = keys.card

/-- In every history, while files change, a file has at most one database in use, which everybody who
asked for it shares until it is replaced. -/
theorem sharingLaws_of_history (history : List DatabaseRequest) : SharingLaws history := by
  have hunused : ∀ host file, ¬InUse history (fileKey host file) →
      (registryAfter history).get? host file = none := by
    intro host file h
    rw [inUse_iff, not_exists] at h
    exact Option.eq_none_iff_forall_ne_some.mpr h
  refine ⟨?_, servingLaws_of_valid (valid_registryAfter history), fun _ => inUse_iff history, ?_,
    ?_, ?_, ?_⟩
  · intro key a between b id ha hb hkeep hanswer
    have hget := get?_of_answerAfter history ha hanswer
    have hkept := get?_registryAfter_append (history ++ [a]) hkeep hget
    rw [List.append_assoc, List.singleton_append] at hkept
    exact answerAfter_of_used _ hb hkept
  · intro q key hdrop hused
    rcases (inUse_append_singleton history q).mp hused with hregisters | ⟨-, hkeep⟩
    · cases q with
      | remove | clear => exact hregisters
      | getOrLoad | get | insert | reload | build | replace => exact hdrop
    · exact hkeep hdrop
  · intro host file entries h hread
    have hload : CompileDatabase.load host (Registry.keyPath host file) =
        .ok (.ofEntries host (Registry.keyPath host file) entries) := by
      rw [CompileDatabase.load, hread]
      rfl
    refine ⟨_, _, serve_getOrLoad_of_loaded (hunused host file h) hload, ?_,
      fun key => Table.get?_insert .., database?_add _ _⟩
    exact List.getElem?_eq_none (Nat.le_refl _)
  · intro host file failure h hread
    have hload : CompileDatabase.load host (Registry.keyPath host file) = .error failure := by
      rw [CompileDatabase.load, hread]
      rfl
    exact serve_getOrLoad_of_failed (hunused host file h) hload
  · refine ⟨(registryAfter history).table.keys.toFinset, fun key => ?_, ?_⟩
    · rw [inUse_iff, List.mem_toFinset, Table.keys, List.mem_map]
      constructor
      · rintro ⟨⟨key, id⟩, hmem, rfl⟩
        exact ⟨id, Table.mem_pairs_iff.mp hmem⟩
      · rintro ⟨id, hid⟩
        exact ⟨(key, id), Table.mem_pairs_iff.mpr hid, rfl⟩
    · have hcard := List.toFinset_card_of_nodup (registryAfter history).table.nodup
      rw [List.length_map] at hcard
      exact hcard.symm

/-! ### One file that changes -/

def entryText (file : String) : Text :=
  "[\x7b\"directory\": \"/\", \"file\": \"".toList ++ file.toList ++
    "\", \"arguments\": [\"cc\"]\x7d]".toList

def entryOf (file : String) : CompileEntry :=
  { directory := .ofString "/", file := .ofString file, arguments := some ["cc".toList] }

def databaseHost (t : Text) : Host :=
  shellHost [("compile_commands.json", .file (Utf8.encode t) false)]

def databaseFile : Path := .ofString "/compile_commands.json"

def emptyHost : Host := databaseHost "[]".toList

def entryHost : Host := databaseHost (entryText "main.c")

def brokenHost : Host := databaseHost "not json".toList

lemma readEntries_emptyHost :
    readEntries emptyHost (Registry.keyPath emptyHost databaseFile) = .ok [] :=
  eq_ok_of_toOption (by decide +kernel)

lemma readEntries_entryHost :
    readEntries entryHost (Registry.keyPath emptyHost databaseFile) = .ok [entryOf "main.c"] :=
  eq_ok_of_toOption (by decide +kernel)

/-- A file is loaded while it lists nothing and read again when it lists a source. Its database is
dropped, made anew and dropped again. -/
def changingFile : List DatabaseRequest :=
  [.getOrLoad emptyHost databaseFile, .reload entryHost databaseFile, .remove entryHost databaseFile,
    .getOrLoad entryHost databaseFile, .clear]

/-- The registry after the first requests. -/
def changingFileAfter (n : Nat) : Registry := registryAfter (changingFile.take n)

lemma exists_serve {r : Registry} {q : DatabaseRequest} {a : DatabaseAnswer}
    (h : (serve r q).2 = a) : ∃ t, serve r q = (t, a) :=
  ⟨(serve r q).1, by rw [← h]⟩

lemma changingFileAfter_succ {n : Nat} {q : DatabaseRequest}
    (h : changingFile.take (n + 1) = changingFile.take n ++ [q]) :
    changingFileAfter (n + 1) = (serve (changingFileAfter n) q).1 := by
  rw [changingFileAfter, h, registryAfter_append_singleton]
  rfl

/-- The mapping with the one source that the file lists. -/
def listedMapping : Table (List Component) Invocation :=
  Table.empty.insert [.root, .name "main.c".toList]
    { source := .ofString "/main.c"
      directory := .ofString "/"
      executable := "cc".toList
      arguments := [] }

lemma mappingOf_entry : mappingOf entryHost databaseFile [entryOf "main.c"] = listedMapping := by
  have hpairs : (mappingOf entryHost databaseFile [entryOf "main.c"]).pairs =
      listedMapping.pairs := by decide +kernel
  exact (Table.mk.injEq _ _ _ _).mpr hpairs

lemma keyPath_emptyHost : Registry.keyPath emptyHost databaseFile = databaseFile := by
  decide +kernel

lemma keyPath_entryHost : Registry.keyPath entryHost databaseFile = databaseFile := by
  decide +kernel

lemma fileKey_entryHost : fileKey entryHost databaseFile = fileKey emptyHost databaseFile := by
  rw [fileKey, fileKey, keyPath_emptyHost, keyPath_entryHost]

lemma readEntries_listed : readEntries entryHost databaseFile = .ok [entryOf "main.c"] := by
  have hread := readEntries_entryHost
  rwa [keyPath_emptyHost] at hread

lemma changingFile_loaded (h : SharingLaws (changingFile.take 0)) :
    (changingFileAfter 1).database? 0 = some ⟨databaseFile, Table.empty⟩ ∧
      (changingFileAfter 1).table.get? (fileKey entryHost databaseFile) = some 0 := by
  have hunused : ¬InUse (changingFile.take 0) (fileKey emptyHost databaseFile) := by
    rw [h.registered]
    rintro ⟨id, hid⟩
    cases hid
  obtain ⟨t, id, hserve, -, htable, hdatabase⟩ :=
    h.rebuilt emptyHost databaseFile [] hunused readEntries_emptyHost
  have hanswer : (serve (changingFileAfter 0) (.getOrLoad emptyHost databaseFile)).2 =
      .database (some 0) := by decide +kernel
  obtain rfl : changingFileAfter 1 = t :=
    (changingFileAfter_succ rfl).trans (congrArg Prod.fst hserve)
  obtain rfl : 0 = id := by
    have hid := hanswer.symm.trans (congrArg Prod.snd hserve)
    simpa using hid
  refine ⟨(hdatabase 0).trans ?_, (htable _).trans (if_pos fileKey_entryHost)⟩
  rw [if_pos rfl, keyPath_emptyHost]
  rfl

lemma changingFile_reloaded (h : ServingLaws (changingFileAfter 1))
    (hdatabase : (changingFileAfter 1).database? 0 = some ⟨databaseFile, Table.empty⟩)
    (hused : (changingFileAfter 1).table.get? (fileKey entryHost databaseFile) = some 0) :
    (changingFileAfter 2).database? 0 = some ⟨databaseFile, listedMapping⟩ ∧
      (changingFileAfter 2).table.get? (fileKey entryHost databaseFile) = some 0 := by
  have hanswer := h.reloads entryHost databaseFile 0 ⟨databaseFile, Table.empty⟩
    [entryOf "main.c"] hused hdatabase readEntries_listed
  obtain ⟨t, hserve⟩ : ∃ t, serve (changingFileAfter 1) (.reload entryHost databaseFile) =
      (t, .reloaded true) := exists_serve hanswer
  obtain rfl : changingFileAfter 2 = t :=
    (changingFileAfter_succ rfl).trans (congrArg Prod.fst hserve)
  obtain ⟨id, db, entries, hget, hdb, hentries, htable, hafter⟩ :=
    h.reloaded entryHost databaseFile _ hserve
  obtain rfl := Option.some.inj (hused.symm.trans hget)
  obtain rfl := Option.some.inj (hdatabase.symm.trans hdb)
  obtain rfl := Except.ok.inj (readEntries_listed.symm.trans hentries)
  rw [← mappingOf_entry, htable]
  exact ⟨(hafter 0).trans (if_pos rfl), hused⟩

lemma changingFile_unreadable (h : ServingLaws (changingFileAfter 2)) :
    (serve (changingFileAfter 2) (.reload brokenHost databaseFile)).1 = changingFileAfter 2 := by
  have hanswer : (serve (changingFileAfter 2) (.reload brokenHost databaseFile)).2 =
      .failed (.malformedDatabase databaseFile) := by decide +kernel
  obtain ⟨t, hserve⟩ : ∃ t, serve (changingFileAfter 2) (.reload brokenHost databaseFile) =
      (t, .failed (.malformedDatabase databaseFile)) := exists_serve hanswer
  exact (congrArg Prod.fst hserve).trans (h.failed _ t _ hserve)

lemma changingFile_removed (h : ServingLaws (changingFileAfter 2))
    (hdatabase : (changingFileAfter 2).database? 0 = some ⟨databaseFile, listedMapping⟩)
    (hused : (changingFileAfter 2).table.get? (fileKey entryHost databaseFile) = some 0) :
    (changingFileAfter 3).database? 0 = some ⟨databaseFile, Table.empty⟩ ∧
      (changingFileAfter 3).table.get? (fileKey entryHost databaseFile) = none := by
  obtain ⟨db, t, hdb, hserve, htable, hafter⟩ := h.removed entryHost databaseFile 0 hused
  obtain rfl : changingFileAfter 3 = t :=
    (changingFileAfter_succ rfl).trans (congrArg Prod.fst hserve)
  obtain rfl := Option.some.inj (hdatabase.symm.trans hdb)
  exact ⟨(hafter 0).trans (if_pos rfl), (htable _).trans (if_pos rfl)⟩

lemma changingFile_loaded_again (h : SharingLaws (changingFile.take 3))
    (hdatabase : (changingFileAfter 3).database? 0 = some ⟨databaseFile, Table.empty⟩)
    (hunused : (changingFileAfter 3).table.get? (fileKey entryHost databaseFile) = none) :
    ∃ id, id ≠ 0 ∧ (changingFileAfter 4).database? 0 = some ⟨databaseFile, Table.empty⟩ ∧
      (changingFileAfter 4).database? id = some ⟨databaseFile, listedMapping⟩ ∧
      (changingFileAfter 4).table.get? (fileKey entryHost databaseFile) = some id := by
  have hunused' : ¬InUse (changingFile.take 3) (fileKey entryHost databaseFile) := by
    rw [h.registered]
    rintro ⟨id, hid⟩
    exact Option.some_ne_none id (hid.symm.trans hunused)
  obtain ⟨t, id, hserve, hfresh, htable, hafter⟩ :=
    h.rebuilt entryHost databaseFile _ hunused' (keyPath_entryHost.symm ▸ readEntries_listed)
  obtain rfl : changingFileAfter 4 = t :=
    (changingFileAfter_succ rfl).trans (congrArg Prod.fst hserve)
  have hne : id ≠ 0 := by
    rintro rfl
    exact Option.some_ne_none _ (hdatabase.symm.trans hfresh)
  refine ⟨id, hne, (hafter 0).trans ((if_neg hne.symm).trans hdatabase), ?_,
    (htable _).trans (if_pos rfl)⟩
  rw [hafter id, if_pos rfl, keyPath_entryHost, mappingOf_entry]

/-- Whoever holds the first database sees it without sources, then with one, which a reload that fails
leaves alone, and then without any for good. The next request gets another database. -/
theorem sharingLaws_of_changingFile :
    (changingFileAfter 1).database? 0 = some ⟨databaseFile, Table.empty⟩ ∧
      (changingFileAfter 2).database? 0 = some ⟨databaseFile, listedMapping⟩ ∧
      (serve (changingFileAfter 2) (.reload brokenHost databaseFile)).1 = changingFileAfter 2 ∧
      (changingFileAfter 3).database? 0 = some ⟨databaseFile, Table.empty⟩ ∧
      ∃ id, id ≠ 0 ∧ (changingFileAfter 4).database? 0 = some ⟨databaseFile, Table.empty⟩ ∧
        (changingFileAfter 4).database? id = some ⟨databaseFile, listedMapping⟩ ∧
        (changingFileAfter 5).database? id = some ⟨databaseFile, Table.empty⟩ := by
  have laws : ∀ n, SharingLaws (changingFile.take n) := fun n => sharingLaws_of_history _
  have serving : ∀ n, ServingLaws (changingFileAfter n) := fun n => (laws n).serving
  obtain ⟨h1, used1⟩ := changingFile_loaded (laws 0)
  obtain ⟨h2, used2⟩ := changingFile_reloaded (serving 1) h1 used1
  obtain ⟨h3, unused3⟩ := changingFile_removed (serving 2) h2 used2
  obtain ⟨id, hne, h4, h4', used4⟩ := changingFile_loaded_again (laws 3) h3 unused3
  have h5 := ((serving 4).cleared id _ h4').1 ⟨_, used4⟩
  exact ⟨h1, h2, changingFile_unreadable (serving 2), h3, id, hne, h4, h4', h5⟩

end AsmExplorer.Proofs
