import AsmExplorer.Explorer.Basic
import AsmExplorer.Proofs.CanonicalPaths
import AsmExplorer.Proofs.ShellHost

/-!
# Looking up the sources of a database

A database lists its sources under the canonical paths that their entries had, and a request looks
for the canonical path of what it names. The two agree on a source that is its own canonical path.
On any other one the request misses: the path of the entry led nowhere, so that only its normal form
was listed, and that form leads to a file with another canonical path.
-/

namespace AsmExplorer.Proofs

/-- The databases that come about on a host while it stays as it is. -/
inductive Built (host : Host) : CompileDatabase → Prop
  | ofEntries (origin : Path) (entries : List CompileEntry) :
      Built host (.ofEntries host origin entries)
  | load {file : Path} {db : CompileDatabase} (h : CompileDatabase.load host file = .ok db) :
      Built host db
  | replace {db : CompileDatabase} (entries : List CompileEntry) (h : Built host db) :
      Built host (db.replace host entries)
  | reload {db db' : CompileDatabase} (h : Built host db) (hread : db.reload host = .ok db') :
      Built host db'
  | clear {db : CompileDatabase} (h : Built host db) : Built host db.clear

/-- Invocations stand under the keys of their sources, which are canonical paths. -/
def Keyed (host : Host) (commands : Table (List Component) Invocation) : Prop :=
  ∀ k i, commands.get? k = some i → i.source.key = k ∧ ∃ p, i.source = host.canonicalPath p

lemma Keyed.source {host : Host} {commands : Table (List Component) Invocation}
    (h : Keyed host commands) (k : List Component) (i : Invocation)
    (hi : commands.get? k = some i) : i.source.key = k :=
  (h k i hi).1

lemma keyed_empty (host : Host) : Keyed host Table.empty :=
  fun _ _ h => absurd h (Option.some_ne_none _).symm

lemma source_of_invocation {host : Host} {base : Path} {e : CompileEntry} {i : Invocation}
    (h : e.invocation? host base = some i) : i.source = host.canonicalPath (e.joined base) := by
  unfold CompileEntry.invocation? at h
  split at h
  · exact absurd h (Option.some_ne_none i).symm
  · obtain rfl := Option.some.inj h
    rfl

lemma keyed_addEntry {host : Host} {commands : Table (List Component) Invocation}
    (h : Keyed host commands) (base : Path) (e : CompileEntry) :
    Keyed host (CompileDatabase.addEntry host base commands e) := by
  unfold CompileDatabase.addEntry
  cases he : e.invocation? host base with
  | none => exact h
  | some i =>
    intro k j hj
    rw [Table.get?_insert] at hj
    split at hj
    · next hk =>
      obtain rfl := Option.some.inj hj
      exact ⟨hk.symm, _, source_of_invocation he⟩
    · exact h k j hj

lemma keyed_ofEntries (host : Host) (origin : Path) (entries : List CompileEntry) :
    Keyed host (CompileDatabase.ofEntries host origin entries).commands := by
  have hfold : ∀ commands, Keyed host commands →
      Keyed host (entries.foldl
        (CompileDatabase.addEntry host (CompileDatabase.baseOf host origin)) commands) := by
    induction entries with
    | nil => exact fun _ h => h
    | cons e rest ih => exact fun commands h => ih _ (keyed_addEntry h _ e)
  exact hfold _ (keyed_empty host)

lemma ofEntries_of_read {host : Host} {file origin : Path} {db : CompileDatabase}
    (h : (readEntries host file).map (CompileDatabase.ofEntries host origin) = .ok db) :
    ∃ entries, db = .ofEntries host origin entries := by
  cases hread : readEntries host file with
  | error failure =>
    rw [hread] at h
    exact absurd h (by simp [Except.map])
  | ok entries =>
    rw [hread] at h
    exact ⟨entries, (Except.ok.inj h).symm⟩

lemma keyed_of_built {host : Host} {db : CompileDatabase} (h : Built host db) :
    Keyed host db.commands := by
  induction h with
  | ofEntries origin entries => exact keyed_ofEntries host origin entries
  | load hload =>
    obtain ⟨entries, rfl⟩ := ofEntries_of_read hload
    exact keyed_ofEntries host _ entries
  | replace entries _ _ => exact keyed_ofEntries host _ entries
  | reload _ hread _ =>
    obtain ⟨entries, rfl⟩ := ofEntries_of_read hread
    exact keyed_ofEntries host _ entries
  | clear _ _ => exact keyed_empty host

section

variable {host : Host} {db : CompileDatabase} {s : Path}

lemma mem_sources (h : ∀ k i, db.commands.get? k = some i → i.source.key = k) :
    s ∈ db.sources ↔ ∃ i, db.commands.get? s.key = some i ∧ i.source = s := by
  rw [CompileDatabase.sources, List.mem_mergeSort, List.mem_map]
  constructor
  · rintro ⟨i, hi, rfl⟩
    obtain ⟨k, hk⟩ := Table.mem_values_iff.mp hi
    obtain rfl := h k i hk
    exact ⟨i, hk, rfl⟩
  · rintro ⟨i, hi, rfl⟩
    exact ⟨i, Table.mem_values_iff.mpr ⟨_, hi⟩, rfl⟩

variable (hdirectory : LinkFree host.files host.directory)

include hdirectory

lemma normalize_source (h : Keyed host db.commands) {k : List Component} {i : Invocation}
    (hi : db.commands.get? k = some i) : i.source.normalize = i.source := by
  obtain ⟨-, p, hp⟩ := h k i hi
  rw [hp]
  exact normalize_canonicalPath hdirectory p

/-- The path of a source in normal form is looked for under its canonical path alone. -/
lemma get?_canonicalPath (hs : s.normalize = s) :
    db.get? host (host.canonicalPath s) = db.commands.get? (host.canonicalPath s).key := by
  have htwice : host.canonicalPath (host.canonicalPath s) = host.canonicalPath s :=
    canonicalPath_of_normal hdirectory hs
  rw [CompileDatabase.get?, htwice, Option.or_self]

lemma get?_canonicalPath_eq_none_iff (h : Keyed host db.commands) (hs : s.normalize = s) :
    db.get? host (host.canonicalPath s) = none ↔ host.canonicalPath s ∉ db.sources := by
  rw [get?_canonicalPath hdirectory hs, mem_sources h.source, not_exists,
    Option.eq_none_iff_forall_ne_some]
  constructor
  · intro hnone i hi
    exact hnone i hi.1
  · intro hnot i hi
    have hsource : i.source = host.canonicalPath s :=
      eq_of_key_eq (normalize_source hdirectory h hi) (normalize_canonicalPath hdirectory s)
        (h _ _ hi).1
    exact hnot i ⟨hi, hsource⟩

end

lemma orOwn_nil (source : Path) (r : Except Failure Invocation) :
    Explorer.orOwn source [] r = r := by
  cases r with
  | ok i => rfl
  | error failure => cases failure <;> rfl

lemma databaseFor_of_get? {e : Explorer} {s : Path} {id : Nat}
    (h : e.registry.get? e.host (e.databasePath s) = some id) :
    e.databaseFor s = (e, .ok id) := by
  rw [Explorer.databaseFor, Registry.getOrLoad, h]

/-- A request without a command of its own gets what the database has for the canonical path. -/
lemma invocationFor_of_database {e : Explorer} {s : Path} {id : Nat} {db : CompileDatabase}
    (hid : (e.databaseFor s).2 = .ok id)
    (hdb : (e.databaseFor s).1.registry.database? id = some db) :
    (e.invocationFor s []).2 =
      match db.get? e.host (e.host.canonicalPath s) with
      | some i => .ok i
      | none => .error (.noCommand (e.host.canonicalPath s)) := by
  have hfound : (e.invocationFor s []).2 =
      Explorer.orOwn (e.host.canonicalPath s) []
        ((e.databaseFor s).2.bind fun id =>
          (e.databaseFor s).1.invocationIn id (e.host.canonicalPath s)) := rfl
  rw [hfound, orOwn_nil, hid]
  show (e.databaseFor s).1.invocationIn id (e.host.canonicalPath s) = _
  rw [Explorer.invocationIn, hdb]
  rfl

/-- A listed source is found under its own path. A request, which looks for its canonical path,
finds the same invocation exactly if the source is its own canonical path, as it is if the file of
its entry was there; and it finds nothing exactly if the canonical path is not listed. -/
theorem source_lookup (e : Explorer) (hdirectory : LinkFree e.host.files e.host.directory)
    (db : CompileDatabase) (hbuilt : Built e.host db) (s : Path) (hs : s ∈ db.sources) :
    ∃ i, i.source = s ∧ db.get? e.host s = some i ∧
      (db.get? e.host (e.host.canonicalPath s) = some i ↔ e.host.canonicalPath s = s) ∧
      (∀ p l, e.host.files.resolve e.host.directory p = .ok l → s = e.host.canonicalPath p →
        e.host.canonicalPath s = s) ∧
      ∀ id, (e.databaseFor s).2 = .ok id →
        (e.databaseFor s).1.registry.database? id = some db →
        ((e.invocationFor s []).2 = .ok i ↔ e.host.canonicalPath s = s) ∧
        ((e.invocationFor s []).2 = .error (.noCommand (e.host.canonicalPath s)) ↔
          e.host.canonicalPath s ∉ db.sources) := by
  have hkeyed := keyed_of_built hbuilt
  obtain ⟨i, hi, rfl⟩ := (mem_sources hkeyed.source).mp hs
  have hnormal := normalize_source hdirectory hkeyed hi
  have hiff : db.get? e.host (e.host.canonicalPath i.source) = some i ↔
      e.host.canonicalPath i.source = i.source := by
    rw [get?_canonicalPath hdirectory hnormal]
    constructor
    · intro h
      exact eq_of_key_eq (normalize_canonicalPath hdirectory _) hnormal (hkeyed _ _ h).1.symm
    · intro h
      rw [h]
      exact hi
  refine ⟨i, rfl, ?_, hiff, ?_, fun id hid hdb => ?_⟩
  · rw [CompileDatabase.get?, hi, Option.some_or]
  · intro p l hp hsource
    rw [hsource]
    exact canonicalPath_of_found hdirectory hp
  · rw [invocationFor_of_database hid hdb, ← hiff,
      ← get?_canonicalPath_eq_none_iff hdirectory hkeyed hnormal]
    cases db.get? e.host (e.host.canonicalPath i.source) with
    | none => simp
    | some j => simp

/-- A file, a link to it, and the directory of builds. -/
def linkHost : Host :=
  shellHost [("main.c", textFile "int x;\n"), ("link.c", .link "main.c".toList),
    ("build", .directory)]

/-- A database in which the link is compiled from a directory. -/
def linkDatabase (directory : String) : CompileDatabase :=
  .ofEntries linkHost (.ofString "/compile_commands.json")
    [{ directory := .ofString directory, file := .ofString "../link.c",
       arguments := some ["gcc".toList, "-O2".toList] }]

def linkExplorer (directory : String) : Explorer :=
  { Explorer.ofSettings linkHost shellSettings with
    registry := (Registry.empty.adopt linkHost (.ofString "/compile_commands.json")
      (linkDatabase directory)).1 }

/-- From the directory of builds, the link leads to the file, which is listed and found. -/
theorem source_lookup_in_builds :
    LinkFree (linkExplorer "/build").host.files (linkExplorer "/build").host.directory ∧
      Built (linkExplorer "/build").host (linkDatabase "/build") ∧
      .ofString "/main.c" ∈ (linkDatabase "/build").sources ∧
      ∃ i, ((linkExplorer "/build").invocationFor (.ofString "/main.c") []).2 = .ok i ∧
        i.source = .ofString "/main.c" := by
  have hdirectory : LinkFree (linkExplorer "/build").host.files
      (linkExplorer "/build").host.directory := linkFree_root
  have hbuilt : Built (linkExplorer "/build").host (linkDatabase "/build") := .ofEntries _ _
  have hs : .ofString "/main.c" ∈ (linkDatabase "/build").sources := by decide +kernel
  have hself : (linkExplorer "/build").host.canonicalPath (.ofString "/main.c") =
      .ofString "/main.c" := by decide +kernel
  obtain ⟨i, hi, -, -, -, hrequest⟩ :=
    source_lookup (linkExplorer "/build") hdirectory _ hbuilt _ hs
  have hused : (linkExplorer "/build").databaseFor (.ofString "/main.c") =
      (linkExplorer "/build", .ok 0) := databaseFor_of_get? (by decide +kernel)
  have hfound := (hrequest 0 (by rw [hused]) (by rw [hused]; rfl)).1.mpr hself
  exact ⟨hdirectory, hbuilt, hs, i, hfound, hi⟩

/-- From a directory that is gone, the link itself is listed, and no request for it is answered. -/
theorem listed_source_without_command :
    Built (linkExplorer "/gone").host (linkDatabase "/gone") ∧
      .ofString "/link.c" ∈ (linkDatabase "/gone").sources ∧
      ((linkDatabase "/gone").get? linkHost (.ofString "/link.c")).map Invocation.source =
        some (.ofString "/link.c") ∧
      linkHost.canonicalPath (.ofString "/link.c") = .ofString "/main.c" ∧
      (linkDatabase "/gone").get? linkHost (.ofString "/main.c") = none ∧
      ((linkExplorer "/gone").invocationFor (.ofString "/link.c") []).2 =
        .error (.noCommand (.ofString "/main.c")) :=
  ⟨.ofEntries _ _, by decide +kernel, by decide +kernel, by decide +kernel, by decide +kernel,
    by decide +kernel⟩

end AsmExplorer.Proofs
