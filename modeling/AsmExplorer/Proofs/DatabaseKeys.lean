import AsmExplorer.Proofs.CanonicalPaths
import AsmExplorer.Proofs.DatabaseCalls
import AsmExplorer.Proofs.FileNames
import AsmExplorer.Proofs.ShellHost

/-!
# Keys of database files

A database file is an entry of a directory, and its key is made from the real directory and the name.
However the directory is spelled, and whether the file is there or not, the key is the same. Only a
name without a directory is not taken apart: it is looked up as a whole, so that its key changes with
the file and, where the entry is a link, is that of another one.
-/

namespace AsmExplorer.Proofs

/-- A path has a file name and stands for the entry with that name in a directory that is there. For
a name by itself it is the current directory. -/
structure NamesEntry (host : Host) (file : Path) (l : Location) (name : Text) : Prop where
  fileName : file.fileName? = some name
  directory : ∃ d, file.parent? = some d ∧
    host.files.resolve host.directory (if d.text = [] then .ofString "." else d) = .ok l

/-- A path is a name without a directory. -/
def IsBare (file : Path) : Prop :=
  file.parent? = some ⟨[]⟩

/-- The key of the entry with a name in a directory. -/
def entryKey (l : Location) (name : Text) : List Component :=
  .root :: (l ++ [name]).map .name

/-- A path does not fail to be keyed by its entry: it has a directory, or it is found at the entry
itself. -/
def FoundAsEntry (host : Host) (file : Path) (l : Location) (name : Text) : Prop :=
  ¬IsBare file ∨ host.files.resolve host.directory file = .ok (l ++ [name])

/-! ### Paths and their last names -/

lemma filterMap_silent {segments : List Text} (h : ∀ s ∈ segments, Path.isSilent s = true) :
    segments.filterMap Component.ofSegment? = [] := by
  rw [List.filterMap_eq_nil_iff]
  intro s hs
  simpa [Path.isSilent] using h s hs

section

variable {file : Path} {name : Text}

/-- A name by itself has no other component. -/
lemma components_of_bare (h : file.fileName? = some name) (hbare : IsBare file) :
    file.components = [.name name] := by
  obtain ⟨before, silent, hsegments, hsilent, hparent⟩ := segments_of_fileName h
  have hname := isName_of_fileName h
  have hempty : file.front ++ Text.join ['/'] (Path.dropSilentEnd before) = [] :=
    congrArg Path.text (Option.some.inj (hparent.symm.trans hbare))
  obtain ⟨hfront, hjoin⟩ := List.append_eq_nil_iff.mp hempty
  obtain ⟨tail, hbefore, htail, hlast⟩ := dropSilentEnd_spec before
  have hnone : Path.dropSilentEnd before = [] := by
    cases hkept : Path.dropSilentEnd before with
    | nil => rfl
    | cons s rest =>
      rw [hkept] at hjoin hlast
      cases rest with
      | nil =>
        rw [Text.join, List.intercalate_singleton] at hjoin
        have hs := hlast s rfl
        rw [hjoin] at hs
        exact absurd hs (by decide)
      | cons t rest => simp [join_cons_cons] at hjoin
  have hof : Component.ofSegment? name = some (.name name) := ofSegment_text (.name hname)
  rw [hnone, List.nil_append] at hbefore
  rw [Path.components, Path.frontComponent, hfront, hsegments, List.filterMap_append,
    List.filterMap_cons_some hof, filterMap_silent (hbefore ▸ htail), filterMap_silent hsilent]
  rfl

end

/-! ### Paths of entries -/

lemma join_concat {l : List Text} (hne : l ≠ []) (name : Text) :
    Text.join ['/'] (l ++ [name]) = Text.join ['/'] l ++ '/' :: name := by
  induction l with
  | nil => exact absurd rfl hne
  | cons first rest ih =>
    cases rest with
    | nil => simp [Text.join, List.intercalate_cons_cons]
    | cons second rest =>
      have htail := ih (List.cons_ne_nil second rest)
      calc Text.join ['/'] (first :: second :: rest ++ [name])
          = first ++ '/' :: Text.join ['/'] (second :: rest ++ [name]) :=
            join_cons_cons first second (rest ++ [name])
        _ = first ++ '/' :: (Text.join ['/'] (second :: rest) ++ '/' :: name) := by rw [htail]
        _ = Text.join ['/'] (first :: second :: rest) ++ '/' :: name := by simp [join_cons_cons]

lemma getLast?_join {l : List Text} (hl : ∀ n ∈ l, IsName n) (hne : l ≠ []) :
    (Text.join ['/'] l).getLast? ≠ some '/' := by
  rcases List.eq_nil_or_concat' l with rfl | ⟨front, last, rfl⟩
  · exact absurd rfl hne
  · have hlast : IsName last := hl last (by simp)
    have hname : last.getLast? ≠ some '/' := fun h => hlast.no_slash (List.mem_of_getLast? h)
    by_cases hfront : front = []
    · subst hfront
      simpa [Text.join] using hname
    · have hsplit : Text.join ['/'] front ++ '/' :: last =
          (Text.join ['/'] front ++ ['/']) ++ last := by simp
      rw [join_concat hfront, hsplit, List.getLast?_append_of_ne_nil _ hlast.ne_nil]
      exact hname

/-- The path of a directory and a name are joined to the path of the entry. -/
lemma join_toPath {l : Location} (hl : ∀ n ∈ l, IsName n) {name : Text} (hname : IsName name) :
    l.toPath.join ⟨name⟩ = Location.toPath (l ++ [name]) := by
  have hrelative : Path.isAbsolute ⟨name⟩ = false := by
    obtain ⟨c, t, rfl⟩ := List.exists_cons_of_ne_nil hname.ne_nil
    have hc : c ≠ '/' := fun heq => hname.no_slash (by simp [heq])
    simp [Path.isAbsolute, hc]
  by_cases hroot : l = []
  · subst hroot
    simp [Path.join, hrelative, Location.toPath, Text.join]
  · have hlast : ('/' :: Text.join ['/'] l).getLast? ≠ some '/' := by
      obtain ⟨first, rest, rfl⟩ := List.exists_cons_of_ne_nil hroot
      have hne : Text.join ['/'] (first :: rest) ≠ [] := by
        have hfirst := (hl first List.mem_cons_self).ne_nil
        cases rest <;> simp [Text.join, List.intercalate_cons_cons, hfirst]
      obtain ⟨c, t, hct⟩ := List.exists_cons_of_ne_nil hne
      have hjoined := getLast?_join hl hroot
      rw [hct] at hjoined ⊢
      rwa [List.getLast?_cons_cons]
    have htext : (Location.toPath l).text = '/' :: Text.join ['/'] l := rfl
    rw [Path.join, hrelative, htext, if_neg (by simp), if_neg (by simp [hlast])]
    simp [Location.toPath, join_concat hroot]

lemma key_toPath {l : Location} (hl : ∀ n ∈ l, IsName n) :
    (Location.toPath l).key = .root :: l.map .name := by
  rw [toPath_eq_ofComponents]
  refine components_of_root fun c hc => ?_
  obtain ⟨n, hn, rfl⟩ := List.mem_map.mp hc
  exact .name (hl n hn)

section

variable {host : Host} {file : Path} {l : Location} {name : Text}

lemma keyPath_of_directory (h : NamesEntry host file l name) (hl : ∀ n ∈ l, IsName n)
    (hbare : ¬IsBare file) : Registry.keyPath host file = Location.toPath (l ++ [name]) := by
  obtain ⟨d, hparent, hresolve⟩ := h.directory
  have hne : d.text ≠ [] := fun htext => hbare (by rw [IsBare, hparent, ← htext])
  rw [if_neg hne] at hresolve
  have hcanonical : host.canonicalPath d = Location.toPath l := canonicalPath_of_resolve hresolve
  simp only [Registry.keyPath, hparent, h.fileName]
  rw [if_neg hne, hcanonical, join_toPath hl (isName_of_fileName h.fileName)]

lemma keyPath_of_bare (h : file.fileName? = some name) (hbare : IsBare file) :
    Registry.keyPath host file = host.canonicalPath file := by
  have hparent : file.parent? = some ⟨[]⟩ := hbare
  simp only [Registry.keyPath, hparent, h]
  rw [if_pos trivial]

lemma isName_of_entry (hl : ∀ n ∈ l, IsName n) (h : NamesEntry host file l name) :
    ∀ n ∈ l ++ [name], IsName n := by
  intro n hn
  rcases List.mem_append.mp hn with hn | hn
  · exact hl n hn
  · rw [List.mem_singleton.mp hn]
    exact isName_of_fileName h.fileName

/-- A name by itself that leads nowhere is its own key. -/
lemma fileKey_of_missing (h : file.fileName? = some name) (hbare : IsBare file) {e : FileError}
    (hmissing : host.files.resolve host.directory file = .error e) :
    fileKey host file = [.name name] := by
  have hcanonical : host.canonicalPath file = file.normalize := canonicalPath_of_error hmissing
  have hnormal : file.normalize = Path.ofComponents [.name name] := by
    rw [Path.normalize, components_of_bare h hbare]
    rfl
  have hstep : ∀ c ∈ [Component.name name], IsStep c := by
    intro c hc
    rw [List.mem_singleton.mp hc]
    exact .name (isName_of_fileName h)
  rw [fileKey, keyPath_of_bare h hbare, hcanonical, hnormal]
  exact components_of_step hstep

/-- A name by itself that leads somewhere has the key of what it leads to. -/
lemma fileKey_of_found (hdirectory : LinkFree host.files host.directory)
    (h : file.fileName? = some name) (hbare : IsBare file) {k : Location}
    (hfound : host.files.resolve host.directory file = .ok k) :
    fileKey host file = .root :: k.map .name := by
  have hcanonical : host.canonicalPath file = Location.toPath k := canonicalPath_of_resolve hfound
  rw [fileKey, keyPath_of_bare h hbare, hcanonical,
    key_toPath (resolve_linkFree hdirectory hfound).names]

lemma fileKey_of_entry (h : NamesEntry host file l name) (hl : ∀ n ∈ l, IsName n)
    (hfound : FoundAsEntry host file l name) : fileKey host file = entryKey l name := by
  by_cases hbare : IsBare file
  · have hresolve := hfound.resolve_left (not_not_intro hbare)
    have hcanonical : host.canonicalPath file = Location.toPath (l ++ [name]) :=
      canonicalPath_of_resolve hresolve
    rw [fileKey, keyPath_of_bare h.fileName hbare, hcanonical, key_toPath (isName_of_entry hl h)]
    rfl
  · rw [fileKey, keyPath_of_directory h hl hbare, key_toPath (isName_of_entry hl h)]
    rfl

lemma fileKey_eq_entryKey_iff (hdirectory : LinkFree host.files host.directory)
    (h : NamesEntry host file l name) (hl : ∀ n ∈ l, IsName n) :
    fileKey host file = entryKey l name ↔ FoundAsEntry host file l name := by
  refine ⟨fun hkey => ?_, fileKey_of_entry h hl⟩
  by_cases hbare : IsBare file
  · right
    cases hresolve : host.files.resolve host.directory file with
    | error e =>
      rw [fileKey_of_missing h.fileName hbare hresolve] at hkey
      simp [entryKey] at hkey
    | ok k =>
      rw [fileKey_of_found hdirectory h.fileName hbare hresolve] at hkey
      have hname : Function.Injective Component.name := fun _ _ => Component.name.inj
      rw [hname.list_map (List.cons.inj hkey).2]
  · exact .inl hbare

end

/-! ### Databases under their keys -/

lemma get?_of_getOrLoad {r r' : Registry} {host : Host} {file : Path} {id : Nat}
    (h : r.getOrLoad host file = (r', .ok id)) : r'.table.get? (fileKey host file) = some id := by
  rw [Registry.getOrLoad] at h
  cases hget : r.get? host file with
  | some used =>
    rw [hget] at h
    obtain ⟨rfl, hid⟩ := Prod.mk.inj h
    rw [← Except.ok.inj hid]
    exact hget
  | none =>
    rw [hget] at h
    cases hload : CompileDatabase.load host (Registry.keyPath host file) with
    | error failure =>
      rw [hload] at h
      cases (Prod.mk.inj h).2
    | ok db =>
      rw [hload] at h
      simp only [Registry.adopt, hget, Prod.mk.injEq, Except.ok.injEq] at h
      obtain ⟨rfl, rfl⟩ := h
      show ((r.add db).1.table.insert _ _).get? _ = _
      rw [Table.get?_insert, if_pos rfl]

lemma finds_of_get? {r : Registry} {host : Host} {file : Path} {id : Nat}
    (h : r.get? host file = some id) :
    (r.remove host file).2 = some id ∧ (r.reload host file).2 ≠ .ok false := by
  constructor
  · rw [Registry.remove, h]
  · rw [Registry.reload, h]
    dsimp only
    split <;> simp

/-- A path of a database file has the key of its entry exactly if it has a directory or is found at
the entry itself; a name by itself that leads nowhere is its own key. So all such paths of one entry
have one key, on whichever hosts, with the file there or without it, and a database that one of them
has loaded is found by the others. -/
theorem entry_key_iff (host : Host) (hdirectory : LinkFree host.files host.directory) (file : Path)
    (l : Location) (name : Text) (h : NamesEntry host file l name) :
    (fileKey host file = entryKey l name ↔ FoundAsEntry host file l name) ∧
      (∀ e, IsBare file → host.files.resolve host.directory file = .error e →
        fileKey host file = [.name name]) ∧
      (FoundAsEntry host file l name → ∀ (other : Host) (spelling : Path),
        NamesEntry other spelling l name → FoundAsEntry other spelling l name →
        fileKey other spelling = fileKey host file ∧
          ∀ (r r' : Registry) (id : Nat), r.getOrLoad host file = (r', .ok id) →
            r'.get? other spelling = some id ∧ (r'.remove other spelling).2 = some id ∧
              (r'.reload other spelling).2 ≠ .ok false) := by
  obtain ⟨d, -, hresolve⟩ := h.directory
  have hl := (resolve_linkFree hdirectory hresolve).names
  refine ⟨fileKey_eq_entryKey_iff hdirectory h hl,
    fun e hbare hmissing => fileKey_of_missing h.fileName hbare hmissing, ?_⟩
  intro hfound other spelling hother hspelling
  have hkey : fileKey other spelling = fileKey host file := by
    rw [fileKey_of_entry h hl hfound, fileKey_of_entry hother hl hspelling]
  refine ⟨hkey, fun r r' id hload => ?_⟩
  have hget : r'.get? other spelling = some id := by
    show r'.table.get? (fileKey other spelling) = some id
    rw [hkey]
    exact get?_of_getOrLoad hload
  exact ⟨hget, finds_of_get? hget⟩

/-- The root directory with a directory in it, a link to that, and perhaps more. -/
def linkedBuildHost (nodes : List (String × Node)) : Host :=
  shellHost (("build", .directory) :: ("link", .link "build".toList) :: nodes)

/-- With a database file in the directory. -/
def storedHost : Host :=
  { linkedBuildHost [] with
    files := (linkedBuildHost []).files.install [] (.ofString "/build/db.json") (textFile "[]") }

/-- A database that was loaded through the link is found after its file is gone, under another
spelling of its directory. -/
theorem linked_database_found :
    LinkFree storedHost.files storedHost.directory ∧
      NamesEntry storedHost (.ofString "/link/./db.json") ["build".toList] "db.json".toList ∧
      NamesEntry (linkedBuildHost []) (.ofString "link/..//build/db.json") ["build".toList]
        "db.json".toList ∧
      ∃ r, Registry.empty.getOrLoad storedHost (.ofString "/link/./db.json") = (r, .ok 0) ∧
        (r.remove (linkedBuildHost []) (.ofString "link/..//build/db.json")).2 = some 0 := by
  have hroot : LinkFree storedHost.files storedHost.directory := linkFree_root
  have hstored : NamesEntry storedHost (.ofString "/link/./db.json") ["build".toList]
      "db.json".toList := ⟨by decide, .ofString "/link", by decide, by decide +kernel⟩
  have hgone : NamesEntry (linkedBuildHost []) (.ofString "link/..//build/db.json") ["build".toList]
      "db.json".toList := ⟨by decide, .ofString "link/..//build", by decide, by decide +kernel⟩
  obtain ⟨-, -, hsame⟩ := entry_key_iff storedHost hroot _ _ _ hstored
  have hfound := hsame (.inl (by unfold IsBare; decide)) _ _ hgone (.inl (by unfold IsBare; decide))
  have hload : (Registry.empty.getOrLoad storedHost (.ofString "/link/./db.json")).2 = .ok 0 :=
    eq_ok_of_toOption (by decide +kernel)
  have hpair := Prod.mk.eta.symm.trans (congrArg (Prod.mk _) hload)
  exact ⟨hroot, hstored, hgone, _, hpair, (hfound.2 _ _ _ hpair).2.1⟩

/-- A database that was loaded by its bare name is not found after its file is gone, and the bare name
of a link is another file than the same name behind a dot. -/
theorem bare_name_changes_key :
    let there := linkedBuildHost [("db.json", textFile "[]"), ("other.json", .link "db.json".toList)]
    let gone := linkedBuildHost []
    NamesEntry there (.ofString "db.json") [] "db.json".toList ∧
      NamesEntry gone (.ofString "db.json") [] "db.json".toList ∧
      fileKey there (.ofString "db.json") = [.root, .name "db.json".toList] ∧
      fileKey gone (.ofString "db.json") = [.name "db.json".toList] ∧
      (Registry.empty.getOrLoad there (.ofString "db.json")).2.toOption = some 0 ∧
      ((Registry.empty.getOrLoad there (.ofString "db.json")).1.remove gone
        (.ofString "db.json")).2 = none ∧
      NamesEntry there (.ofString "other.json") [] "other.json".toList ∧
      NamesEntry there (.ofString "./other.json") [] "other.json".toList ∧
      fileKey there (.ofString "other.json") ≠ fileKey there (.ofString "./other.json") := by
  refine ⟨⟨by decide, .ofString "", by decide, by decide +kernel⟩,
    ⟨by decide, .ofString "", by decide, by decide +kernel⟩, by decide +kernel, by decide +kernel,
    by decide +kernel, by decide +kernel, ⟨by decide, .ofString "", by decide, by decide +kernel⟩,
    ⟨by decide, .ofString ".", by decide, by decide +kernel⟩, by decide +kernel⟩

end AsmExplorer.Proofs
