import AsmExplorer.Proofs.CanonicalPaths
import Mathlib.Data.List.DropRight

/-!
# File names

The name of a file is what stands last between the slashes of its path, where a slash more at the end
or a single dot does not count. The name falls into a stem and an extension at its last dot, unless
that dot is in front.
-/

namespace AsmExplorer.Proofs

/-- What can stand behind the name of a file in a path. -/
def IsSilentEnd (t : Text) : Prop :=
  ∃ segments : List Text, (∀ s ∈ segments, s = [] ∨ s = ['.']) ∧ t = segments.flatMap ('/' :: ·)

/-- A path ends in the name of a file. -/
def NamesFile (path name : Text) : Prop :=
  IsName name ∧ ∃ behind, IsSilentEnd behind ∧
    (path = name ++ behind ∨ ∃ before, path = before ++ '/' :: (name ++ behind))

/-- A file name falls into its stem and what stands behind its last dot. Without a dot, or with its
only dot in front, it has no extension. -/
inductive SplitsName (name : Text) : Text → Option Text → Prop
  | dotted {stem ext : Text} : name = stem ++ '.' :: ext → stem ≠ [] → '.' ∉ ext →
    SplitsName name stem (some ext)
  | whole : (∀ stem ext, name = stem ++ '.' :: ext → '.' ∉ ext → stem = []) →
    SplitsName name name none

/-- The file at the end of a path has a stem. -/
def HasStem (path stem : Text) : Prop :=
  ∃ name ext, NamesFile path name ∧ SplitsName name stem ext

/-- The file at the end of a path has an extension. -/
def HasExtension (path ext : Text) : Prop :=
  ∃ name stem, NamesFile path name ∧ SplitsName name stem (some ext)

/-! ### The last name of a path -/

lemma isSilent_iff (segment : Text) :
    Path.isSilent segment = true ↔ segment = [] ∨ segment = ['.'] := by
  unfold Path.isSilent Component.ofSegment?
  split
  · next h => simp [h]
  · next h =>
    split
    · simp [h]
    · simp [h]

/-- The last segment that counts. -/
def lastVisible? (segments : List Text) : Option Text :=
  segments.reverse.find? fun s => !Path.isSilent s

lemma lastVisible?_cons_silent {s : Text} (h : Path.isSilent s = true) (segments : List Text) :
    lastVisible? (s :: segments) = lastVisible? segments := by
  simp [lastVisible?, List.find?_append, h]

/-- The front of a path does not matter: it is no name. -/
lemma lastVisible?_segments (p : Path) :
    lastVisible? p.segments = lastVisible? (p.text.splitOn '/') := by
  have hempty : Path.isSilent [] = true := (isSilent_iff _).mpr (.inl rfl)
  have hdot : Path.isSilent ['.'] = true := (isSilent_iff _).mpr (.inr rfl)
  unfold Path.segments Path.front
  split
  · next t ht =>
    have hsplit : p.text.splitOn '/' = [] :: t.splitOn '/' := by
      rw [ht]
      exact List.splitOn_append_cons_self_of_not_mem List.not_mem_nil t
    rw [hsplit, lastVisible?_cons_silent hempty, ht]
    rfl
  · next ht =>
    rw [ht]
    rfl
  · next t ht =>
    have hsplit : p.text.splitOn '/' = ['.'] :: t.splitOn '/' := by
      rw [ht]
      exact List.splitOn_append_cons_self_of_not_mem (by decide : '/' ∉ ['.']) t
    have hdrop : (p.text.drop ['.'].length).splitOn '/' = [] :: t.splitOn '/' := by
      rw [ht]
      exact List.splitOn_append_cons_self_of_not_mem List.not_mem_nil t
    rw [hsplit, hdrop, lastVisible?_cons_silent hdot, lastVisible?_cons_silent hempty]
  · rfl

lemma fileName?_eq (p : Path) :
    p.fileName? = (lastVisible? (p.text.splitOn '/')).filter (· ≠ ['.', '.']) := by
  have hlast : (Path.dropSilentEnd p.segments).getLast? = lastVisible? p.segments := by
    rw [Path.dropSilentEnd, List.getLast?_reverse, ← List.find?_not_eq_head?_dropWhile, lastVisible?]
  rw [Path.fileName?, hlast, lastVisible?_segments]
  cases lastVisible? (p.text.splitOn '/') with
  | none => rfl
  | some name => by_cases h : name = ['.', '.'] <;> simp [Option.filter, h]

lemma lastVisible?_eq_some_iff {segments : List Text} {name : Text} :
    lastVisible? segments = some name ↔ Path.isSilent name = false ∧
      ∃ before silent, segments = before ++ name :: silent ∧ ∀ s ∈ silent, s = [] ∨ s = ['.'] := by
  rw [lastVisible?, List.find?_eq_some_iff_append]
  refine and_congr (by simp) ⟨?_, ?_⟩
  · rintro ⟨silent, before, heq, hsilent⟩
    refine ⟨before.reverse, silent.reverse, by simpa using congrArg List.reverse heq, ?_⟩
    intro s hs
    simpa [isSilent_iff] using hsilent s (List.mem_reverse.mp hs)
  · rintro ⟨before, silent, rfl, hsilent⟩
    refine ⟨silent.reverse, before.reverse, by simp, ?_⟩
    intro s hs
    simpa [isSilent_iff] using hsilent s (List.mem_reverse.mp hs)

lemma join_cons (name : Text) (segments : List Text) :
    Text.join ['/'] (name :: segments) = name ++ segments.flatMap ('/' :: ·) := by
  induction segments generalizing name with
  | nil => simp [Text.join]
  | cons s segments ih => rw [join_cons_cons, ih, List.flatMap_cons, List.cons_append]

lemma fileName?_iff {path name : Text} :
    Path.fileName? ⟨path⟩ = some name ↔ NamesFile path name := by
  rw [fileName?_eq, Option.filter_eq_some_iff, lastVisible?_eq_some_iff]
  constructor
  · rintro ⟨⟨hvisible, before, silent, hsplit, hsilent⟩, hparent⟩
    have hname : IsName name := by
      have hcounts := mt (isSilent_iff name).mpr (by simp [hvisible])
      rw [not_or] at hcounts
      refine ⟨hcounts.1, hcounts.2, by simpa using hparent, ?_⟩
      exact not_mem_of_mem_splitOn (hsplit ▸ (by simp) : name ∈ path.splitOn '/')
    refine ⟨hname, silent.flatMap ('/' :: ·), ⟨silent, hsilent, rfl⟩, ?_⟩
    have hjoin : path = Text.join ['/'] (before ++ name :: silent) := by
      rw [← hsplit, Text.join, List.intercalate_splitOn]
    rw [hjoin]
    cases before with
    | nil => exact .inl (join_cons name silent)
    | cons first before =>
      refine .inr ⟨first ++ before.flatMap ('/' :: ·), ?_⟩
      simp [join_cons]
  · rintro ⟨hname, _, ⟨silent, hsilent, rfl⟩, hpath⟩
    have hslash : ∀ s ∈ name :: silent, '/' ∉ s := by
      intro s hs
      rcases List.mem_cons.mp hs with rfl | hs
      · exact hname.no_slash
      · rcases hsilent s hs with rfl | rfl <;> decide
    have hend : (name ++ silent.flatMap ('/' :: ·)).splitOn '/' = name :: silent := by
      rw [← join_cons, splitOn_join hslash (List.cons_ne_nil name silent)]
    have hvisible : Path.isSilent name = false := by
      rw [← Bool.not_eq_true, isSilent_iff, not_or]
      exact ⟨hname.ne_nil, hname.ne_current⟩
    refine ⟨⟨hvisible, ?_⟩, by simpa using hname.ne_parent⟩
    rcases hpath with hpath | ⟨before, hpath⟩
    · exact ⟨[], silent, by rw [hpath, hend, List.nil_append], hsilent⟩
    · refine ⟨before.splitOn '/', silent, ?_, hsilent⟩
      rw [hpath, List.splitOn_append_cons_self, hend]

/-! ### The segments of a path -/

/-- The silent segments at the end, behind one that is not. -/
lemma dropSilentEnd_spec (segments : List Text) :
    ∃ silent, segments = Path.dropSilentEnd segments ++ silent ∧
      (∀ s ∈ silent, Path.isSilent s = true) ∧
      ∀ s ∈ (Path.dropSilentEnd segments).getLast?, Path.isSilent s = false := by
  have hdrop : Path.dropSilentEnd segments = segments.rdropWhile Path.isSilent := rfl
  refine ⟨segments.rtakeWhile Path.isSilent, ?_, fun s hs => List.mem_rtakeWhile_imp hs, ?_⟩
  · rw [hdrop, List.rdropWhile_append_rtakeWhile]
  · intro s hs
    obtain ⟨hne, rfl⟩ := List.mem_getLast?_eq_getLast hs
    exact Bool.eq_false_iff.mpr (List.rdropWhile_last_not Path.isSilent segments hne)

section

variable {file : Path} {name : Text}

lemma isName_of_fileName (h : file.fileName? = some name) : IsName name :=
  (fileName?_iff.mp h).1

/-- The segments of a path fall into those before the last name, the name, and silent ones. -/
lemma segments_of_fileName (h : file.fileName? = some name) :
    ∃ before silent, file.segments = before ++ name :: silent ∧
      (∀ s ∈ silent, Path.isSilent s = true) ∧
      file.parent? = some (Path.ofSegments file.front (Path.dropSilentEnd before)) := by
  obtain ⟨silent, hsegments, hsilent, -⟩ := dropSilentEnd_spec file.segments
  rw [Path.fileName?] at h
  split at h
  · next last hget =>
    split at h
    · cases h
    · next hparent =>
      obtain rfl := Option.some.inj h
      obtain ⟨before, hkept⟩ := List.getLast?_eq_some_iff.mp hget
      rw [hkept, List.append_assoc, List.singleton_append] at hsegments
      refine ⟨before, silent, hsegments, hsilent, ?_⟩
      rw [Path.parent?, hkept]
      simp
  · cases h

/-- The name in a path is replaced in the directory of the path. -/
lemma withFileName_eq (h : file.fileName? = some name) :
    ∃ d, file.parent? = some d ∧ ∀ other, file.withFileName other = d.join ⟨other⟩ := by
  obtain ⟨before, silent, -, -, hparent⟩ := segments_of_fileName h
  refine ⟨_, hparent, fun other => ?_⟩
  rw [Path.withFileName, h, hparent]
  rfl

end

/-! ### Stem and extension -/

lemma splitName_concat {stem ext : Text} (hext : '.' ∉ ext) :
    Path.splitName (stem ++ '.' :: ext) =
      if stem = [] then ('.' :: ext, none) else (stem, some ext) := by
  have hbehind : ((stem ++ '.' :: ext).reverse.takeWhile (· ≠ '.')).reverse = ext := by
    have hall : ∀ c ∈ ext.reverse, (decide (c ≠ '.')) = true := by
      intro c hc
      have hne : c ≠ '.' := fun heq => hext (heq ▸ List.mem_reverse.mp hc)
      simpa using hne
    rw [List.reverse_append, List.reverse_cons, List.append_assoc,
      List.takeWhile_append_of_pos hall]
    simp
  have hfront : (stem ++ '.' :: ext).take ((stem ++ '.' :: ext).length - ext.length) =
      stem ++ ['.'] := by
    have hlength : (stem ++ '.' :: ext).length - ext.length = (stem ++ ['.']).length := by
      simp
      omega
    rw [hlength, List.append_cons stem '.' ext, List.take_left]
  rw [Path.splitName, hbehind, hfront]
  by_cases hstem : stem = []
  · simp [hstem]
  · simp [hstem]

lemma splitName_of_not_mem {name : Text} (h : '.' ∉ name) : Path.splitName name = (name, none) := by
  have hall : name.reverse.takeWhile (· ≠ '.') = name.reverse := by
    rw [List.takeWhile_eq_self_iff]
    intro c hc
    have hne : c ≠ '.' := fun heq => h (heq ▸ List.mem_reverse.mp hc)
    simpa using hne
  rw [Path.splitName, hall]
  simp

/-- The last dot in a name. -/
lemma exists_last_dot {name : Text} (h : '.' ∈ name) :
    ∃ stem ext, name = stem ++ '.' :: ext ∧ '.' ∉ ext := by
  obtain ⟨before, behind, hsplit, hbefore⟩ := List.eq_append_cons_of_mem (List.mem_reverse.mpr h)
  refine ⟨behind.reverse, before.reverse, by simpa using congrArg List.reverse hsplit, ?_⟩
  simpa using hbefore

lemma splitsName_iff {name stem : Text} {ext : Option Text} :
    SplitsName name stem ext ↔ Path.splitName name = (stem, ext) := by
  constructor
  · rintro (⟨rfl, hstem, hext⟩ | hfront)
    · rw [splitName_concat hext, if_neg hstem]
    · by_cases h : '.' ∈ name
      · obtain ⟨stem, ext, rfl, hext⟩ := exists_last_dot h
        obtain rfl := hfront stem ext rfl hext
        exact splitName_concat hext
      · exact splitName_of_not_mem h
  · intro hsplit
    by_cases h : '.' ∈ name
    · obtain ⟨stem', ext', rfl, hext⟩ := exists_last_dot h
      rw [splitName_concat hext] at hsplit
      split at hsplit
      · next hstem =>
        subst hstem
        obtain ⟨rfl, rfl⟩ := Prod.mk.inj hsplit
        refine .whole fun stem ext heq _ => ?_
        cases stem with
        | nil => rfl
        | cons c stem =>
          obtain ⟨-, rfl⟩ := List.cons.inj heq
          exact absurd (by simp) hext
      · next hstem =>
        obtain ⟨rfl, rfl⟩ := Prod.mk.inj hsplit
        exact .dotted rfl hstem hext
    · rw [splitName_of_not_mem h] at hsplit
      obtain ⟨rfl, rfl⟩ := Prod.mk.inj hsplit
      exact .whole fun stem ext heq _ => absurd (heq ▸ (by simp) : '.' ∈ name) h

lemma fileStem?_iff {path stem : Text} :
    Path.fileStem? ⟨path⟩ = some stem ↔ HasStem path stem := by
  simp only [Path.fileStem?, Option.map_eq_some_iff, fileName?_iff, HasStem, splitsName_iff]
  refine exists_congr fun name => ?_
  rw [exists_and_left, ← Prod.eta (Path.splitName name)]
  simp only [Prod.mk.injEq, exists_and_left, exists_eq', and_true]

lemma extension?_iff {path ext : Text} :
    Path.extension? ⟨path⟩ = some ext ↔ HasExtension path ext := by
  simp only [Path.extension?, Option.bind_eq_some_iff, fileName?_iff, HasExtension, splitsName_iff]
  refine exists_congr fun name => ?_
  rw [exists_and_left, ← Prod.eta (Path.splitName name)]
  simp only [Prod.mk.injEq, exists_and_right, exists_eq', true_and]

end AsmExplorer.Proofs
