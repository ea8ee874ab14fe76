import AsmExplorer.Compile.ToolFinder
import AsmExplorer.Proofs.FileNames
import AsmExplorer.Proofs.FirstOccurrences
import AsmExplorer.Proofs.ShellHost
import Mathlib.Data.Char
import Mathlib.Data.List.Lex

/-!
# The choice of a tool

Which tool is found for a compiler: the one with the name made from the compiler's own, or else the
plain one, or else the least one in the compiler's directory, or else the one beside the compiler
that this directory did not show. Only what directories hold counts, and not the order in which they
list it.
-/

namespace AsmExplorer.Proofs
open ToolFinder

/-! ### What can be chosen -/

/-- Whether a path leads to a program. -/
def IsProgramAt (host : Host) (p : Path) : Prop :=
  ∃ n, host.files.nodeAt? host.directory p = some n ∧ FileSystem.isExecutable n = true

/-- The first program of a name in the directories of a search path. -/
def FoundOnPath (host : Host) (searchPath name : Text) (p : Path) : Prop :=
  ∃ earlier entry later, searchPath.splitOn ':' = earlier ++ entry :: later ∧
    p = (entryDirectory host entry).join ⟨name⟩ ∧ IsProgramAt host p ∧
    ∀ e ∈ earlier, ¬IsProgramAt host ((entryDirectory host e).join ⟨name⟩)

/-- The directory of a compiler. -/
inductive IsDirectoryOf (f : ToolFinder) (host : Host) (compiler : Path) : Path → Prop
  /-- The one in its path. -/
  | own {d : Path} : compiler.parent? = some d → d.text ≠ [] → IsDirectoryOf f host compiler d
  /-- Without one in its path, the one in which it is found. -/
  | found {p d : Path} : (∀ d, compiler.parent? = some d → d.text = []) →
    FoundOnPath host (f.searchPath.getD host.searchPath) compiler.text p → p.parent? = some d →
    IsDirectoryOf f host compiler d

/-- A name with the extension of a compiler behind a dot, or by itself if the compiler has none. -/
inductive Extends (compiler : Path) (base : Text) : Text → Prop
  | dotted {ext : Text} : HasExtension compiler.text ext →
    Extends compiler base (base ++ '.' :: ext)
  | bare : (∀ ext, ¬HasExtension compiler.text ext) → Extends compiler base base

/-- The fragments of compiler names that the tool takes the place of. -/
def compilerFragments : List Text :=
  ["clang++", "clang", "g++", "gcc", "c++", "cc"].map String.toList

/-- The name of a compiler with the tool in place of the first compiler fragment that it holds. -/
def IsGuess (f : ToolFinder) (compiler : Path) (name : Text) : Prop :=
  ∃ stem earlier word later before after, HasStem compiler.text stem ∧
    compilerFragments = earlier ++ word :: later ∧ (∀ w ∈ earlier, ¬w <:+: stem) ∧
    FirstAt word stem before after ∧ Extends compiler (before ++ f.tool ++ after) name

/-- The name of the tool with the extension of the compiler. -/
def IsSuffix (f : ToolFinder) (compiler : Path) (suffix : Text) : Prop :=
  Extends compiler f.tool suffix

/-- Whether a directory holds a name that ends as the tool's. -/
def Offers (f : ToolFinder) (host : Host) (compiler d : Path) (name : Text) : Prop :=
  name ∈ host.names d ∧ ∃ suffix, IsSuffix f compiler suffix ∧ suffix <:+ name

/-- The tool to be found for a compiler. -/
inductive Finds (f : ToolFinder) (host : Host) (compiler : Path) : Path → Prop
  | preferred {d : Path} {name : Text} : IsDirectoryOf f host compiler d →
    IsGuess f compiler name → Offers f host compiler d name →
    Finds f host compiler (d.join ⟨name⟩)
  | plain {d : Path} {suffix : Text} : IsDirectoryOf f host compiler d →
    (∀ name, IsGuess f compiler name → ¬Offers f host compiler d name) →
    IsSuffix f compiler suffix → suffix ∈ host.names d → Finds f host compiler (d.join ⟨suffix⟩)
  | least {d : Path} {name : Text} : IsDirectoryOf f host compiler d →
    (∀ name, IsGuess f compiler name → ¬Offers f host compiler d name) →
    (∀ suffix, IsSuffix f compiler suffix → suffix ∉ host.names d) → Offers f host compiler d name →
    (∀ other, Offers f host compiler d other → name ≤ other) →
    Finds f host compiler (d.join ⟨name⟩)
  | beside {parent : Path} {name : Text} : (∀ d, IsDirectoryOf f host compiler d →
      ∀ other, ¬Offers f host compiler d other) →
    compiler.parent? = some parent → IsGuess f compiler name →
    host.pathExists (parent.join ⟨name⟩) = true → Finds f host compiler (parent.join ⟨name⟩)

/-- Two hosts that differ at most in the order in which their files are listed. -/
structure Relisted (host host' : Host) : Prop where
  nodes : host.files.nodes.pairs.Perm host'.files.nodes.pairs
  directory : host.directory = host'.directory
  searchPath : host.searchPath = host'.searchPath
  home : host.home = host'.home

/-- How a compiler for which nothing is kept gets its tool. -/
structure FollowsOrder (f : ToolFinder) (host : Host) (compiler : Text) : Prop where
  found : ∀ p, Finds f host ⟨compiler⟩ p →
    (f.resolve host compiler).2 = p ∧ (f.resolve host compiler).1.cached? compiler = some p
  missing : (∀ p, ¬Finds f host ⟨compiler⟩ p) →
    (f.resolve host compiler).2 = ⟨f.tool⟩ ∧ (f.resolve host compiler).1.cached? compiler = none
  others : ∀ c, c ≠ compiler → (f.resolve host compiler).1.cached? c = f.cached? c
  anyListing : ∀ host', Relisted host host' → f.resolve host' compiler = f.resolve host compiler

/-! ### The least name -/

lemma cons_le_cons_iff {a b : Char} {s t : Text} :
    a :: s ≤ b :: t ↔ a < b ∨ a = b ∧ s ≤ t := by
  have hlt : a :: s < b :: t ↔ a < b ∨ a = b ∧ s < t := List.cons_lt_cons_iff
  rw [le_iff_lt_or_eq, le_iff_lt_or_eq, hlt, List.cons_eq_cons, and_or_left, or_assoc]

lemma compare_isLE_iff (s t : Text) : (Text.compare s t).isLE = true ↔ s ≤ t := by
  induction s generalizing t with
  | nil =>
    cases t with
    | nil => simp [Text.compare]
    | cons b t => simp [Text.compare, le_iff_lt_or_eq]
  | cons a s ih =>
    cases t with
    | nil => simp [Text.compare]
    | cons b t =>
      rw [Text.compare, cons_le_cons_iff, ← ih, ← Char.toNat_inj]
      have hlt : a < b ↔ a.toNat < b.toNat := Iff.rfl
      rw [hlt]
      rcases Nat.lt_trichotomy a.toNat b.toNat with h | h | h
      · simp [Nat.compare_eq_lt.mpr h, h]
      · simp [h]
      · have hne : ¬a.toNat = b.toNat := by omega
        simp [Nat.compare_eq_gt.mpr h, hne, Nat.le_of_lt h]

lemma least?_cons_ne_none (first : Text) (rest : List Text) : least? (first :: rest) ≠ none := by
  rw [least?]
  cases least? rest with
  | none => exact Option.some_ne_none first
  | some other =>
    by_cases hle : (Text.compare first other).isLE = true
    · simp [hle]
    · simp [hle]

lemma least?_spec {names : List Text} {name : Text} (h : least? names = some name) :
    name ∈ names ∧ ∀ other ∈ names, name ≤ other := by
  induction names generalizing name with
  | nil => cases h
  | cons first rest ih =>
    rw [least?] at h
    cases hrest : least? rest with
    | none =>
      cases rest with
      | nil => simp_all
      | cons second rest => exact absurd hrest (least?_cons_ne_none second rest)
    | some other =>
      obtain ⟨hmem, hleast⟩ := ih hrest
      simp only [hrest] at h
      split at h
      · next hle =>
        obtain rfl := Option.some.inj h
        have hle := (compare_isLE_iff first other).mp hle
        refine ⟨List.mem_cons_self, fun o ho => ?_⟩
        rcases List.mem_cons.mp ho with rfl | ho
        · exact le_refl o
        · exact le_trans hle (hleast o ho)
      · next hgt =>
        obtain rfl := Option.some.inj h
        have hnot : ¬first ≤ other := fun hle => hgt ((compare_isLE_iff first other).mpr hle)
        have hle : other ≤ first := (le_total other first).resolve_right hnot
        refine ⟨List.mem_cons_of_mem first hmem, fun o ho => ?_⟩
        rcases List.mem_cons.mp ho with rfl | ho
        · exact hle
        · exact hleast o ho

lemma least?_eq_some {names : List Text} {name : Text} (hmem : name ∈ names)
    (hleast : ∀ other ∈ names, name ≤ other) : least? names = some name := by
  cases hfound : least? names with
  | none =>
    cases names with
    | nil => cases hmem
    | cons first rest => exact absurd hfound (least?_cons_ne_none first rest)
  | some other =>
    obtain ⟨hother, hbelow⟩ := least?_spec hfound
    rw [le_antisymm (hbelow name hmem) (hleast other hother)]

/-! ### Choosing among names -/

section

variable {names : List Text} {ending name : Text} {preferred : Option Text}

lemma mem_candidates : name ∈ names.filter ending.isSuffixOf ↔ name ∈ names ∧ ending <:+ name := by
  rw [List.mem_filter, List.isSuffixOf_iff_suffix]

lemma choose?_preferred (h : name ∈ names) (hends : ending <:+ name) :
    choose? names ending (some name) = some name := by
  have hkept : (some name).filter (names.filter ending.isSuffixOf).contains = some name := by
    rw [Option.filter_eq_some_iff, List.contains_iff_mem]
    exact ⟨rfl, mem_candidates.mpr ⟨h, hends⟩⟩
  simp only [choose?, hkept]

section

variable (hpreferred : ∀ name ∈ preferred, name ∈ names → ¬ending <:+ name)

include hpreferred

lemma choose?_unpreferred :
    choose? names ending preferred =
      if ending ∈ names then some ending else least? (names.filter ending.isSuffixOf) := by
  have hnone : preferred.filter (names.filter ending.isSuffixOf).contains = none := by
    rw [Option.filter_eq_none_iff]
    intro name hname hcontains
    obtain ⟨hmem, hends⟩ := mem_candidates.mp (List.contains_iff_mem.mp hcontains)
    exact hpreferred name hname hmem hends
  have hplain : (names.filter ending.isSuffixOf).contains ending = true ↔ ending ∈ names := by
    rw [List.contains_iff_mem, mem_candidates]
    exact and_iff_left List.suffix_rfl
  simp only [choose?, hnone, hplain]

lemma choose?_plain (h : ending ∈ names) : choose? names ending preferred = some ending := by
  rw [choose?_unpreferred hpreferred, if_pos h]

lemma choose?_least (hplain : ending ∉ names) (h : name ∈ names) (hends : ending <:+ name)
    (hleast : ∀ other ∈ names, ending <:+ other → name ≤ other) :
    choose? names ending preferred = some name := by
  rw [choose?_unpreferred hpreferred, if_neg hplain]
  refine least?_eq_some (mem_candidates.mpr ⟨h, hends⟩) fun other hother => ?_
  exact hleast other (mem_candidates.mp hother).1 (mem_candidates.mp hother).2

end

lemma choose?_none (h : ∀ name ∈ names, ¬ending <:+ name) :
    choose? names ending preferred = none := by
  have hplain : ending ∉ names := fun hmem => h ending hmem List.suffix_rfl
  have hnil : names.filter ending.isSuffixOf = [] := by
    rw [List.eq_nil_iff_forall_not_mem]
    exact fun name hname => h name (mem_candidates.mp hname).1 (mem_candidates.mp hname).2
  rw [choose?_unpreferred fun name _ => h name, if_neg hplain, hnil]
  rfl

end

/-! ### The directory and the guess -/

section

variable {f : ToolFinder} {host : Host} {compiler p d : Path} {name : Text}

lemma isProgramAt_iff :
    (host.files.nodeAt? host.directory p).any FileSystem.isExecutable = true ↔
      IsProgramAt host p := by
  rw [Option.any_eq_true]
  rfl

lemma locate?_eq_some_iff {searchPath : Text} :
    locate? host searchPath name = some p ↔ FoundOnPath host searchPath name p := by
  rw [locate?, List.find?_map, Option.map_eq_some_iff]
  constructor
  · rintro ⟨entry, hfind, rfl⟩
    obtain ⟨hprogram, earlier, later, hsplit, hearlier⟩ := List.find?_eq_some_iff_append.mp hfind
    refine ⟨earlier, entry, later, hsplit, rfl, isProgramAt_iff.mp hprogram, fun e he hmore => ?_⟩
    have hnone := hearlier e he
    rw [Function.comp_apply, isProgramAt_iff.mpr hmore] at hnone
    cases hnone
  · rintro ⟨earlier, entry, later, hsplit, rfl, hprogram, hearlier⟩
    refine ⟨entry, List.find?_eq_some_iff_append.mpr ⟨isProgramAt_iff.mpr hprogram, earlier, later,
      hsplit, fun e he => ?_⟩, rfl⟩
    rw [Function.comp_apply, Bool.not_eq_true', Bool.eq_false_iff]
    exact fun hmore => hearlier e he (isProgramAt_iff.mp hmore)

lemma directory?_eq_some_iff :
    f.directory? host compiler = some d ↔ IsDirectoryOf f host compiler d := by
  rw [directory?]
  split
  · next c rest hparent =>
    constructor
    · intro h
      obtain rfl := Option.some.inj h
      exact .own hparent (List.cons_ne_nil c rest)
    · rintro (⟨hown, -⟩ | ⟨hbare, -, -⟩)
      · exact hparent.symm.trans hown
      · exact absurd (hbare _ hparent) (List.cons_ne_nil c rest)
  · next hparent =>
    have hbare : ∀ d, compiler.parent? = some d → d.text = [] := by
      intro d hd
      obtain ⟨text⟩ := d
      cases text with
      | nil => rfl
      | cons c rest => exact absurd hd (hparent c rest)
    rw [Option.bind_eq_some_iff]
    constructor
    · rintro ⟨p, hlocate, hp⟩
      exact .found hbare (locate?_eq_some_iff.mp hlocate) hp
    · rintro (⟨hown, hne⟩ | ⟨-, hfound, hp⟩)
      · exact absurd (hbare d hown) hne
      · exact ⟨_, locate?_eq_some_iff.mpr hfound, hp⟩

lemma extends_iff {base : Text} :
    Extends compiler base name ↔ addExtension base compiler.extension? = name := by
  have hextension : ∀ ext, HasExtension compiler.text ext ↔ compiler.extension? = some ext :=
    fun ext => extension?_iff.symm
  constructor
  · intro h
    cases h with
    | dotted hext => rw [(hextension _).mp hext, addExtension]
    | bare hnone =>
      simp only [hextension, ← Option.eq_none_iff_forall_ne_some] at hnone
      rw [hnone, addExtension]
  · rintro rfl
    cases hext : compiler.extension? with
    | some ext => exact .dotted ((hextension ext).mpr hext)
    | none => exact .bare (by simp [hextension, hext])

lemma isSuffix_iff : IsSuffix f compiler name ↔ f.ending compiler = name :=
  extends_iff

lemma offers_iff : Offers f host compiler d name ↔ name ∈ host.names d ∧ f.ending compiler <:+ name := by
  simp only [Offers, isSuffix_iff, exists_eq_left']

lemma compilerWords_eq : compilerWords = compilerFragments := rfl

lemma guessedName?_eq_some_iff :
    f.guessedName? compiler = some name ↔ IsGuess f compiler name := by
  have hstem : ∀ stem, HasStem compiler.text stem ↔ compiler.fileStem? = some stem :=
    fun stem => fileStem?_iff.symm
  simp only [guessedName?, Option.bind_eq_bind, Option.bind_eq_some_iff, Option.pure_def,
    Option.some.injEq, List.find?_eq_some_iff_append, compilerWords_eq, IsGuess, extends_iff, hstem]
  constructor
  · rintro ⟨stem, hstem, word, ⟨hoccurs, earlier, later, hwords, hearlier⟩, rfl⟩
    have hnot : ∀ w ∈ earlier, ¬w <:+: stem := by
      intro w hw hin
      have hnone := hearlier w hw
      rw [occursIn_iff.mpr hin] at hnone
      cases hnone
    cases hcut : Text.splitAtFirst? word stem with
    | none => exact absurd (occursIn_iff.mp hoccurs) (splitAtFirst?_eq_none_iff.mp hcut)
    | some cut =>
      refine ⟨stem, earlier, word, later, cut.1, cut.2, hstem, hwords, hnot,
        splitAtFirst?_eq_some_iff.mp hcut, ?_⟩
      rw [Text.replaceFirst, hcut]
  · rintro ⟨stem, earlier, word, later, before, after, hstem, hwords, hearlier, hfirst, rfl⟩
    have hoccurs : word <:+: stem := ⟨before, after, hfirst.split.symm⟩
    refine ⟨stem, hstem, word, ⟨occursIn_iff.mpr hoccurs, earlier, later, hwords, ?_⟩, ?_⟩
    · intro w hw
      rw [Bool.not_eq_true', Bool.eq_false_iff]
      exact fun hmore => hearlier w hw (occursIn_iff.mp hmore)
    · rw [Text.replaceFirst, splitAtFirst?_eq_some_iff.mpr hfirst]

/-! ### The tool that is found -/

lemma inDirectory?_of_directory (hd : IsDirectoryOf f host compiler d) :
    f.inDirectory? host compiler =
      (choose? (host.names d) (f.ending compiler) (f.guessedName? compiler)).map
        fun name => d.join ⟨name⟩ := by
  rw [inDirectory?, directory?_eq_some_iff.mpr hd, Option.map_eq_bind]
  rfl

/-- A directory that shows no tool is as good as none. -/
lemma inDirectory?_eq_none (h : ∀ d, IsDirectoryOf f host compiler d →
    ∀ other, ¬Offers f host compiler d other) : f.inDirectory? host compiler = none := by
  cases hdirectory : f.directory? host compiler with
  | none => simp [inDirectory?, hdirectory]
  | some d =>
    have hd := directory?_eq_some_iff.mp hdirectory
    have hnone : choose? (host.names d) (f.ending compiler) (f.guessedName? compiler) = none :=
      choose?_none fun name hname hends => h d hd name (offers_iff.mpr ⟨hname, hends⟩)
    rw [inDirectory?_of_directory hd, hnone]
    rfl

lemma withFileName_of_guess (h : IsGuess f compiler name) :
    ∃ d, compiler.parent? = some d ∧ ∀ other, compiler.withFileName other = d.join ⟨other⟩ := by
  obtain ⟨_, _, _, _, _, _, ⟨file, _, hfile, -⟩, -⟩ := h
  exact withFileName_eq (fileName?_iff.mpr hfile)

lemma besideCompiler?_eq_some_iff :
    f.besideCompiler? host compiler = some p ↔
      ∃ d name, compiler.parent? = some d ∧ IsGuess f compiler name ∧ host.pathExists p = true ∧
        d.join ⟨name⟩ = p := by
  rw [besideCompiler?, Option.filter_eq_some_iff, Option.map_eq_some_iff]
  constructor
  · rintro ⟨⟨name, hname, rfl⟩, hexists⟩
    have hguess := guessedName?_eq_some_iff.mp hname
    obtain ⟨d, hparent, hreplaced⟩ := withFileName_of_guess hguess
    exact ⟨d, name, hparent, hguess, hexists, (hreplaced name).symm⟩
  · rintro ⟨d, name, hparent, hguess, hexists, rfl⟩
    obtain ⟨d', hparent', hreplaced⟩ := withFileName_of_guess hguess
    obtain rfl := Option.some.inj (hparent.symm.trans hparent')
    exact ⟨⟨name, guessedName?_eq_some_iff.mpr hguess, hreplaced name⟩, hexists⟩

/-- No name that is preferred is offered. -/
lemma unpreferred_of_unoffered
    (h : ∀ name, IsGuess f compiler name → ¬Offers f host compiler d name) :
    ∀ name ∈ f.guessedName? compiler, name ∈ host.names d → ¬f.ending compiler <:+ name :=
  fun name hguess hmem hends =>
    h name (guessedName?_eq_some_iff.mp hguess) (offers_iff.mpr ⟨hmem, hends⟩)

lemma lookup?_of_finds {compiler : Text} (h : Finds f host ⟨compiler⟩ p) :
    f.lookup? host compiler = some p := by
  rw [lookup?]
  cases h with
  | preferred hd hguess hoffers =>
    obtain ⟨hmem, hends⟩ := offers_iff.mp hoffers
    rw [inDirectory?_of_directory hd, guessedName?_eq_some_iff.mpr hguess,
      choose?_preferred hmem hends]
    rfl
  | plain hd hunoffered hsuffix hplain =>
    obtain rfl := isSuffix_iff.mp hsuffix
    rw [inDirectory?_of_directory hd, choose?_plain (unpreferred_of_unoffered hunoffered) hplain]
    rfl
  | least hd hunoffered hplain hoffers hleast =>
    obtain ⟨hmem, hends⟩ := offers_iff.mp hoffers
    have hbelow : ∀ other ∈ host.names _, f.ending ⟨compiler⟩ <:+ other → _ ≤ other :=
      fun other hother hmore => hleast other (offers_iff.mpr ⟨hother, hmore⟩)
    rw [inDirectory?_of_directory hd, choose?_least (unpreferred_of_unoffered hunoffered)
      (hplain _ (isSuffix_iff.mpr rfl)) hmem hends hbelow]
    rfl
  | beside hnone hparent hguess hexists =>
    rw [inDirectory?_eq_none hnone, Option.none_or]
    exact besideCompiler?_eq_some_iff.mpr ⟨_, _, hparent, hguess, hexists, rfl⟩

/-- A directory with a name that ends as the tool's has a tool to be found. -/
lemma exists_finds_of_offers (hd : IsDirectoryOf f host compiler d)
    (hoffers : Offers f host compiler d name) : ∃ p, Finds f host compiler p := by
  by_cases hguessed : ∃ guess, IsGuess f compiler guess ∧ Offers f host compiler d guess
  · obtain ⟨guess, hguess, hoffered⟩ := hguessed
    exact ⟨_, .preferred hd hguess hoffered⟩
  · have hunoffered : ∀ guess, IsGuess f compiler guess → ¬Offers f host compiler d guess :=
      fun guess hguess hoffered => hguessed ⟨guess, hguess, hoffered⟩
    by_cases hplain : f.ending compiler ∈ host.names d
    · exact ⟨_, .plain hd hunoffered (isSuffix_iff.mpr rfl) hplain⟩
    · have hcandidate := mem_candidates.mpr (offers_iff.mp hoffers)
      cases hleast : least? ((host.names d).filter (f.ending compiler).isSuffixOf) with
      | none =>
        obtain ⟨first, rest, hcons⟩ := List.exists_cons_of_ne_nil (List.ne_nil_of_mem hcandidate)
        rw [hcons] at hleast
        exact absurd hleast (least?_cons_ne_none first rest)
      | some least =>
        obtain ⟨hmem, hbelow⟩ := least?_spec hleast
        exact ⟨_, .least hd hunoffered (fun suffix hsuffix => isSuffix_iff.mp hsuffix ▸ hplain)
          (offers_iff.mpr (mem_candidates.mp hmem))
          fun other hother => hbelow other (mem_candidates.mpr (offers_iff.mp hother))⟩

lemma lookup?_eq_some_iff {compiler : Text} :
    f.lookup? host compiler = some p ↔ Finds f host ⟨compiler⟩ p := by
  refine ⟨fun h => ?_, lookup?_of_finds⟩
  by_cases hoffered : ∃ d name, IsDirectoryOf f host ⟨compiler⟩ d ∧ Offers f host ⟨compiler⟩ d name
  · obtain ⟨d, name, hd, hoffers⟩ := hoffered
    obtain ⟨q, hq⟩ := exists_finds_of_offers hd hoffers
    obtain rfl := Option.some.inj (h.symm.trans (lookup?_of_finds hq))
    exact hq
  · have hnone : ∀ d, IsDirectoryOf f host ⟨compiler⟩ d →
        ∀ other, ¬Offers f host ⟨compiler⟩ d other :=
      fun d hd name hoffers => hoffered ⟨d, name, hd, hoffers⟩
    rw [lookup?, inDirectory?_eq_none hnone, Option.none_or] at h
    obtain ⟨d, name, hparent, hguess, hexists, rfl⟩ := besideCompiler?_eq_some_iff.mp h
    exact .beside hnone hparent hguess hexists

end

/-! ### The order of listings -/

section

variable {host host' : Host}

lemma relisted_symm (h : Relisted host host') : Relisted host' host :=
  ⟨h.nodes.symm, h.directory.symm, h.searchPath.symm, h.home.symm⟩

lemma node?_relisted (h : Relisted host host') (l : Location) :
    host'.files.node? l = host.files.node? l := by
  have hget : host'.files.nodes.get? l = host.files.nodes.get? l := by
    refine Option.ext fun entry => ?_
    rw [← Table.mem_pairs_iff, ← Table.mem_pairs_iff]
    exact h.nodes.mem_iff.symm
  rw [FileSystem.node?, FileSystem.node?, hget]

lemma walkNames_relisted (h : Relisted host host') (limit : Option Nat) (followLast : Bool)
    (onLink : Location → Text → List Text → Walk) (l : Location) (names : List Text) :
    host'.files.walkNames limit followLast onLink l names =
      host.files.walkNames limit followLast onLink l names := by
  induction names generalizing l with
  | nil => rfl
  | cons name rest ih =>
    simp only [FileSystem.walkNames, FileSystem.hasDirectory, node?_relisted h, ih]
    rfl

lemma walk_relisted (h : Relisted host host') (limit : Option Nat) (followLast : Bool) (links : Nat)
    (l : Location) (names : List Text) :
    host'.files.walk limit followLast links l names =
      host.files.walk limit followLast links l names := by
  induction links generalizing l names with
  | zero => exact walkNames_relisted h limit followLast _ l names
  | succ links ih =>
    rw [FileSystem.walk, FileSystem.walk, walkNames_relisted h]
    simp only [ih]

lemma locate_relisted (h : Relisted host host') (base : Location) (p : Path) :
    host'.files.locate base p = host.files.locate base p := by
  simp only [FileSystem.locate, FileSystem.walkPath, walk_relisted h]

lemma nodeAt?_relisted (h : Relisted host host') (p : Path) :
    host'.files.nodeAt? host'.directory p = host.files.nodeAt? host.directory p := by
  simp only [FileSystem.nodeAt?, locate_relisted h, node?_relisted h, h.directory]

lemma mem_names_relisted (h : Relisted host host') (d : Path) (name : Text) :
    name ∈ host'.names d ↔ name ∈ host.names d := by
  have hperm : ∀ l, (host'.files.names l).Perm (host.files.names l) := fun l =>
    (((h.nodes.symm.map Prod.fst).filter _).filterMap _)
  simp only [Host.names, locate_relisted h, h.directory, FileSystem.hasDirectory, node?_relisted h]
  cases host.files.locate host'.directory d with
  | error e => rfl
  | ok l =>
    by_cases hdirectory : (host.files.node? l == some .directory) = true
    · simp only [hdirectory, if_true]
      exact (hperm l).mem_iff
    · simp only [hdirectory]
      rfl

lemma isDirectoryOf_relisted {f : ToolFinder} {compiler d : Path} (h : Relisted host host') :
    IsDirectoryOf f host' compiler d ↔ IsDirectoryOf f host compiler d := by
  have hentry : ∀ entry, entryDirectory host' entry = entryDirectory host entry := by
    intro entry
    simp only [entryDirectory, h.home]
  rw [← directory?_eq_some_iff, ← directory?_eq_some_iff]
  simp only [directory?, locate?, hentry, nodeAt?_relisted h, h.searchPath]

lemma finds_of_relisted {f : ToolFinder} {compiler p : Path} (h : Relisted host host')
    (hp : Finds f host compiler p) : Finds f host' compiler p := by
  have hoffers : ∀ d name, Offers f host' compiler d name ↔ Offers f host compiler d name :=
    fun d name => and_congr_left' (mem_names_relisted h d name)
  cases hp with
  | preferred hd hguess hoffered =>
    exact .preferred ((isDirectoryOf_relisted h).mpr hd) hguess ((hoffers _ _).mpr hoffered)
  | plain hd hunoffered hsuffix hplain =>
    exact .plain ((isDirectoryOf_relisted h).mpr hd)
      (fun name hguess hoffered => hunoffered name hguess ((hoffers _ _).mp hoffered)) hsuffix
      ((mem_names_relisted h _ _).mpr hplain)
  | least hd hunoffered hplain hoffered hleast =>
    exact .least ((isDirectoryOf_relisted h).mpr hd)
      (fun name hguess hoffered => hunoffered name hguess ((hoffers _ _).mp hoffered))
      (fun suffix hsuffix hmem => hplain suffix hsuffix ((mem_names_relisted h _ _).mp hmem))
      ((hoffers _ _).mpr hoffered)
      (fun other hother => hleast other ((hoffers _ _).mp hother))
  | beside hnone hparent hguess hexists =>
    refine .beside (fun d hd other hother => ?_) hparent hguess ?_
    · exact hnone d ((isDirectoryOf_relisted h).mp hd) other ((hoffers _ _).mp hother)
    · rwa [Host.pathExists, FileSystem.pathExists, nodeAt?_relisted h]

lemma lookup?_relisted (h : Relisted host host') (f : ToolFinder) (compiler : Text) :
    f.lookup? host' compiler = f.lookup? host compiler := by
  -- both lookups find the same tool, though they go through the names in different orders
  refine Option.ext fun p => ?_
  rw [lookup?_eq_some_iff, lookup?_eq_some_iff]
  exact ⟨finds_of_relisted (relisted_symm h), finds_of_relisted h⟩

end

/-! ### Keeping what is found -/

lemma cached?_remember (f : ToolFinder) (compiler c : Text) (p : Path) :
    (f.remember compiler (some p)).cached? c = if c = compiler then some p else f.cached? c :=
  Table.get?_insert f.found compiler c p

lemma resolve_of_new {f : ToolFinder} {compiler : Text} (h : f.cached? compiler = none)
    (host : Host) :
    f.resolve host compiler =
      (f.remember compiler (f.lookup? host compiler), (f.lookup? host compiler).getD ⟨f.tool⟩) := by
  rw [resolve, h]

/-- A compiler for which nothing is kept gets the tool that is found in the order of the choices,
and the bare name if none is. What is found is kept for it alone, and no listing changes any of
this. -/
theorem resolve_follows_order (f : ToolFinder) (host : Host) (compiler : Text)
    (hnew : f.cached? compiler = none) : FollowsOrder f host compiler := by
  have hresolve := resolve_of_new hnew
  refine ⟨fun p hp => ?_, fun hnone => ?_, fun c hc => ?_, fun host' h => ?_⟩
  · rw [hresolve, lookup?_of_finds hp, cached?_remember, if_pos rfl]
    exact ⟨rfl, rfl⟩
  · have hlookup : f.lookup? host compiler = none := by
      rw [Option.eq_none_iff_forall_ne_some]
      exact fun p hp => hnone p (lookup?_eq_some_iff.mp hp)
    rw [hresolve, hlookup]
    exact ⟨rfl, hnew⟩
  · rw [hresolve]
    cases f.lookup? host compiler with
    | none => rfl
    | some p => rw [cached?_remember, if_neg hc]
  · rw [hresolve, hresolve, lookup?_relisted h]

/-- A host with two compilers on its search path and tools for other compilers beside them. -/
def crossHost : Host :=
  shellHost [("g++", .file [] true), ("mips-c++filt", textFile ""), ("arm-c++filt", textFile ""),
    ("clang.exe", .file [] true), ("mips-c++filt.exe", textFile ""), ("avr-c++filt.exe", textFile "")]

/-- The finder of the usual demangler. -/
def filtFinder : ToolFinder := { tool := "c++filt".toList }

/-- The tool that is found ends in the extension of the compiler, though a name that ends in the bare
name of the tool is less. -/
theorem resolve_follows_order_to_least :
    filtFinder.cached? "clang.exe".toList = none ∧
      Finds filtFinder crossHost (.ofString "clang.exe") (.ofString "/avr-c++filt.exe") ∧
      (filtFinder.resolve crossHost "clang.exe".toList).2 = .ofString "/avr-c++filt.exe" ∧
      (filtFinder.resolve crossHost "clang.exe".toList).1.cached? "clang.exe".toList =
        some (.ofString "/avr-c++filt.exe") := by
  have hfinds : Finds filtFinder crossHost (.ofString "clang.exe") (.ofString "/avr-c++filt.exe") :=
    lookup?_eq_some_iff.mp (by decide +kernel)
  exact ⟨rfl, hfinds,
    (resolve_follows_order filtFinder crossHost "clang.exe".toList rfl).found _ hfinds⟩

end AsmExplorer.Proofs
