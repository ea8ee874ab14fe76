import AsmExplorer.Proofs.CanonicalPaths
import AsmExplorer.Proofs.ShellHost
import Mathlib.Algebra.Group.Nat.Even
import Mathlib.Data.List.DropRight
import Mathlib.Tactic.Lemma

/-!
# Lexical normal forms

In the lexical normal form of a path no `.` is left, every `..` has taken the name before it away,
and a `..` at the root is gone; those at the front of a relative path are kept. In a tree without
links that form leads where the path leads. Normalizing makes another form of a relative path with two
`..` at the front, for the second takes the first away, and of an absolute one with an odd number of
them at the root, for one stays.
-/

namespace AsmExplorer.Proofs
open FileSystem

/-! ### The form of a path and the place it leads to -/

/-- The components in lexical normal form after one more, the last one first. -/
def pushLexical (stack : List Component) : Component → List Component
  | .current => stack
  | .parent =>
    match stack with
    | .name _ :: rest => rest
    | .root :: rest => .root :: rest
    | stack => .parent :: stack
  | c => c :: stack

/-- The path of a list of components; without any it is the current directory. -/
def pathOf : List Component → Path
  | [] => ⟨['.']⟩
  | cs => Path.ofComponents cs

/-- The lexical normal form. -/
def lexicalForm (p : Path) : Path :=
  pathOf (p.components.foldl pushLexical []).reverse

/-- The place that a component leads to, where nothing is a link. -/
def goTo (l : Location) : Component → Location
  | .root => []
  | .current => l
  | .parent => l.dropLast
  | .name n => l ++ [n]

/-- The place that a path leads to from a directory, where nothing is a link. -/
def placeOf (base : Location) (p : Path) : Location :=
  p.components.foldl goTo base

/-- How a path runs: the number of `..` with no name before them, and the names that no `..` takes
away, the last one first. -/
structure Trail where
  climb : Nat := 0
  names : List Text := []

def Trail.step (t : Trail) : Component → Trail
  | .parent =>
    match t.names with
    | [] => { t with climb := t.climb + 1 }
    | _ :: rest => { t with names := rest }
  | .name n => { t with names := n :: t.names }
  | _ => t

def trail (p : Path) : Trail :=
  p.components.foldl Trail.step {}

/-- The trail after one more segment between slashes. -/
def Trail.read (t : Trail) (segment : Text) : Trail :=
  match Component.ofSegment? segment with
  | some c => t.step c
  | none => t

/-- A tree of files has no links. -/
def NoLinks (fs : FileSystem) : Prop :=
  ∀ l target, fs.node? l ≠ some (.link target)

/-- Whether a node is a link. -/
def isLink : Node → Bool
  | .link _ => true
  | _ => false

lemma noLinks_of_pairs {fs : FileSystem} (h : fs.nodes.pairs.all fun entry => !isLink entry.2.1) :
    NoLinks fs := by
  intro l target hnode
  obtain ⟨⟨node, time⟩, hget, hlink⟩ := Option.map_eq_some_iff.mp hnode
  have hmem := (lookup_eq_some_iff_mem fs.nodes.nodup).mp hget
  have hno := List.all_eq_true.mp h _ hmem
  rw [show node = .link target from hlink] at hno
  cases hno

/-! ### Components along a trail -/

/-- The component that stands for the start of a path. -/
def rootOf (p : Path) : List Component :=
  if p.isAbsolute then [.root] else []

/-- A number of `..`, and names behind them. -/
def trailSteps (climb : Nat) (names : List Text) : List Component :=
  List.replicate climb .parent ++ (names.map .name).reverse

section

variable {p q : Path}

lemma front_absolute (h : p.isAbsolute = true) : p.front = ['/'] := by
  obtain ⟨text⟩ := p
  cases text with
  | nil => cases h
  | cons c t =>
    have hc : c = '/' := by simpa [Path.isAbsolute] using h
    subst hc
    rfl

lemma front_relative (h : p.isAbsolute = false) :
    p.front = [] ∨ p.front = ['.'] ∧ (p.text = ['.'] ∨ ∃ t, p.text = '.' :: '/' :: t) := by
  obtain ⟨text⟩ := p
  have hne : text.head? ≠ some '/' := by simpa [Path.isAbsolute] using h
  unfold Path.front
  dsimp only
  split
  · exact absurd rfl hne
  · exact .inr ⟨rfl, .inl rfl⟩
  · exact .inr ⟨rfl, .inr ⟨_, rfl⟩⟩
  · exact .inl rfl

/-- A path without a root begins like one that is empty, since a `.` in front is nothing. -/
lemma foldl_components {α : Type} {push : α → Component → α} {start : α}
    (hcurrent : push start .current = start) (p : Path) :
    p.components.foldl push start =
      (p.segments.filterMap Component.ofSegment?).foldl push ((rootOf p).foldl push start) := by
  rw [Path.components, List.foldl_append, rootOf, Path.frontComponent]
  cases habsolute : p.isAbsolute with
  | true =>
    rw [front_absolute habsolute]
    rfl
  | false =>
    rcases front_relative habsolute with hfront | ⟨hfront, -⟩
    · rw [hfront]
      rfl
    · rw [hfront]
      exact congrArg (fun stack => List.foldl push stack _) hcurrent

/-- What follows the trail step by step follows it to the end. -/
lemma foldl_along {α : Type} {push : α → Component → α} {shape : Trail → α}
    (hstep : ∀ t c, IsStep c → push (shape t) c = shape (t.step c)) {cs : List Component}
    (hcs : ∀ c ∈ cs, IsStep c) (t : Trail) :
    cs.foldl push (shape t) = shape (cs.foldl Trail.step t) := by
  induction cs generalizing t with
  | nil => rfl
  | cons c cs ih =>
    rw [List.foldl_cons, List.foldl_cons, hstep t c (hcs c List.mem_cons_self)]
    exact ih (fun d hd => hcs d (List.mem_cons_of_mem c hd)) (t.step c)

lemma trail_eq (p : Path) :
    trail p = (p.segments.filterMap Component.ofSegment?).foldl Trail.step {} := by
  rw [trail, foldl_components rfl, rootOf]
  split <;> rfl

/-- The slash or the dot in front of a path is silent. -/
lemma filterMap_splitOn (p : Path) :
    (p.text.splitOn '/').filterMap Component.ofSegment? =
      p.segments.filterMap Component.ofSegment? := by
  have hbehind : ∀ first t : Text, Component.ofSegment? first = none → '/' ∉ first →
      ((first ++ '/' :: t).splitOn '/').filterMap Component.ofSegment? =
        (t.splitOn '/').filterMap Component.ofSegment? := by
    intro first t hnone hslash
    rw [List.splitOn_append_cons_self_of_not_mem hslash, List.filterMap_cons_none hnone]
  have hempty : ∀ t : Text, (('/' :: t).splitOn '/').filterMap Component.ofSegment? =
      (t.splitOn '/').filterMap Component.ofSegment? := fun t => hbehind [] t rfl List.not_mem_nil
  rw [Path.segments]
  cases habsolute : p.isAbsolute with
  | true =>
    obtain ⟨t, ht⟩ : ∃ t, p.text = '/' :: t := by
      simpa [Path.isAbsolute, List.head?_eq_some_iff] using habsolute
    rw [front_absolute habsolute, ht]
    exact hempty t
  | false =>
    rcases front_relative habsolute with hfront | ⟨hfront, htext | ⟨t, htext⟩⟩
    · rw [hfront]
      rfl
    · rw [hfront, htext]
      rfl
    · rw [hfront, htext]
      exact (hbehind ['.'] t rfl (by decide)).trans (hempty t).symm

lemma trail_eq_read (p : Path) : trail p = (p.text.splitOn '/').foldl Trail.read {} := by
  rw [trail_eq, ← filterMap_splitOn, List.foldl_filterMap]
  congr 1
  funext t segment
  rw [Trail.read]
  cases Component.ofSegment? segment <;> rfl

/-- A path that is followed from its root on is followed along its trail. -/
lemma components_along {α : Type} {push : α → Component → α} {start : α} (shape : Trail → α)
    (hcurrent : push start .current = start) (hroot : (rootOf p).foldl push start = shape {})
    (hstep : ∀ t c, IsStep c → push (shape t) c = shape (t.step c)) :
    p.components.foldl push start = shape (trail p) := by
  rw [foldl_components hcurrent, hroot, trail_eq, foldl_along hstep (isStep_of_behind p)]

/-- A stack of names, of `..` below them, and of a root at the bottom. -/
def trailStack (root : List Component) (climb : Nat) (names : List Text) : List Component :=
  names.map .name ++ (List.replicate climb .parent ++ root)

lemma reverse_trailStack (p : Path) (climb : Nat) (names : List Text) :
    (trailStack (rootOf p) climb names).reverse = rootOf p ++ trailSteps climb names := by
  have hroot : (rootOf p).reverse = rootOf p := by
    unfold rootOf
    split <;> rfl
  simp [trailStack, trailSteps, hroot]

lemma rootOf_push {push : List Component → Component → List Component}
    (hpush : push [] .root = [.root]) (p : Path) : (rootOf p).foldl push [] = rootOf p := by
  unfold rootOf
  split
  · exact hpush
  · rfl

/-- In normal form every second `..` without a name before it takes the one before it away. -/
lemma normalizeComponents_eq (p : Path) :
    normalizeComponents p.components =
      rootOf p ++ trailSteps ((trail p).climb % 2) (trail p).names := by
  have halong : p.components.foldl pushComponent [] =
      trailStack (rootOf p) ((trail p).climb % 2) (trail p).names := by
    refine components_along (fun t => trailStack (rootOf p) (t.climb % 2) t.names) rfl
      (rootOf_push rfl p) ?_
    rintro ⟨climb, names⟩ c hc
    cases hc with
    | name hn => rfl
    | parent =>
      cases names with
      | cons n names => rfl
      | nil =>
        show pushComponent (trailStack (rootOf p) (climb % 2) []) .parent =
          trailStack (rootOf p) ((climb + 1) % 2) []
        rcases Nat.mod_two_eq_zero_or_one climb with hclimb | hclimb
        · rw [hclimb, show (climb + 1) % 2 = 1 by omega]
          unfold rootOf
          split <;> rfl
        · rw [hclimb, show (climb + 1) % 2 = 0 by omega]
          rfl
  rw [normalizeComponents, halong, reverse_trailStack]

/-- The number of `..` that are kept in the lexical normal form. -/
def keptClimb (p : Path) : Nat :=
  if p.isAbsolute then 0 else (trail p).climb

lemma lexicalComponents_eq (p : Path) :
    (p.components.foldl pushLexical []).reverse =
      rootOf p ++ trailSteps (keptClimb p) (trail p).names := by
  have halong : p.components.foldl pushLexical [] =
      trailStack (rootOf p) (keptClimb p) (trail p).names := by
    refine components_along
      (fun t => trailStack (rootOf p) (if p.isAbsolute then 0 else t.climb) t.names) rfl ?_ ?_
    · rw [rootOf_push rfl p]
      simp [trailStack]
    · rintro ⟨climb, names⟩ c hc
      cases hc with
      | name hn => rfl
      | parent =>
        cases names with
        | cons n names => rfl
        | nil =>
          show pushLexical (trailStack (rootOf p) _ []) .parent =
            trailStack (rootOf p) (if p.isAbsolute then 0 else climb + 1) []
          unfold rootOf
          split
          · rfl
          · cases climb <;> rfl
  rw [halong, reverse_trailStack]

lemma rootOf_goTo (base : Location) (p : Path) :
    (rootOf p).foldl goTo base = startOf base p.text := by
  rw [rootOf, startOf, Path.isAbsolute]
  by_cases h : p.text.head? = some '/' <;> simp [h, goTo]

lemma dropLast_rdrop (l : Location) (n : Nat) : (l.rdrop n).dropLast = l.rdrop (n + 1) := by
  rw [List.rdrop, List.rdrop, List.dropLast_eq_take, List.take_take, List.length_take]
  congr 1
  omega

/-- A path leads up from its start and then along its names. -/
lemma placeOf_eq (base : Location) (p : Path) :
    placeOf base p =
      (startOf base p.text).rdrop (trail p).climb ++ (trail p).names.reverse := by
  refine components_along
    (fun t => (startOf base p.text).rdrop t.climb ++ t.names.reverse) rfl ?_ ?_
  · rw [rootOf_goTo]
    simp
  · rintro ⟨climb, names⟩ c hc
    cases hc with
    | name hn => simp [goTo, Trail.step]
    | parent =>
      cases names with
      | nil => simp [goTo, Trail.step, dropLast_rdrop]
      | cons n names => simp [goTo, Trail.step, ← List.append_assoc]

/-! ### Paths spelled from a trail -/

lemma mem_names_foldl {cs : List Component} {t : Trail} {n : Text}
    (h : n ∈ (cs.foldl Trail.step t).names) : n ∈ t.names ∨ Component.name n ∈ cs := by
  induction cs generalizing t with
  | nil => exact .inl h
  | cons c cs ih =>
    rcases ih h with hstep | hmem
    · cases c with
      | root => exact .inl hstep
      | current => exact .inl hstep
      | parent =>
        refine .inl ?_
        cases hnames : t.names with
        | nil =>
          rw [Trail.step, hnames] at hstep
          simp at hstep
        | cons m rest =>
          rw [Trail.step, hnames] at hstep
          exact List.mem_cons_of_mem m hstep
      | name m =>
        rcases List.mem_cons.mp hstep with rfl | hstep
        · exact .inr List.mem_cons_self
        · exact .inl hstep
    · exact .inr (List.mem_cons_of_mem c hmem)

lemma mem_names_of_trail {n : Text} (h : n ∈ (trail p).names) :
    Component.name n ∈ p.segments.filterMap Component.ofSegment? := by
  rw [trail_eq] at h
  exact (mem_names_foldl h).resolve_left List.not_mem_nil

lemma isStep_of_trailSteps (p : Path) (climb : Nat) :
    ∀ c ∈ trailSteps climb (trail p).names, IsStep c := by
  intro c hc
  rcases List.mem_append.mp hc with hc | hc
  · rw [List.eq_of_mem_replicate hc]
    exact .parent
  · obtain ⟨n, hn, rfl⟩ := List.mem_map.mp (List.mem_reverse.mp hc)
    exact isStep_of_behind p _ (mem_names_of_trail hn)

lemma normalize_eq (p : Path) :
    p.normalize = pathOf (rootOf p ++ trailSteps ((trail p).climb % 2) (trail p).names) := by
  rw [← normalizeComponents_eq, Path.normalize]
  cases normalizeComponents p.components <;> rfl

lemma lexicalForm_eq (p : Path) :
    lexicalForm p = pathOf (rootOf p ++ trailSteps (keptClimb p) (trail p).names) := by
  rw [lexicalForm, lexicalComponents_eq]

variable {steps : List Component} (hsteps : ∀ c ∈ steps, IsStep c)

include hsteps

lemma components_pathOf (p : Path) :
    (pathOf (rootOf p ++ steps)).components =
      if rootOf p ++ steps = [] then [.current] else rootOf p ++ steps := by
  unfold rootOf
  split
  · exact components_of_root hsteps
  · cases steps with
    | nil => rfl
    | cons c steps => exact components_of_step hsteps

lemma placeOf_pathOf (base : Location) (p : Path) :
    placeOf base (pathOf (rootOf p ++ steps)) =
      steps.foldl goTo (startOf base p.text) := by
  rw [placeOf, components_pathOf hsteps, ← rootOf_goTo, ← List.foldl_append]
  split
  · next hnil =>
    rw [hnil]
    rfl
  · rfl

lemma isAbsolute_pathOf (p : Path) : (pathOf (rootOf p ++ steps)).isAbsolute = p.isAbsolute := by
  cases habsolute : p.isAbsolute with
  | true =>
    rw [rootOf, if_pos habsolute]
    rfl
  | false =>
    by_contra hroot
    have hfront := front_absolute (by simpa using hroot)
    have hcomponents := components_pathOf hsteps p
    rw [Path.components, Path.frontComponent, hfront, rootOf, habsolute] at hcomponents
    cases steps with
    | nil => simp at hcomponents
    | cons c steps =>
      have hc : Component.root = c := (List.cons.inj hcomponents).1
      cases hc ▸ hsteps c List.mem_cons_self

lemma text_pathOf_ne_nil (p : Path) : (pathOf (rootOf p ++ steps)).text ≠ [] := by
  intro htext
  have hcomponents := components_pathOf hsteps p
  have hempty : (pathOf (rootOf p ++ steps)).components = [] := by
    rw [show pathOf (rootOf p ++ steps) = ⟨[]⟩ from congrArg Path.mk htext]
    rfl
  rw [hempty] at hcomponents
  split at hcomponents
  · cases hcomponents
  · next hne => exact hne hcomponents.symm

/-- Behind what does not count, a path is spelled step by step. -/
lemma splitOn_pathOf (p : Path) :
    ∃ silent : List Text, (∀ s ∈ silent, s = [] ∨ s = ['.']) ∧
      (pathOf (rootOf p ++ steps)).text.splitOn '/' = silent ++ steps.map Component.text := by
  have hslash : ∀ s ∈ steps.map Component.text, '/' ∉ s := by
    intro s hs
    obtain ⟨c, hc, rfl⟩ := List.mem_map.mp hs
    exact no_slash_of_step (hsteps c hc)
  unfold rootOf
  split
  · have htext : (pathOf ([.root] ++ steps)).text =
        [] ++ '/' :: Text.join ['/'] (steps.map Component.text) := rfl
    rw [htext, List.splitOn_append_cons_self_of_not_mem List.not_mem_nil]
    by_cases hnil : steps = []
    · subst hnil
      exact ⟨[[], []], by simp, rfl⟩
    · exact ⟨[[]], by simp, by rw [splitOn_join hslash (by simpa using hnil)]; rfl⟩
  · cases steps with
    | nil => exact ⟨[['.']], by simp, rfl⟩
    | cons c steps =>
      have htext : (pathOf ([] ++ c :: steps)).text =
          Text.join ['/'] ((c :: steps).map Component.text) := by
        cases hsteps c List.mem_cons_self <;> rfl
      exact ⟨[], by simp, by rw [htext, splitOn_join hslash (by simp)]; rfl⟩

lemma pathOf_inj {others : List Component} (hothers : ∀ c ∈ others, IsStep c) (p : Path) :
    pathOf (rootOf p ++ steps) = pathOf (rootOf p ++ others) ↔ steps = others := by
  refine ⟨fun h => ?_, fun h => by rw [h]⟩
  have hcomponents := congrArg Path.components h
  rw [components_pathOf hsteps, components_pathOf hothers] at hcomponents
  have hcurrent : ∀ cs : List Component, (∀ c ∈ cs, IsStep c) →
      rootOf p ++ cs ≠ [.current] := by
    intro cs hcs
    unfold rootOf
    split
    · simp
    · rintro rfl
      cases hcs .current List.mem_cons_self
  split at hcomponents
  · next hnil =>
    split at hcomponents
    · next hnil' => rw [(List.append_eq_nil_iff.mp hnil).2, (List.append_eq_nil_iff.mp hnil').2]
    · exact absurd hcomponents.symm (hcurrent others hothers)
  · split at hcomponents
    · exact absurd hcomponents (hcurrent steps hsteps)
    · exact List.append_cancel_left hcomponents

end

lemma trailSteps_inj {m n : Nat} {names : List Text} :
    trailSteps m names = trailSteps n names ↔ m = n := by
  refine ⟨fun h => ?_, fun h => by rw [h]⟩
  have hlength := congrArg List.length h
  simp only [trailSteps, List.length_append, List.length_replicate] at hlength
  omega

lemma foldl_goTo_trailSteps (l : Location) (climb : Nat) (names : List Text) :
    (trailSteps climb names).foldl goTo l = l.rdrop climb ++ names.reverse := by
  have hclimb : ∀ n, (List.replicate n Component.parent).foldl goTo l = l.rdrop n := by
    intro n
    induction n with
    | zero => exact (List.rdrop_zero l).symm
    | succ n ih =>
      rw [List.replicate_succ', List.foldl_append, ih]
      exact dropLast_rdrop l n
  have hnames : ∀ names : List Text, ∀ k : Location,
      (names.map Component.name).foldl goTo k = k ++ names := by
    intro names
    induction names with
    | nil => exact fun k => (List.append_nil k).symm
    | cons n names ih =>
      intro k
      rw [List.map_cons, List.foldl_cons, ih]
      simp [goTo]
  rw [trailSteps, List.foldl_append, hclimb, ← List.map_reverse, hnames]

lemma placeOf_normalize (base : Location) (p : Path) :
    placeOf base p.normalize =
      (startOf base p.text).rdrop ((trail p).climb % 2) ++ (trail p).names.reverse := by
  rw [normalize_eq, placeOf_pathOf (isStep_of_trailSteps p _), foldl_goTo_trailSteps]

lemma startOf_eq (base : Location) (p : Path) :
    startOf base p.text = if p.isAbsolute then [] else base := by
  simp [startOf, Path.isAbsolute]

lemma startOf_absolute {p : Path} (h : p.isAbsolute = true) (base : Location) :
    startOf base p.text = [] := by
  rw [startOf_eq, if_pos h]

/-- The lexical normal form leads where the path leads. -/
lemma placeOf_lexicalForm (base : Location) (p : Path) :
    placeOf base (lexicalForm p) = placeOf base p := by
  rw [lexicalForm_eq, placeOf_pathOf (isStep_of_trailSteps p _), foldl_goTo_trailSteps, placeOf_eq,
    keptClimb]
  cases habsolute : p.isAbsolute with
  | true => simp [startOf_absolute habsolute]
  | false => rfl

/-- Absolute paths that lead to the same place have the same lexical normal form. -/
lemma lexicalForm_eq_iff {p q : Path} (hp : p.isAbsolute = true) (hq : q.isAbsolute = true) :
    lexicalForm p = lexicalForm q ↔ placeOf [] p = placeOf [] q := by
  refine ⟨fun h => ?_, fun h => ?_⟩
  · rw [← placeOf_lexicalForm, h, placeOf_lexicalForm]
  · have hnames : (trail p).names = (trail q).names := by
      simpa [placeOf_eq, startOf_absolute hp, startOf_absolute hq] using h
    rw [lexicalForm_eq, lexicalForm_eq, hnames, rootOf, rootOf, keptClimb, keptClimb, if_pos hp,
      if_pos hq, if_pos hp, if_pos hq]

/-! ### Walks along a trail -/

/-- A walk along a trail arrives at a place, and no name of the trail is silent. -/
structure Trail.Leads (t : Trail) (fs : FileSystem) (limit : Option Nat)
    (onLink : Location → Text → List Text → Walk) (l m : Location) : Prop where
  plain : ∀ n ∈ t.names, Component.ofSegment? n = some (.name n)
  arrives : walkNames fs limit true onLink l
    (List.replicate t.climb ['.', '.'] ++ t.names.reverse) = .found m

section

variable {fs : FileSystem} {limit : Option Nat} {onLink : Location → Text → List Text → Walk}
  {l k : Location}

lemma hasDirectory_of_walkNames {n : Text} {rest : List Text}
    (h : walkNames fs limit true onLink l (n :: rest) = .found k) :
    fs.hasDirectory l = true := by
  by_contra hnone
  rw [walkNames, if_pos hnone] at h
  cases h

lemma walkNames_silent (hl : fs.hasDirectory l = true) {silent : List Text}
    (hsilent : ∀ s ∈ silent, s = [] ∨ s = ['.']) (rest : List Text) :
    walkNames fs limit true onLink l (silent ++ rest) =
      walkNames fs limit true onLink l rest := by
  induction silent with
  | nil => rfl
  | cons s silent ih =>
    rw [List.cons_append, walkNames, if_neg (not_not.mpr hl),
      if_pos (hsilent s List.mem_cons_self)]
    exact ih fun x hx => hsilent x (List.mem_cons_of_mem s hx)

/-- At the root a `..` stays there. -/
lemma walkNames_climb_root (hroot : fs.hasDirectory [] = true) (climb : Nat) (rest : List Text) :
    walkNames fs limit true onLink [] (List.replicate climb ['.', '.'] ++ rest) =
      walkNames fs limit true onLink [] rest := by
  induction climb with
  | zero => rfl
  | succ climb ih =>
    rw [List.replicate_succ, List.cons_append, walkNames, if_neg (not_not.mpr hroot),
      if_neg (by simp), if_pos rfl]
    exact ih

lemma Trail.leads_start : Trail.Leads {} fs limit onLink l l :=
  ⟨fun _ hn => absurd hn List.not_mem_nil, rfl⟩

variable (hfs : NoLinks fs)

include hfs

lemma walkNames_cons_iff {n : Text} {rest : List Text} :
    walkNames fs limit true onLink l (n :: rest) = .found k ↔
      ∃ m, walkNames fs limit true onLink l [n] = .found m ∧
        walkNames fs limit true onLink m rest = .found k := by
  simp only [walkNames]
  split
  · simp
  · split
    · simp
    · split
      · simp
      · split
        · simp
        · split
          · simp
          · cases hnode : fs.node? (l ++ [n]) with
            | none => by_cases hrest : rest = [] <;> simp [hrest]
            | some node =>
              cases node with
              | link target => exact absurd hnode (hfs _ target)
              | directory | file _ _ | program _ | device _ => simp

lemma walkNames_append {before behind : List Text} :
    walkNames fs limit true onLink l (before ++ behind) = .found k ↔
      ∃ m, walkNames fs limit true onLink l before = .found m ∧
        walkNames fs limit true onLink m behind = .found k := by
  induction before generalizing l with
  | nil => simp [walkNames]
  | cons n before ih =>
    rw [List.cons_append, walkNames_cons_iff hfs]
    constructor
    · rintro ⟨m, hn, h⟩
      obtain ⟨m', hbefore, hbehind⟩ := ih.mp h
      exact ⟨m', (walkNames_cons_iff hfs).mpr ⟨m, hn, hbefore⟩, hbehind⟩
    · rintro ⟨m', h, hbehind⟩
      obtain ⟨m, hn, hbefore⟩ := (walkNames_cons_iff hfs).mp h
      exact ⟨m, hn, ih.mpr ⟨m', hbefore, hbehind⟩⟩

lemma walkNames_single {n : Text}
    (h : walkNames fs limit true onLink l [n] = .found k) :
    Component.ofSegment? n = none ∧ k = l ∨
      Component.ofSegment? n = some .parent ∧ n = ['.', '.'] ∧ k = l.dropLast ∨
      Component.ofSegment? n = some (.name n) ∧ k = l ++ [n] := by
  rcases walkNames_cons h with ⟨hsilent, hk⟩ | ⟨rfl, hk⟩ | ⟨hnil, hdot, hparent, hname⟩
  · exact .inl ⟨if_pos hsilent, (Walk.found.inj hk).symm⟩
  · exact .inr (.inl ⟨rfl, rfl, (Walk.found.inj hk).symm⟩)
  · rcases hname with ⟨target, hnode, -⟩ | ⟨-, hk⟩
    · exact absurd hnode (hfs _ target)
    · refine .inr (.inr ⟨?_, (Walk.found.inj hk).symm⟩)
      rw [Component.ofSegment?, if_neg (not_or.mpr ⟨hnil, hdot⟩), if_neg hparent]

lemma walkNames_snoc {before : List Text} {n : Text} {m : Location}
    (hbefore : walkNames fs limit true onLink l before = .found m)
    (hn : walkNames fs limit true onLink m [n] = .found k) :
    walkNames fs limit true onLink l (before ++ [n]) = .found k :=
  (walkNames_append hfs).mpr ⟨m, hbefore, hn⟩

lemma Trail.Leads.read {t : Trail} {n : Text} {m : Location} (h : t.Leads fs limit onLink l m)
    (hn : walkNames fs limit true onLink m [n] = .found k) :
    (t.read n).Leads fs limit onLink l k := by
  obtain ⟨climb, names⟩ := t
  obtain ⟨hplain, harrives⟩ := h
  rcases walkNames_single hfs hn with ⟨hof, rfl⟩ | ⟨hof, rfl, rfl⟩ | ⟨hof, rfl⟩
  · rw [Trail.read, hof]
    exact ⟨hplain, harrives⟩
  · rw [Trail.read, hof]
    cases names with
    | nil =>
      refine ⟨hplain, ?_⟩
      have hsnoc := walkNames_snoc hfs harrives hn
      simpa [Trail.step, List.replicate_succ'] using hsnoc
    | cons x names =>
      refine ⟨fun y hy => hplain y (List.mem_cons_of_mem x hy), ?_⟩
      -- The walk came here by the name that is taken away.
      rw [List.reverse_cons, ← List.append_assoc] at harrives
      obtain ⟨before, hbefore, hx⟩ := (walkNames_append hfs).mp harrives
      have hname := hplain x List.mem_cons_self
      rcases walkNames_single hfs hx with ⟨hsilent, -⟩ | ⟨hparent, -⟩ | ⟨-, rfl⟩
      · rw [hname] at hsilent
        cases hsilent
      · rw [hname] at hparent
        cases hparent
      · rw [List.dropLast_concat]
        exact hbefore
  · rw [Trail.read, hof]
    constructor
    · intro x hx
      rcases List.mem_cons.mp hx with rfl | hx
      · exact hof
      · exact hplain x hx
    · have hsnoc := walkNames_snoc hfs harrives hn
      simpa [Trail.step] using hsnoc

lemma Trail.Leads.run {t : Trail} {names : List Text} {m : Location}
    (h : t.Leads fs limit onLink l m)
    (hnames : walkNames fs limit true onLink m names = .found k) :
    (names.foldl Trail.read t).Leads fs limit onLink l k := by
  induction names generalizing m t with
  | nil =>
    obtain rfl := Walk.found.inj hnames
    exact h
  | cons n names ih =>
    obtain ⟨m', hn, hrest⟩ := (walkNames_cons_iff hfs).mp hnames
    exact ih (h.read hfs hn) hrest

end

lemma map_text_trailSteps (climb : Nat) (names : List Text) :
    (trailSteps climb names).map Component.text =
      List.replicate climb ['.', '.'] ++ names.reverse := by
  simp [trailSteps, Function.comp_def, Component.text]

lemma mem_join {segments : List Text} {c : Char} (hc : c ≠ '/') :
    c ∈ Text.join ['/'] segments ↔ ∃ s ∈ segments, c ∈ s := by
  induction segments with
  | nil => simp [Text.join]
  | cons s segments ih =>
    cases segments with
    | nil => simp [Text.join]
    | cons s' segments =>
      rw [join_cons_cons, List.mem_append, List.mem_cons, ih]
      simp [hc]

lemma mem_iff_mem_splitOn {t : Text} {c : Char} (hc : c ≠ '/') :
    c ∈ t ↔ ∃ s ∈ t.splitOn '/', c ∈ s := by
  rw [← mem_join hc, Text.join, List.intercalate_splitOn]

/-! ### The places of paths in a tree -/

section

variable {fs : FileSystem} {base l : Location} {p : Path}

lemma no_zero_of_resolve (h : fs.resolve base p = .ok l) : '\x00' ∉ p.text := by
  intro hzero
  rw [FileSystem.resolve] at h
  split at h
  · cases h
  · cases h

lemma no_zero_of_pathOf (h : '\x00' ∉ p.text) (climb : Nat) :
    '\x00' ∉ (pathOf (rootOf p ++ trailSteps climb (trail p).names)).text := by
  obtain ⟨silent, hsilent, hsplit⟩ := splitOn_pathOf (isStep_of_trailSteps p climb) p
  intro hzero
  obtain ⟨s, hs, hmem⟩ := (mem_iff_mem_splitOn (by decide)).mp hzero
  rw [hsplit] at hs
  rcases List.mem_append.mp hs with hs | hs
  · rcases hsilent s hs with rfl | rfl
    · exact absurd hmem (by decide)
    · exact absurd hmem (by decide)
  · obtain ⟨c, hc, rfl⟩ := List.mem_map.mp hs
    rcases List.mem_append.mp hc with hc | hc
    · rw [List.eq_of_mem_replicate hc] at hmem
      exact absurd hmem (by decide)
    · obtain ⟨n, hn, rfl⟩ := List.mem_map.mp (List.mem_reverse.mp hc)
      obtain ⟨segment, hsegment, hof⟩ := List.mem_filterMap.mp (mem_names_of_trail hn)
      have hname : segment = n := by
        rw [Component.ofSegment?] at hof
        split at hof
        · cases hof
        · split at hof <;> cases hof
          rfl
      rw [← hname] at hmem
      have hbehind := (mem_iff_mem_splitOn (by decide)).mpr ⟨segment, hsegment, hmem⟩
      exact h (List.mem_of_mem_drop hbehind)

/-- Where nothing is a link, a path that leads somewhere leads there along its trail, from the root
with any number of `..` in front. -/
lemma resolve_trail (hfs : NoLinks fs) (h : fs.resolve base p = .ok l) {climb : Nat}
    (hclimb : p.isAbsolute = true ∨ climb = (trail p).climb) :
    fs.resolve base (pathOf (rootOf p ++ trailSteps climb (trail p).names)) = .ok l := by
  obtain ⟨onLink, hwalk⟩ := walk_eq_walkNames fs (some pathLimit) linkLimit
  have hfound := walk_of_resolve h
  rw [hwalk] at hfound
  have hdirectory : fs.hasDirectory (startOf base p.text) = true := by
    obtain ⟨first, rest, hsplit⟩ := List.exists_cons_of_ne_nil (List.splitOn_ne_nil '/' p.text)
    rw [hsplit] at hfound
    exact hasDirectory_of_walkNames hfound
  have htrail := (Trail.leads_start.run hfs hfound).arrives
  rw [← trail_eq_read] at htrail
  have hclimbed : fs.walkNames (some pathLimit) true onLink
      (startOf base p.text)
      (List.replicate climb ['.', '.'] ++ (trail p).names.reverse) = .found l := by
    rcases hclimb with habsolute | rfl
    · rw [startOf_absolute habsolute] at hdirectory htrail ⊢
      rw [walkNames_climb_root hdirectory] at htrail ⊢
      exact htrail
    · exact htrail
  have hsteps := isStep_of_trailSteps p climb
  obtain ⟨silent, hsilent, hsplit⟩ := splitOn_pathOf hsteps p
  have hstart : startOf base (pathOf (rootOf p ++ trailSteps climb (trail p).names)).text =
      startOf base p.text := by
    rw [startOf_eq, startOf_eq, isAbsolute_pathOf hsteps]
  rw [FileSystem.resolve, if_neg (text_pathOf_ne_nil hsteps p),
    if_neg (no_zero_of_pathOf (no_zero_of_resolve h) climb), hwalk, hsplit, hstart,
    walkNames_silent hdirectory hsilent, map_text_trailSteps, hclimbed]

lemma resolve_lexicalForm (hfs : NoLinks fs) (h : fs.resolve base p = .ok l) :
    fs.resolve base (lexicalForm p) = .ok l := by
  rw [lexicalForm_eq]
  refine resolve_trail hfs h ?_
  rw [keptClimb]
  cases p.isAbsolute with
  | true => exact .inl rfl
  | false => exact .inr rfl

lemma placeOf_normalize_iff (p : Path) :
    (∀ base, placeOf base p.normalize = placeOf base p) ↔
      p.isAbsolute = true ∨ (trail p).climb ≤ 1 := by
  have hsame : ∀ base, placeOf base p.normalize = placeOf base p ↔
      (startOf base p.text).rdrop ((trail p).climb % 2) =
        (startOf base p.text).rdrop (trail p).climb := by
    intro base
    rw [placeOf_normalize, placeOf_eq, List.append_cancel_right_eq]
  simp only [hsame, startOf_eq]
  cases p.isAbsolute with
  | true => simp
  | false =>
    have hcount : (trail p).climb % 2 = (trail p).climb ↔ (trail p).climb ≤ 1 := by omega
    simp only [Bool.false_eq_true, if_false, false_or, ← hcount]
    refine ⟨fun h => ?_, fun h base => by rw [h]⟩
    -- A place just as deep as the path climbs tells the two apart.
    have hlength := congrArg List.length (h (List.replicate (trail p).climb []))
    simp only [List.rdrop, List.length_take, List.length_replicate] at hlength
    omega

lemma normalize_eq_lexicalForm_iff (p : Path) :
    p.normalize = lexicalForm p ↔
      if p.isAbsolute then Even (trail p).climb else (trail p).climb ≤ 1 := by
  rw [normalize_eq, lexicalForm_eq,
    pathOf_inj (isStep_of_trailSteps p _) (isStep_of_trailSteps p _), trailSteps_inj, keptClimb]
  split
  · exact Nat.even_iff.symm
  · omega

lemma normalize_eq_iff_of_place {q : Path} (hp : p.isAbsolute = true) (hq : q.isAbsolute = true)
    (h : placeOf [] p = placeOf [] q) :
    p.normalize = q.normalize ↔ (trail p).climb % 2 = (trail q).climb % 2 := by
  have hnames : (trail p).names = (trail q).names := by
    simpa [placeOf_eq, startOf_absolute hp, startOf_absolute hq] using h
  have hroot : rootOf p = rootOf q := by rw [rootOf, rootOf, if_pos hp, if_pos hq]
  have hsteps := isStep_of_trailSteps q
  rw [normalize_eq, normalize_eq, hnames, hroot, pathOf_inj (hsteps _) (hsteps _), trailSteps_inj]

end

/-- A path is brought into lexical normal form exactly if it is relative and at most one `..` has no
name before it, or absolute and their number is even. Only a relative path can come to lead elsewhere.
Absolute paths to the same place become the same exactly if both numbers are even or both odd. -/
theorem normal_form_iff_climb (p : Path) :
    (p.normalize = lexicalForm p ↔
        if p.isAbsolute then Even (trail p).climb else (trail p).climb ≤ 1) ∧
      ((∀ base, placeOf base p.normalize = placeOf base p) ↔
        p.isAbsolute = true ∨ (trail p).climb ≤ 1) ∧
      (p.isAbsolute = true ∨ (trail p).climb ≤ 1 → ∀ (fs : FileSystem) (base l : Location),
        NoLinks fs → fs.resolve base p = .ok l → fs.resolve base p.normalize = .ok l) ∧
      ∀ q, p.isAbsolute = true → q.isAbsolute = true → placeOf [] p = placeOf [] q →
        (p.normalize = q.normalize ↔ (trail p).climb % 2 = (trail q).climb % 2) := by
  refine ⟨normalize_eq_lexicalForm_iff p, placeOf_normalize_iff p, ?_,
    fun q hp hq => normalize_eq_iff_of_place hp hq⟩
  intro hclimb fs base l hfs h
  rw [normalize_eq]
  exact resolve_trail hfs h (hclimb.imp_right fun hle => Nat.mod_eq_of_lt (Nat.lt_succ_of_le hle))

/-- A tree with two directories. -/
def twoDirectories : FileSystem :=
  shellTree [("a", .directory), ("b", .directory)]

/-- A path from one directory to the other is found in normal form, and two paths from the root have
one normal form. -/
theorem sibling_found :
    NoLinks twoDirectories ∧
      twoDirectories.resolve ["a".toList] (.ofString "./../b//../b") = .ok ["b".toList] ∧
      twoDirectories.resolve ["a".toList] (Path.ofString "./../b//../b").normalize =
        .ok ["b".toList] ∧
      placeOf [] (.ofString "/../a/../../b/.") = placeOf [] (.ofString "/b") ∧
      (Path.ofString "/../a/../../b/.").normalize = (Path.ofString "/b").normalize := by
  have hlinks : NoLinks twoDirectories := noLinks_of_pairs (by decide)
  have hresolve : twoDirectories.resolve ["a".toList] (.ofString "./../b//../b") =
      .ok ["b".toList] := by decide +kernel
  have hplace : placeOf [] (.ofString "/../a/../../b/.") = placeOf [] (.ofString "/b") := by decide
  obtain ⟨-, -, hfound, -⟩ := normal_form_iff_climb (.ofString "./../b//../b")
  obtain ⟨-, -, -, hsame⟩ := normal_form_iff_climb (.ofString "/../a/../../b/.")
  exact ⟨hlinks, hresolve, hfound (.inr (by decide)) _ _ _ hlinks hresolve, hplace,
    (hsame (.ofString "/b") (by decide) (by decide) hplace).mpr (by decide)⟩

/-- Two `..` become the current directory, which is another place, and one at the root stays. -/
theorem parents_not_kept :
    (Path.ofString "../..").normalize = .ofString "." ∧
      lexicalForm (.ofString "../..") = .ofString "../.." ∧
      NoLinks twoDirectories ∧
      twoDirectories.resolve ["a".toList] (.ofString "../..") = .ok [] ∧
      twoDirectories.resolve ["a".toList] (Path.ofString "../..").normalize = .ok ["a".toList] ∧
      (Path.ofString "/..").normalize = .ofString "/.." ∧
      lexicalForm (.ofString "/..") = .ofString "/" ∧
      placeOf [] (.ofString "/..") = placeOf [] (.ofString "/") ∧
      (Path.ofString "/").normalize = .ofString "/" := by
  refine ⟨by decide, by decide, noLinks_of_pairs (by decide), by decide +kernel, by decide +kernel,
    by decide, by decide, by decide, by decide⟩

end AsmExplorer.Proofs
