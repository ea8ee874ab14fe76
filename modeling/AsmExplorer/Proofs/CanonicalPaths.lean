import AsmExplorer.Host.Basic
import Mathlib.Tactic.Lemma
import Mathlib.Data.List.Basic

/-!
# Canonical paths

The canonical path of a file is spelled from the names on the way to it, none of which is a link. It
is in lexical normal form, and it leads to the same place again, if it still leads anywhere. A path
that leads nowhere is only brought into normal form, and that form may well lead somewhere: a
missing directory before a `..` is gone from it, and so is the reason why the path led nowhere.
-/

namespace AsmExplorer.Proofs
open FileSystem

/-! ### Names and segments -/

/-- A segment of a path that stands for itself. -/
structure IsName (n : Text) : Prop where
  ne_nil : n ≠ []
  ne_current : n ≠ ['.']
  ne_parent : n ≠ ['.', '.']
  no_slash : '/' ∉ n

lemma not_mem_of_mem_splitOn {t segment : Text} {c : Char} (h : segment ∈ t.splitOn c) :
    c ∉ segment := by
  induction t generalizing segment with
  | nil =>
    rw [List.splitOn_nil, List.mem_singleton] at h
    simp [h]
  | cons d t ih =>
    rw [List.splitOn_cons_eq_if_modifyHead] at h
    split at h
    · rcases List.mem_cons.mp h with rfl | h
      · exact List.not_mem_nil
      · exact ih h
    · next hne =>
      obtain ⟨first, rest, hsplit⟩ := List.exists_cons_of_ne_nil (List.splitOn_ne_nil c t)
      rw [hsplit] at h ih
      rcases List.mem_cons.mp h with rfl | h
      · have hfirst := ih List.mem_cons_self
        have hdc : d ≠ c := by simpa using hne
        simp [hdc.symm, hfirst]
      · exact ih (List.mem_cons_of_mem _ h)

lemma splitOn_join {segments : List Text} (h : ∀ s ∈ segments, '/' ∉ s) (hne : segments ≠ []) :
    (Text.join ['/'] segments).splitOn '/' = segments :=
  List.splitOn_intercalate '/' h hne

lemma join_cons_cons (s s' : Text) (segments : List Text) :
    Text.join ['/'] (s :: s' :: segments) = s ++ '/' :: Text.join ['/'] (s' :: segments) := by
  simp [Text.join, List.intercalate_cons_cons]

/-- A component below the front of a path. -/
inductive IsStep : Component → Prop
  | parent : IsStep .parent
  | name {n : Text} : IsName n → IsStep (.name n)

lemma isStep_of_segment {segment : Text} (hslash : '/' ∉ segment) {c : Component}
    (h : Component.ofSegment? segment = some c) : IsStep c := by
  unfold Component.ofSegment? at h
  split at h
  · simp at h
  · next hsilent =>
    split at h
    · obtain rfl := Option.some.inj h
      exact .parent
    · next hparent =>
      obtain rfl := Option.some.inj h
      rw [not_or] at hsilent
      exact .name ⟨hsilent.1, hsilent.2, hparent, hslash⟩

/-- The components behind the front. -/
lemma isStep_of_behind (p : Path) :
    ∀ c ∈ p.segments.filterMap Component.ofSegment?, IsStep c := by
  intro c hc
  obtain ⟨segment, hsegment, hof⟩ := List.mem_filterMap.mp hc
  exact isStep_of_segment (not_mem_of_mem_splitOn hsegment) hof

lemma ofSegment_text {c : Component} (h : IsStep c) : Component.ofSegment? c.text = some c := by
  cases h with
  | parent => rfl
  | name hn => simp [Component.text, Component.ofSegment?, hn.ne_nil, hn.ne_current, hn.ne_parent]

lemma filterMap_ofSegment_text {cs : List Component} (h : ∀ c ∈ cs, IsStep c) :
    (cs.map Component.text).filterMap Component.ofSegment? = cs := by
  induction cs with
  | nil => rfl
  | cons c cs ih =>
    rw [List.map_cons, List.filterMap_cons_some (ofSegment_text (h c List.mem_cons_self)),
      ih fun d hd => h d (List.mem_cons_of_mem c hd)]

lemma no_slash_of_step {c : Component} (h : IsStep c) : '/' ∉ c.text := by
  cases h with
  | parent => decide
  | name hn => exact hn.no_slash

/-! ### Paths spelled from components -/

lemma components_of_root {cs : List Component} (h : ∀ c ∈ cs, IsStep c) :
    (Path.ofComponents (.root :: cs)).components = .root :: cs := by
  have hsegments : (Path.ofComponents (.root :: cs)).segments =
      (Text.join ['/'] (cs.map Component.text)).splitOn '/' := rfl
  have hfront : (Path.ofComponents (.root :: cs)).frontComponent = [.root] := rfl
  rw [Path.components, hfront, hsegments, List.singleton_append]
  by_cases hcs : cs = []
  · subst hcs
    rfl
  · rw [splitOn_join _ (by simpa using hcs), filterMap_ofSegment_text h]
    intro s hs
    obtain ⟨c, hc, rfl⟩ := List.mem_map.mp hs
    exact no_slash_of_step (h c hc)

lemma front_of_step {c : Component} (h : IsStep c) (rest : Text) :
    (⟨c.text ++ rest⟩ : Path).front = [] := by
  cases h with
  | parent => rfl
  | @name n hn =>
    obtain ⟨a, n, rfl⟩ := List.exists_cons_of_ne_nil hn.ne_nil
    have ha : a ≠ '/' := fun heq => hn.no_slash (by simp [heq])
    cases n with
    | nil =>
      have hdot : a ≠ '.' := fun heq => hn.ne_current (by rw [heq])
      simp [Path.front, Component.text, ha, hdot]
    | cons b n =>
      have hb : b ≠ '/' := fun heq => hn.no_slash (by simp [heq])
      simp [Path.front, Component.text, ha, hb]

lemma components_of_step {c : Component} {cs : List Component} (h : ∀ d ∈ c :: cs, IsStep d) :
    (Path.ofComponents (c :: cs)).components = c :: cs := by
  have hstep := h c List.mem_cons_self
  have hspelled : Path.ofComponents (c :: cs) =
      ⟨Text.join ['/'] ((c :: cs).map Component.text)⟩ := by
    cases hstep <;> rfl
  have hfront : (⟨Text.join ['/'] ((c :: cs).map Component.text)⟩ : Path).front = [] := by
    cases cs with
    | nil => simpa [Text.join] using front_of_step hstep []
    | cons d cs =>
      rw [List.map_cons, List.map_cons, join_cons_cons]
      exact front_of_step hstep _
  have hslash : ∀ s ∈ (c :: cs).map Component.text, '/' ∉ s := by
    intro s hs
    obtain ⟨d, hd, rfl⟩ := List.mem_map.mp hs
    exact no_slash_of_step (h d hd)
  rw [hspelled, Path.components, Path.frontComponent, Path.segments, hfront]
  simp only [List.length_nil, List.drop_zero, List.nil_append]
  rw [splitOn_join hslash (by simp), filterMap_ofSegment_text h]

/-! ### Normal form -/

/-- The components that a normal form can begin with. -/
def normalFronts : List (List Component) :=
  [[], [.parent], [.root], [.root, .parent]]

/-- Components in normal form: a `..` at most at the front, and names behind it. -/
def IsNormal (cs : List Component) : Prop :=
  ∃ front ∈ normalFronts, ∃ names : List Text, (∀ n ∈ names, IsName n) ∧
    cs = front ++ names.map .name

lemma isNormal_of_front {front : List Component} (h : front ∈ normalFronts) : IsNormal front :=
  ⟨front, h, [], by simp, by simp⟩

lemma isNormal_push {stack : List Component} (h : IsNormal stack.reverse) {c : Component}
    (hc : IsStep c) : IsNormal (pushComponent stack c).reverse := by
  obtain ⟨front, hfront, names, hnames, hstack⟩ := h
  cases hc with
  | @name n hn =>
    refine ⟨front, hfront, names ++ [n], ?_, by simp [pushComponent, hstack]⟩
    intro m hm
    rcases List.mem_append.mp hm with hm | hm
    · exact hnames m hm
    · rw [List.mem_singleton.mp hm]
      exact hn
  | parent =>
    rcases List.eq_nil_or_concat names with rfl | ⟨names, n, rfl⟩
    · have hrev : stack = front.reverse := by simpa [eq_comm] using congrArg List.reverse hstack
      have hfronts : ∀ front ∈ normalFronts,
          (pushComponent front.reverse .parent).reverse ∈ normalFronts := by decide
      rw [hrev]
      exact isNormal_of_front (hfronts front hfront)
    · have hrev : stack = .name n :: (front ++ names.map Component.name).reverse := by
        simpa using congrArg List.reverse hstack
      refine ⟨front, hfront, names, fun m hm => hnames m (by simp [hm]), ?_⟩
      rw [hrev]
      simp [pushComponent]

lemma isNormal_foldl {stack : List Component} (h : IsNormal stack.reverse) {cs : List Component}
    (hcs : ∀ c ∈ cs, IsStep c) : IsNormal (cs.foldl pushComponent stack).reverse := by
  induction cs generalizing stack with
  | nil => exact h
  | cons c cs ih =>
    exact ih (isNormal_push h (hcs c List.mem_cons_self)) fun d hd =>
      hcs d (List.mem_cons_of_mem c hd)

lemma frontComponent_cases (p : Path) :
    p.frontComponent = [] ∨ p.frontComponent = [.root] ∨ p.frontComponent = [.current] := by
  unfold Path.frontComponent
  split <;> simp

lemma isNormal_normalize (p : Path) : IsNormal (normalizeComponents p.components) := by
  have hsteps := isStep_of_behind p
  have hempty : IsNormal ([] : List Component).reverse := isNormal_of_front (by decide)
  have hroot : IsNormal [Component.root].reverse := isNormal_of_front (by decide)
  rw [normalizeComponents, Path.components, List.foldl_append]
  rcases frontComponent_cases p with h | h | h
  · rw [h]
    exact isNormal_foldl hempty hsteps
  · rw [h]
    exact isNormal_foldl hroot hsteps
  · rw [h]
    exact isNormal_foldl hempty hsteps

lemma foldl_push_names (stack : List Component) (names : List Text) :
    (names.map Component.name).foldl pushComponent stack =
      (names.map Component.name).reverse ++ stack := by
  induction names generalizing stack with
  | nil => rfl
  | cons n names ih =>
    rw [List.map_cons, List.foldl_cons, ih]
    simp [pushComponent]

lemma normalizeComponents_of_normal {cs : List Component} (h : IsNormal cs) :
    normalizeComponents cs = cs := by
  obtain ⟨front, hfront, names, -, rfl⟩ := h
  have hstart : ∀ front ∈ normalFronts, front.foldl pushComponent [] = front.reverse := by decide
  rw [normalizeComponents, List.foldl_append, hstart front hfront, foldl_push_names]
  simp

lemma components_of_normal {cs : List Component} (h : IsNormal cs) (hne : cs ≠ []) :
    (Path.ofComponents cs).components = cs := by
  obtain ⟨front, hfront, names, hnames, rfl⟩ := h
  have hsteps : ∀ c ∈ names.map Component.name, IsStep c := by
    intro c hc
    obtain ⟨n, hn, rfl⟩ := List.mem_map.mp hc
    exact .name (hnames n hn)
  have hparent : ∀ c ∈ Component.parent :: names.map Component.name, IsStep c := by
    intro c hc
    rcases List.mem_cons.mp hc with rfl | hc
    · exact .parent
    · exact hsteps c hc
  simp only [normalFronts, List.mem_cons, List.not_mem_nil, or_false] at hfront
  rcases hfront with rfl | rfl | rfl | rfl
  · cases names with
    | nil => exact absurd rfl hne
    | cons n names => exact components_of_step hsteps
  · exact components_of_step hparent
  · exact components_of_root hsteps
  · exact components_of_root hparent

lemma normalize_ofComponents {cs : List Component} (h : IsNormal cs) (hne : cs ≠ []) :
    (Path.ofComponents cs).normalize = Path.ofComponents cs := by
  obtain ⟨c, rest, rfl⟩ := List.exists_cons_of_ne_nil hne
  rw [Path.normalize, components_of_normal h hne, normalizeComponents_of_normal h]

lemma normalize_normalize (p : Path) : p.normalize.normalize = p.normalize := by
  have hnormal := isNormal_normalize p
  rcases hcs : normalizeComponents p.components with _ | ⟨c, rest⟩
  · have hdot : p.normalize = ⟨['.']⟩ := by rw [Path.normalize, hcs]
    rw [hdot]
    rfl
  · have hspelled : p.normalize = Path.ofComponents (c :: rest) := by rw [Path.normalize, hcs]
    rw [hspelled]
    exact normalize_ofComponents (hcs ▸ hnormal) (List.cons_ne_nil c rest)

/-- Paths in normal form that have the same components have the same spelling. -/
lemma eq_of_key_eq {p q : Path} (hp : p.normalize = p) (hq : q.normalize = q)
    (h : p.key = q.key) : p = q := by
  have hcomponents : p.components = q.components := h
  rw [← hp, ← hq, Path.normalize, Path.normalize, hcomponents]

/-! ### Walks -/

/-- A location is spelled from plain names, and no link is on the way to it from the root. -/
structure LinkFree (fs : FileSystem) (l : Location) : Prop where
  names : ∀ n ∈ l, IsName n
  no_link : ∀ k, k <+: l → k ≠ [] → ∀ target, fs.node? k ≠ some (.link target)

section

variable {fs : FileSystem} {limit : Option Nat} {l k : Location}

lemma linkFree_root : LinkFree fs [] :=
  ⟨fun _ h => absurd h List.not_mem_nil, fun _ h hne => absurd (List.prefix_nil.mp h) hne⟩

lemma linkFree_dropLast (h : LinkFree fs l) : LinkFree fs l.dropLast :=
  ⟨fun n hn => h.names n (List.dropLast_subset l hn),
    fun k hk => h.no_link k (hk.trans (List.dropLast_prefix l))⟩

lemma linkFree_append (h : LinkFree fs l) {n : Text} (hn : IsName n)
    (hlink : ∀ target, fs.node? (l ++ [n]) ≠ some (.link target)) : LinkFree fs (l ++ [n]) := by
  constructor
  · intro m hm
    rcases List.mem_append.mp hm with hm | hm
    · exact h.names m hm
    · rw [List.mem_singleton.mp hm]
      exact hn
  · intro k hk hne
    rcases List.prefix_concat_iff.mp hk with rfl | hk
    · exact hlink
    · exact h.no_link k hk hne

/-- What a walk that arrives somewhere does at its first name. -/
lemma walkNames_cons {onLink : Location → Text → List Text → Walk} {n : Text} {rest : List Text}
    (h : walkNames fs limit true onLink l (n :: rest) = .found k) :
    ((n = [] ∨ n = ['.']) ∧ walkNames fs limit true onLink l rest = .found k) ∨
    (n = ['.', '.'] ∧ walkNames fs limit true onLink l.dropLast rest = .found k) ∨
    (n ≠ [] ∧ n ≠ ['.'] ∧ n ≠ ['.', '.'] ∧
      ((∃ target, fs.node? (l ++ [n]) = some (.link target) ∧ onLink l target rest = .found k) ∨
        (∀ target, fs.node? (l ++ [n]) ≠ some (.link target)) ∧
          walkNames fs limit true onLink (l ++ [n]) rest = .found k)) := by
  rw [walkNames] at h
  split at h
  · exact absurd h (by simp)
  · split at h
    · next hsilent => exact Or.inl ⟨hsilent, h⟩
    · next hsilent =>
      split at h
      · next hparent => exact Or.inr (Or.inl ⟨hparent, h⟩)
      · next hparent =>
        rw [not_or] at hsilent
        refine Or.inr (Or.inr ⟨hsilent.1, hsilent.2, hparent, ?_⟩)
        split at h
        · exact absurd h (by simp)
        · split at h
          · exact absurd h (by simp)
          · cases hnode : fs.node? (l ++ [n]) with
            | none =>
              rw [hnode] at h
              dsimp only at h
              split at h
              · exact absurd h (by simp)
              · exact absurd h (by simp)
            | some node =>
              rw [hnode] at h
              cases node with
              | link target => exact Or.inl ⟨target, rfl, by simpa using h⟩
              | directory | file _ _ | program _ | device _ => exact Or.inr ⟨by simp, h⟩

lemma walkNames_linkFree {onLink : Location → Text → List Text → Walk}
    (hlink : ∀ l target rest k, LinkFree fs l → (∀ n ∈ rest, '/' ∉ n) →
      onLink l target rest = .found k → LinkFree fs k)
    (hl : LinkFree fs l) {names : List Text} (hnames : ∀ n ∈ names, '/' ∉ n)
    (h : walkNames fs limit true onLink l names = .found k) : LinkFree fs k := by
  induction names generalizing l with
  | nil =>
    obtain rfl := Walk.found.inj h
    exact hl
  | cons n rest ih =>
    have hrest : ∀ m ∈ rest, '/' ∉ m := fun m hm => hnames m (List.mem_cons_of_mem n hm)
    rcases walkNames_cons h with ⟨-, h⟩ | ⟨-, h⟩ | ⟨hnil, hdot, hparent, h⟩
    · exact ih hl hrest h
    · exact ih (linkFree_dropLast hl) hrest h
    · rcases h with ⟨target, -, h⟩ | ⟨hnode, h⟩
      · exact hlink l target rest k hl hrest h
      · have hn : IsName n := ⟨hnil, hdot, hparent, hnames n List.mem_cons_self⟩
        exact ih (linkFree_append hl hn hnode) hrest h

lemma walk_linkFree {n : Nat} (hl : LinkFree fs l) {names : List Text}
    (hnames : ∀ m ∈ names, '/' ∉ m) (h : walk fs limit true n l names = .found k) :
    LinkFree fs k := by
  induction n generalizing l names k with
  | zero => exact walkNames_linkFree (fun _ _ _ _ _ _ hfound => absurd hfound (by simp)) hl hnames h
  | succ n ih =>
    refine walkNames_linkFree ?_ hl hnames h
    intro l target rest k hl hrest hfound
    have hpieces : ∀ m ∈ target.splitOn '/' ++ rest, '/' ∉ m := by
      intro m hm
      rcases List.mem_append.mp hm with hm | hm
      · exact not_mem_of_mem_splitOn hm
      · exact hrest m hm
    have hstart : LinkFree fs (startOf l target) := by
      unfold startOf
      split
      · exact linkFree_root
      · exact hl
    exact ih hstart hpieces hfound

/-- A walk along the names of a location cannot lead astray. -/
lemma walkNames_along {onLink : Location → Text → List Text → Walk} {names : List Text}
    (hl : LinkFree fs (l ++ names)) (h : walkNames fs limit true onLink l names = .found k) :
    k = l ++ names := by
  induction names generalizing l with
  | nil =>
    obtain rfl := Walk.found.inj h
    exact (List.append_nil _).symm
  | cons n rest ih =>
    have hn : IsName n := hl.names n (by simp)
    have hassoc : l ++ n :: rest = l ++ [n] ++ rest := by simp
    rw [hassoc] at hl ⊢
    rcases walkNames_cons h with ⟨hsilent, -⟩ | ⟨hparent, -⟩ | ⟨-, -, -, h⟩
    · exact (hsilent.elim hn.ne_nil hn.ne_current).elim
    · exact absurd hparent hn.ne_parent
    · rcases h with ⟨target, hnode, -⟩ | ⟨-, h⟩
      · exact absurd hnode (hl.no_link _ (List.prefix_append _ rest) (by simp) target)
      · exact ih hl h

lemma walk_eq_walkNames (fs : FileSystem) (limit : Option Nat) (n : Nat) :
    ∃ onLink, walk fs limit true n = walkNames fs limit true onLink := by
  cases n with
  | zero => exact ⟨_, rfl⟩
  | succ n => exact ⟨_, rfl⟩

/-! ### Canonical paths -/

lemma toPath_eq_ofComponents (l : Location) :
    Location.toPath l = Path.ofComponents (.root :: l.map .name) := by
  simp [Location.toPath, Path.ofComponents, Path.ofSegments, Function.comp_def, Component.text]

lemma normalize_toPath (h : LinkFree fs l) :
    (Location.toPath l).normalize = Location.toPath l := by
  rw [toPath_eq_ofComponents]
  exact normalize_ofComponents ⟨[.root], by decide, l, h.names, rfl⟩ (by simp)

lemma splitOn_toPath (h : LinkFree fs l) :
    (Location.toPath l).text.splitOn '/' = [] :: if l = [] then [[]] else l := by
  have htext : (Location.toPath l).text = [] ++ '/' :: Text.join ['/'] l := rfl
  rw [htext, List.splitOn_append_cons_self_of_not_mem List.not_mem_nil]
  by_cases hl : l = []
  · subst hl
    rfl
  · rw [splitOn_join (fun n hn => (h.names n hn).no_slash) hl, if_neg hl]

variable {base : Location} {p : Path}

/-- A path leads where the walk along its segments arrives. -/
lemma walk_of_resolve (h : fs.resolve base p = .ok l) :
    walk fs (some pathLimit) true linkLimit (startOf base p.text) (p.text.splitOn '/') =
      .found l := by
  unfold FileSystem.resolve at h
  split at h
  · exact absurd h (by simp)
  · split at h
    · exact absurd h (by simp)
    · split at h
      · next hwalk =>
        obtain rfl := Except.ok.inj h
        exact hwalk
      · exact absurd h (by simp)
      · exact absurd h (by simp)

lemma resolve_linkFree (hbase : LinkFree fs base) (h : fs.resolve base p = .ok l) :
    LinkFree fs l := by
  have hstart : LinkFree fs (startOf base p.text) := by
    unfold startOf
    split
    · exact linkFree_root
    · exact hbase
  exact walk_linkFree hstart (fun m hm => not_mem_of_mem_splitOn hm) (walk_of_resolve h)

/-- Behind the empty segment in front, the path of a location is walked name by name. -/
lemma walkNames_toPath {onLink : Location → Text → List Text → Walk} (hl : LinkFree fs l)
    (h : walkNames fs limit true onLink [] ([] :: if l = [] then [[]] else l) = .found k) :
    k = l := by
  have hsilent : ∀ names, walkNames fs limit true onLink [] ([] :: names) = .found k →
      walkNames fs limit true onLink [] names = .found k := by
    intro names hnames
    rcases walkNames_cons hnames with ⟨-, hrest⟩ | ⟨hparent, -⟩ | ⟨hnil, -⟩
    · exact hrest
    · exact absurd hparent (by simp)
    · exact absurd rfl hnil
  have hbehind := hsilent _ h
  by_cases hroot : l = []
  · rw [if_pos hroot] at hbehind
    rw [hroot]
    exact (Walk.found.inj (hsilent _ hbehind)).symm
  · rw [if_neg hroot] at hbehind
    exact walkNames_along hl hbehind

/-- The path of a location leads to that location or nowhere. -/
lemma resolve_toPath (hl : LinkFree fs l) (h : fs.resolve base (Location.toPath l) = .ok k) :
    k = l := by
  obtain ⟨onLink, hwalk⟩ := walk_eq_walkNames fs (some pathLimit) linkLimit
  have hstart : startOf base (Location.toPath l).text = [] := rfl
  have hfound := walk_of_resolve h
  rw [hwalk, hstart, splitOn_toPath hl] at hfound
  exact walkNames_toPath hl hfound

lemma canonicalPath_of_resolve (h : fs.resolve base p = .ok l) :
    fs.canonicalPath base p = Location.toPath l := by
  rw [FileSystem.canonicalPath, FileSystem.canonical, h]
  rfl

lemma canonicalPath_of_error {e : FileError} (h : fs.resolve base p = .error e) :
    fs.canonicalPath base p = p.normalize := by
  rw [FileSystem.canonicalPath, FileSystem.canonical, h]
  rfl

lemma canonicalPath_toPath (hl : LinkFree fs l) :
    fs.canonicalPath base (Location.toPath l) = Location.toPath l := by
  cases h : fs.resolve base (Location.toPath l) with
  | ok k => rw [canonicalPath_of_resolve h, resolve_toPath hl h]
  | error e => rw [canonicalPath_of_error h, normalize_toPath hl]

/-- A canonical path is in normal form, whether it was found or not. -/
lemma normalize_canonicalPath (hbase : LinkFree fs base) (p : Path) :
    (fs.canonicalPath base p).normalize = fs.canonicalPath base p := by
  cases h : fs.resolve base p with
  | ok l => rw [canonicalPath_of_resolve h, normalize_toPath (resolve_linkFree hbase h)]
  | error e => rw [canonicalPath_of_error h, normalize_normalize]

/-- The canonical path of a file that is there is its own canonical path. -/
lemma canonicalPath_of_found (hbase : LinkFree fs base) (h : fs.resolve base p = .ok l) :
    fs.canonicalPath base (fs.canonicalPath base p) = fs.canonicalPath base p := by
  rw [canonicalPath_of_resolve h, canonicalPath_toPath (resolve_linkFree hbase h)]

/-- From a path in normal form, a second look finds nothing new. -/
lemma canonicalPath_of_normal (hbase : LinkFree fs base) (hp : p.normalize = p) :
    fs.canonicalPath base (fs.canonicalPath base p) = fs.canonicalPath base p := by
  cases h : fs.resolve base p with
  | ok l => exact canonicalPath_of_found hbase h
  | error e =>
    have hself : fs.canonicalPath base p = p := by rw [canonicalPath_of_error h, hp]
    rw [hself, hself]

end

end AsmExplorer.Proofs
