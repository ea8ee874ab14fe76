import AsmExplorer.Explorer.Basic
import AsmExplorer.Proofs.Correlation
import AsmExplorer.Proofs.ShellHost
import Mathlib.Data.List.Forall2

/-!
# Several paths of one file

A source file that is explored under two paths is compiled by the same command, since only its
canonical path reaches the compiler. The listing is told the name in the path that was asked for. So
two paths give the same lines, and the same stamps exactly where no line that is shown comes from a
file that bears one of the two names and not the other.
-/

namespace AsmExplorer.Proofs
open AsmExplorer.Assembly

/-! ### Templates that do not mention the source file -/

/-- Whether the value of a variable is read off the source file. -/
def readsSource : Template.Variable → Bool
  | .workspaceFolder => false
  | .workspaceFolderBasename => false
  | .pathSeparator => false
  | _ => true

/-- Whether a template has a placeholder for something of the source file. -/
def MentionsSource (template : Text) : Prop :=
  ∃ name v, Template.Piece.placeholder name ∈ Template.pieces template ∧
    Template.named.lookup name = some v ∧ readsSource v = true

lemma value?_of_silent {v : Template.Variable} (h : readsSource v = false) (p q workspace : Path) :
    v.value? p workspace = v.value? q workspace := by
  cases v with
  | workspaceFolder | workspaceFolderBasename | pathSeparator => rfl
  | file | fileBasename | fileBasenameNoExtension | fileDirname | fileExtname | relativeFile =>
    exact absurd h (by decide)

lemma resolve_of_silent {template : Text} (h : ¬MentionsSource template) (p q workspace : Path) :
    Template.resolve template p workspace = Template.resolve template q workspace := by
  have hpiece : ∀ piece ∈ Template.pieces template,
      Template.Piece.expand p workspace piece = Template.Piece.expand q workspace piece := by
    intro piece hmem
    cases piece with
    | literal t => rfl
    | placeholder name =>
      have hvalue : (Template.named.lookup name).bind (Template.Variable.value? p workspace) =
          (Template.named.lookup name).bind (Template.Variable.value? q workspace) := by
        cases hname : Template.named.lookup name with
        | none => rfl
        | some v =>
          refine value?_of_silent ?_ p q workspace
          by_contra hreads
          exact h ⟨name, v, hmem, hname, by simpa using hreads⟩
      rw [Template.Piece.expand, Template.Piece.expand, hvalue]
  rw [Template.resolve, Template.resolve, Template.expand, Template.expand, List.flatMap_def,
    List.flatMap_def, List.map_congr_left hpiece]

/-! ### The same compilation -/

section

variable {e : Explorer} {p q : Path}

lemma invocationFor_congr (hcanonical : e.host.canonicalPath p = e.host.canonicalPath q)
    (hdatabase : e.databasePath p = e.databasePath q) (given : List Text) :
    e.invocationFor p given = e.invocationFor q given := by
  rw [Explorer.invocationFor, Explorer.invocationFor, Explorer.databaseFor, Explorer.databaseFor,
    hcanonical, hdatabase]

lemma compile_congr (hcanonical : e.host.canonicalPath p = e.host.canonicalPath q)
    (hdatabase : e.databasePath p = e.databasePath q) (given : List Text) :
    e.compile p given = e.compile q given := by
  have hrequest : e.request p given = e.request q given := by
    rw [Explorer.request, Explorer.request, invocationFor_congr hcanonical hdatabase]
  rw [Explorer.compile, Explorer.compile, hrequest]

lemma settings_request (e : Explorer) (source : Path) (given : List Text) :
    (e.request source given).1.settings = e.settings := by
  have hlook : ∀ given, (e.invocationFor source given).1.settings = e.settings := fun _ => rfl
  have hreuse : ∀ (e : Explorer) (i : Invocation) (given : List Text)
      (stamp : Option FileSystem.Stamp) (r : Explorer × Text),
      e.reuse? i given stamp = some r → r.1.settings = e.settings := by
    intro e i given stamp r hr
    rw [Explorer.reuse?] at hr
    split at hr
    · obtain rfl := Option.some.inj hr
      rfl
    · exact absurd hr (Option.some_ne_none r).symm
  rw [Explorer.request]
  split
  · next e' failure h => rw [← hlook (e.givenOr given), h]
  · next e' i h =>
    rw [← hlook (e.givenOr given), h]
    dsimp only
    split
    · next e'' t hr => exact hreuse _ _ _ _ _ hr
    · rfl

lemma settings_compile (e : Explorer) (source : Path) (given : List Text) :
    (e.compile source given).1.settings = e.settings := by
  have hrequest := settings_request e source given
  rw [Explorer.compile]
  split
  · next e' r h => rwa [h] at hrequest
  · next e' ticket h => rwa [h] at hrequest

end

/-! ### Which lines are shown -/

/-- The cursors differ at most in source files and source lines. -/
structure SameView (s t : Cursor) : Prop where
  inDebug_eq : s.inDebug = t.inDebug
  labelShown_eq : s.labelShown = t.labelShown

section

variable {filter : Filter} {refs : Option References} {s t : Cursor}

lemma sameView_enter (h : SameView s t) (line : Text) : SameView (enter s line) (enter t line) := by
  rw [enter, enter, recordFile_eq, recordFile_eq, Cursor.switchSection, Cursor.switchSection]
  cases sectionSwitch? line with
  | none => exact ⟨h.inDebug_eq, h.labelShown_eq⟩
  | some name => exact ⟨rfl, rfl⟩

lemma sameView_mark (h : SameView s t) (marker : Marker) : SameView (s.mark marker) (t.mark marker) := by
  cases marker <;> exact ⟨h.inDebug_eq, h.labelShown_eq⟩

lemma sameView_leave (h : SameView s t) (refs : Option References) (line : Text) :
    SameView (s.leave refs line) (t.leave refs line) := by
  refine ⟨h.inDebug_eq, ?_⟩
  rw [Cursor.leave, Cursor.leave]
  cases label? line with
  | none => exact h.labelShown_eq
  | some label => rfl

lemma sameView_step (filter : Filter) (refs : Option References) (h : SameView s t) (line : Text) :
    SameView (s.step filter refs line).1 (t.step filter refs line).1 ∧
      ((s.step filter refs line).2.isSome = (t.step filter refs line).2.isSome) := by
  have henter := sameView_enter h line
  have hskips : (enter s line).skips filter line = (enter t line).skips filter line := by
    rw [Cursor.skips, Cursor.skips, henter.inDebug_eq]
  have hshows : (enter s line).shows filter refs line = (enter t line).shows filter refs line := by
    rw [Cursor.shows, Cursor.shows, henter.labelShown_eq]
  rcases step_cases filter refs s line with ⟨marker, hm, hs⟩ | ⟨hm, hskip, hs⟩ | ⟨hm, hread, hs⟩
  · rw [hs, step_of_marker hm]
    exact ⟨sameView_mark h marker, rfl⟩
  · rw [hs, step_of_skips hm (hskips ▸ hskip)]
    exact ⟨henter, rfl⟩
  · rw [hs, step_of_reads hm (hskips ▸ hread), hshows]
    refine ⟨sameView_leave henter refs line, ?_⟩
    split <;> rfl

/-- Cursors with one view show the same lines, up to stamps. -/
lemma isSome_outcomes (h : SameView s t) (lines : List Text) :
    (outcomes filter refs s lines).map Option.isSome =
      (outcomes filter refs t lines).map Option.isSome := by
  induction lines generalizing s t with
  | nil => rfl
  | cons line rest ih =>
    obtain ⟨hnext, hshown⟩ := sameView_step filter refs h line
    rw [outcomes, outcomes, List.map_cons, List.map_cons, hshown, ih hnext]

end

lemma isSome_fates (filter : Filter) (a b : Option Text) (lines : List Text) :
    (fates filter a lines).map Option.isSome = (fates filter b lines).map Option.isSome := by
  have hview : SameView { files := .start a } { files := .start b } := ⟨rfl, rfl⟩
  rw [fates, fates]
  exact isSome_outcomes hview lines

/-- Whether a line is shown. For which main file does not matter. -/
def IsShown (filter : Filter) (lines : List Text) (j : Nat) : Prop :=
  ∃ shown, (fates filter none lines)[j]? = some (some shown)

lemma isShown_iff {filter : Filter} {lines : List Text} {j : Nat} (main : Option Text) :
    IsShown filter lines j ↔ ∃ shown, (fates filter main lines)[j]? = some (some shown) := by
  have hsome : ∀ l : List (Option Line), (∃ shown, l[j]? = some (some shown)) ↔
      (l.map Option.isSome)[j]? = some true := by
    intro l
    rw [List.getElem?_map]
    rcases l[j]? with _ | _ | shown <;> simp
  rw [IsShown, hsome, hsome, isSome_fates filter none main]

/-- Of two lists whose entries are missing at the same places, the entries tell the lists apart. -/
lemma reduceOption_inj {α : Type} {xs ys : List (Option α)}
    (h : xs.map Option.isSome = ys.map Option.isSome) :
    xs.reduceOption = ys.reduceOption ↔ xs = ys := by
  induction xs generalizing ys with
  | nil =>
    obtain rfl := List.map_eq_nil_iff.mp h.symm
    exact iff_of_true rfl rfl
  | cons x xs ih =>
    cases ys with
    | nil => exact absurd h (List.cons_ne_nil _ _)
    | cons y ys =>
      rw [List.map_cons, List.map_cons, List.cons.injEq] at h
      cases x with
      | none =>
        cases y with
        | none => rw [List.reduceOption_cons_of_none, List.reduceOption_cons_of_none, ih h.2]; simp
        | some b => exact absurd h.1 (by simp)
      | some a =>
        cases y with
        | none => exact absurd h.1 (by simp)
        | some b =>
          rw [List.reduceOption_cons_of_some, List.reduceOption_cons_of_some, List.cons.injEq,
            ih h.2]
          simp

/-- Listings for two main files agree exactly if the stamps of the lines shown do. -/
lemma ofAssembly_eq_iff (filter : Filter) (a b : Option Text) (lines : List Text) :
    Listing.ofAssembly filter a lines = Listing.ofAssembly filter b lines ↔
      ∀ j, IsShown filter lines j → stampAt a lines j = stampAt b lines j := by
  have hlines : Listing.ofAssembly filter a lines = Listing.ofAssembly filter b lines ↔
      fates filter a lines = fates filter b lines := by
    rw [← reduceOption_inj (isSome_fates filter a b lines), ← lines_ofAssembly, ← lines_ofAssembly]
    refine ⟨congrArg Listing.lines, fun h => ?_⟩
    exact congrArg Listing.ofLines h
  rw [hlines]
  constructor
  · intro h j hj
    obtain ⟨shown, hshown⟩ := (isShown_iff a).mp hj
    rw [← stamp_of_fate hshown, ← stamp_of_fate (h ▸ hshown)]
  · intro h
    apply List.ext_getElem?
    intro j
    have hview := congrArg (·[j]?) (isSome_fates filter a b lines)
    simp only [List.getElem?_map] at hview
    rcases hx : (fates filter a lines)[j]? with _ | _ | x
    · rw [hx] at hview
      exact (Option.map_eq_none_iff.mp hview.symm).symm
    · rcases hy : (fates filter b lines)[j]? with _ | _ | y
      · exact absurd hview (by simp [hx, hy])
      · rfl
      · exact absurd hview (by simp [hx, hy])
    · rcases hy : (fates filter b lines)[j]? with _ | _ | y
      · exact absurd hview (by simp [hx, hy])
      · exact absurd hview (by simp [hx, hy])
      · obtain ⟨line, hline, rfl⟩ := shown_of_fate hx
        obtain ⟨line', hline', rfl⟩ := shown_of_fate hy
        obtain rfl := Option.some.inj (hline.symm.trans hline')
        rw [h j ⟨_, ((isShown_iff a).mpr ⟨_, hx⟩).choose_spec⟩]

/-! ### Files that one request takes for the main one -/

/-- The file that the last event behind some lines, the latest first, points at, and the lines before
that event. -/
def locationBehind : List Text → Option (Nat × List Text)
  | [] => none
  | line :: earlier =>
    match eventOf? line with
    | some (.location file n) => if 0 < n then some (file, earlier) else none
    | some _ => none
    | none => locationBehind earlier

/-- The file that the line with an index comes from, and the lines before the event that says so. -/
def locationAt (lines : List Text) (j : Nat) : Option (Nat × List Text) :=
  match lines[j]? with
  | none => none
  | some line =>
    if isFunctionEnd line then locationBehind (lines.take j).reverse
    else locationBehind (lines.take (j + 1)).reverse

lemma stampBehind_eq_iff (a b : Option Text) (earlier : List Text) :
    stampBehind a earlier = stampBehind b earlier ↔
      ∀ file before, locationBehind earlier = some (file, before) →
        isMainFile a before file = isMainFile b before file := by
  induction earlier with
  | nil => exact iff_of_true rfl fun _ _ h => absurd h (Option.some_ne_none _).symm
  | cons line earlier ih =>
    rw [stampBehind, stampBehind, locationBehind]
    rcases eventOf? line with _ | ⟨file, n⟩ | n | _ | _
    · exact ih
    · dsimp only
      by_cases hn : 0 < n
      · rw [if_pos hn]
        cases ha : isMainFile a earlier file with
        | true => cases hb : isMainFile b earlier file <;> simp [hn, ha, hb]
        | false => cases hb : isMainFile b earlier file <;> simp [hn, ha, hb]
      · simp [hn]
    · exact iff_of_true rfl fun _ _ h => absurd h (Option.some_ne_none _).symm
    · exact iff_of_true rfl fun _ _ h => absurd h (Option.some_ne_none _).symm
    · exact iff_of_true rfl fun _ _ h => absurd h (Option.some_ne_none _).symm

lemma stampAt_eq_iff (a b : Option Text) (lines : List Text) (j : Nat) :
    stampAt a lines j = stampAt b lines j ↔
      ∀ file before, locationAt lines j = some (file, before) →
        isMainFile a before file = isMainFile b before file := by
  rw [stampAt, stampAt, locationAt]
  rcases lines[j]? with _ | line
  · exact iff_of_true rfl fun _ _ h => absurd h (Option.some_ne_none _).symm
  · dsimp only
    split
    · exact stampBehind_eq_iff a b _
    · exact stampBehind_eq_iff a b _

/-- Whether no line that is shown comes from a file that is the main one for one name only. -/
def SameMain (filter : Filter) (a b : Option Text) (lines : List Text) : Prop :=
  ∀ j, IsShown filter lines j → ∀ file before, locationAt lines j = some (file, before) →
    isMainFile a before file = isMainFile b before file

lemma ofText_eq_iff (filter : Filter) (a b : Option Text) (t : Text) :
    Listing.ofText filter a t = Listing.ofText filter b t ↔
      filter.binary = true ∨ SameMain filter a b (Text.splitLines t) := by
  rw [Listing.ofText, Listing.ofText]
  cases hbinary : filter.binary with
  | true => simp
  | false =>
    simp only [Bool.false_eq_true, if_false, false_or]
    rw [ofAssembly_eq_iff]
    exact forall_congr' fun j => imp_congr_right fun _ => stampAt_eq_iff a b _ j

/-! ### Two requests -/

/-- Two paths of one file come to the same compilation. Their documents have the same lines, stamps
and map exactly if the text is disassembled code or no line shown comes from a file that bears the
name in one path and not in the other. -/
theorem explore_agrees_iff (e : Explorer) (p q : Path) (given : List Text)
    (hcanonical : e.host.canonicalPath p = e.host.canonicalPath q)
    (hsilent : ¬MentionsSource e.settings.compilationDirectory) :
    e.compile p given = e.compile q given ∧
      (e.explore p given).1 = (e.explore q given).1 ∧
      (∀ failure, (e.compile p given).2 = .error failure →
        (e.explore p given).2 = .error failure ∧ (e.explore q given).2 = .error failure) ∧
      ∀ t, (e.compile p given).2 = .ok t →
        ∃ dp dq, (e.explore p given).2 = .ok dp ∧ (e.explore q given).2 = .ok dq ∧
          (dp.listing = dq.listing ↔ e.settings.filter.binary = true ∨
            SameMain e.settings.filter p.fileName? q.fileName? (Text.splitLines t)) := by
  have hdatabase : e.databasePath p = e.databasePath q := by
    rw [Explorer.databasePath, Explorer.databasePath, Settings.databasePath, Settings.databasePath,
      resolve_of_silent hsilent p q]
  have hcompile := compile_congr hcanonical hdatabase given
  have hexplore : ∀ source, e.explore source given = ((e.compile source given).1,
      (e.compile source given).2.map ((e.compile source given).1.document source)) := fun _ => rfl
  refine ⟨hcompile, ?_, fun failure h => ?_, fun t h => ?_⟩
  · rw [hexplore, hexplore, hcompile]
  · rw [hexplore, hexplore, ← hcompile, h]
    exact ⟨rfl, rfl⟩
  · rw [hexplore, hexplore, ← hcompile, h]
    refine ⟨_, _, rfl, rfl, ?_⟩
    have hsettings := settings_compile e p given
    show Listing.ofSource _ p t = Listing.ofSource _ q t ↔ _
    rw [hsettings]
    exact ofText_eq_iff _ _ _ t

/-- A file, a link to it, and a compiler that writes the name of the file into its output. -/
def linkedExplorer : Explorer :=
  .ofSettings
    (shellHost [("main.c", textFile "int x;\n"), ("link.c", .link "main.c".toList),
      ("cc.sh", textFile "printf '\\t.file 1 \"main.c\"\\nmain:\\n\\t.loc 1 3\\n\\tret\\n'\n")])
    shellSettings

def linkedCommand : List Text := ["sh".toList, "/cc.sh".toList]

/-- What the compiler writes. -/
def linkedText : Text :=
  "\t.file 1 \"main.c\"\nmain:\n\t.loc 1 3\n\tret".toList

lemma silent_linkedExplorer : ¬MentionsSource linkedExplorer.settings.compilationDirectory := by
  rintro ⟨name, v, hmem, -, -⟩
  have hpieces : Template.pieces linkedExplorer.settings.compilationDirectory =
      [.literal "/".toList] := by decide +kernel
  rw [hpieces] at hmem
  exact absurd hmem (by simp)

/-- The stamps of the document for a path. -/
def linkedStamps (p : Path) : Option (List (Option Nat)) :=
  ((linkedExplorer.explore p linkedCommand).2.toOption).map fun d => d.listing.lines.map Line.sourceLine

lemma linkedStamps_eq {p : Path} {d : Document}
    (h : (linkedExplorer.explore p linkedCommand).2 = .ok d) :
    linkedStamps p = some (d.listing.lines.map Line.sourceLine) := by
  rw [linkedStamps, h]
  rfl

set_option maxRecDepth 10000 in
lemma linkedStamps_values :
    linkedStamps (.ofString "/main.c") = some [some 3] ∧
      linkedStamps (.ofString "/link.c") = some [none] :=
  ⟨by decide +kernel, by decide +kernel⟩

lemma canonical_link :
    linkedExplorer.host.canonicalPath (.ofString "/main.c") =
      linkedExplorer.host.canonicalPath (.ofString "/link.c") := by
  decide +kernel

/-- A line that is shown comes from the file, which bears one of the names. A command without a
program fails for both. -/
theorem explore_agrees_on_link :
    linkedExplorer.host.canonicalPath (.ofString "/main.c") =
        linkedExplorer.host.canonicalPath (.ofString "/link.c") ∧
      ¬MentionsSource linkedExplorer.settings.compilationDirectory ∧
      linkedExplorer.compile (.ofString "/main.c") linkedCommand =
        linkedExplorer.compile (.ofString "/link.c") linkedCommand ∧
      (linkedExplorer.explore (.ofString "/main.c") linkedCommand).1 =
        (linkedExplorer.explore (.ofString "/link.c") linkedCommand).1 ∧
      (∃ failure,
        (linkedExplorer.explore (.ofString "/main.c") ["gone".toList]).2 = .error failure ∧
          (linkedExplorer.explore (.ofString "/link.c") ["gone".toList]).2 = .error failure) ∧
      ∃ dp dq, (linkedExplorer.explore (.ofString "/main.c") linkedCommand).2 = .ok dp ∧
        (linkedExplorer.explore (.ofString "/link.c") linkedCommand).2 = .ok dq ∧
        dp.listing ≠ dq.listing ∧
        ¬SameMain linkedExplorer.settings.filter (some "main.c".toList) (some "link.c".toList)
          (Text.splitLines linkedText) := by
  obtain ⟨hcompile, hstate, -, hagrees⟩ :=
    explore_agrees_iff linkedExplorer _ _ linkedCommand canonical_link silent_linkedExplorer
  obtain ⟨-, -, hfails, -⟩ :=
    explore_agrees_iff linkedExplorer _ _ ["gone".toList] canonical_link silent_linkedExplorer
  have hgone : (linkedExplorer.compile (.ofString "/main.c") ["gone".toList]).2.toOption = none := by
    decide +kernel
  obtain ⟨failure, hfailure⟩ := exists_error_of_toOption hgone
  have htext : (linkedExplorer.compile (.ofString "/main.c") linkedCommand).2 = .ok linkedText :=
    eq_ok_of_toOption (by decide +kernel)
  obtain ⟨dp, dq, hp, hq, hiff⟩ := hagrees linkedText htext
  have hdiffer : dp.listing ≠ dq.listing := by
    intro heq
    have hstamps := linkedStamps_eq hp
    rw [heq, ← linkedStamps_eq hq, linkedStamps_values.1, linkedStamps_values.2] at hstamps
    exact absurd hstamps (by decide)
  exact ⟨canonical_link, silent_linkedExplorer, hcompile, hstate,
    ⟨failure, hfails failure hfailure⟩, dp, dq, hp, hq, hdiffer,
    fun hsame => hdiffer (hiff.mpr (.inr hsame))⟩

/-- Under the name of the link, no line of the file has a source line. -/
theorem stamps_of_link_differ :
    linkedExplorer.host.canonicalPath (.ofString "/main.c") =
        linkedExplorer.host.canonicalPath (.ofString "/link.c") ∧
      ¬MentionsSource linkedExplorer.settings.compilationDirectory ∧
      linkedStamps (.ofString "/main.c") = some [some 3] ∧
      linkedStamps (.ofString "/link.c") = some [none] :=
  ⟨canonical_link, silent_linkedExplorer, linkedStamps_values⟩

end AsmExplorer.Proofs
