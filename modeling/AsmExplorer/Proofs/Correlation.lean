import AsmExplorer.Proofs.ListingSteps
import Mathlib.Data.List.Induction

/-!
# Correlation with source lines

The stamp of a shown line does not depend on what the listing leaves out. It is read off the text
itself, back from the line: the last line that says anything about source lines decides, be it a
marker, a section switch or the end of a function. Which file is the main one is read off the `.file`
entries before a marker in the same way.

The cursor does not always know that stamp: the end of a function in a debug section that is left out
is never read. What it keeps is the stamp outside such sections, and the line that leads out of one
clears it.
-/

namespace AsmExplorer.Proofs
open AsmExplorer.Assembly

/-! ### The stamp read off the text -/

/-- What a line says about the source line of the code after it. -/
inductive CorrelationEvent where
  | location (file line : Nat)
  | stab (line : Nat)
  | sectionSwitch
  | functionEnd
  deriving DecidableEq

/-- The correlation event on a line. -/
def eventOf? (line : Text) : Option CorrelationEvent :=
  match Marker.ofLine? line with
  | some (.location file line) => some (.location file line)
  | some (.lineStab line) => some (.stab line)
  | some .otherStab => none
  | none =>
    if (sectionSwitch? line).isSome then some .sectionSwitch
    else if isFunctionEnd line then some .functionEnd
    else none

/-- The name of the main file that a line gives by an entry without a number. -/
def namedMain? (line : Text) : Option Text :=
  match FileEntry.ofLine? line with
  | some ⟨none, path⟩ => Path.fileName? ⟨path⟩
  | _ => none

/-- The path that a line gives to the file with a number. -/
def pathOf? (file : Nat) (line : Text) : Option Text :=
  match FileEntry.ofLine? line with
  | some ⟨some index, path⟩ => if index = file then some path else none
  | _ => none

/-- The name of the main file behind some lines, the latest first: the given one, or else the first
that an entry names. -/
def mainName (main : Option Text) (earlier : List Text) : Option Text :=
  main.or (earlier.reverse.findSome? namedMain?)

/-- Whether the file with a number is the main one behind some lines, the latest first. -/
def isMainFile (main : Option Text) (earlier : List Text) (file : Nat) : Bool :=
  match mainName main earlier, earlier.findSome? (pathOf? file) with
  | some name, some path => Path.fileName? ⟨path⟩ == some name
  | _, _ => file == 1

/-- The stamp behind some lines, the latest first: the last event decides. -/
def stampBehind (main : Option Text) : List Text → Option Nat
  | [] => none
  | line :: earlier =>
    match eventOf? line with
    | some (.location file n) =>
      if 0 < n ∧ isMainFile main earlier file then some n else none
    | some (.stab n) => if 0 < n then some n else none
    | some .sectionSwitch => none
    | some .functionEnd => none
    | none => stampBehind main earlier

/-- The stamp of the line with an index. The end of a function counts only for the lines after it. -/
def stampAt (main : Option Text) (lines : List Text) (j : Nat) : Option Nat :=
  match lines[j]? with
  | none => none
  | some line =>
    if isFunctionEnd line then stampBehind main (lines.take j).reverse
    else stampBehind main (lines.take (j + 1)).reverse

/-! ### A line is at most one kind of directive -/

lemma directive_of_marker {line : Text} {marker : Marker} (h : Marker.ofLine? line = some marker) :
    ∃ d, Directive.ofLine? line = some d ∧
      (d.name = "loc".toList ∨ d.name = "stabn".toList) := by
  unfold Marker.ofLine? at h
  cases hd : Directive.ofLine? line with
  | none =>
    rw [hd] at h
    exact absurd h (by simp)
  | some d =>
    refine ⟨d, rfl, ?_⟩
    rw [hd] at h
    simp only [Option.bind_eq_bind, Option.bind_some] at h
    split at h
    · next hloc => exact Or.inl hloc
    · split at h
      · next hstab => exact Or.inr hstab
      · exact absurd h (by simp)

lemma fileEntry_of_marker {line : Text} {marker : Marker} (h : Marker.ofLine? line = some marker) :
    FileEntry.ofLine? line = none := by
  obtain ⟨d, hd, hname⟩ := directive_of_marker h
  have hne : d.name ≠ "file".toList := by
    rcases hname with hname | hname <;> rw [hname] <;> decide
  rw [FileEntry.ofLine?, hd]
  exact if_neg hne

lemma directive_of_functionEnd {line : Text} (h : isFunctionEnd line = true) :
    ∃ d, Directive.ofLine? line = some d ∧ d.name = "cfi_endproc".toList := by
  unfold isFunctionEnd at h
  cases hd : Directive.ofLine? line with
  | none =>
    rw [hd] at h
    exact absurd h Bool.false_ne_true
  | some d =>
    rw [hd] at h
    exact ⟨d, rfl, of_decide_eq_true h⟩

lemma sectionSwitch_of_functionEnd {line : Text} (h : isFunctionEnd line = true) :
    sectionSwitch? line = none := by
  obtain ⟨d, hd, hname⟩ := directive_of_functionEnd h
  rw [sectionSwitch?, hd]
  simp only [Option.bind_eq_bind, Option.bind_some, hname]
  rfl

lemma functionEnd_of_switch {line name : Text} (h : sectionSwitch? line = some name) :
    isFunctionEnd line = false := by
  refine Bool.eq_false_iff.mpr fun hend => ?_
  rw [sectionSwitch_of_functionEnd hend] at h
  exact absurd h (by simp)

lemma isComment_of_directive {line : Text} {d : Directive} (h : Directive.ofLine? line = some d) :
    isComment line = false := by
  unfold Directive.ofLine? at h
  split at h
  · next rest hblanks =>
    rw [isComment, hblanks]
    rfl
  · exact absurd h (by simp)

lemma functionEnd_of_comment {line : Text} (h : isComment line = true) :
    isFunctionEnd line = false := by
  refine Bool.eq_false_iff.mpr fun hend => ?_
  obtain ⟨d, hd, -⟩ := directive_of_functionEnd hend
  rw [isComment_of_directive hd] at h
  exact Bool.false_ne_true h

/-! ### The table of source files -/

/-- A table of source files holds what some lines, the latest first, say of them. -/
structure Tracks (main : Option Text) (earlier : List Text) (files : SourceFiles) : Prop where
  main_eq : files.main = mainName main earlier
  path_eq : ∀ file, files.paths.get? file = earlier.findSome? (pathOf? file)

lemma tracks_start (main : Option Text) : Tracks main [] (.start main) :=
  ⟨(Option.or_none).symm, fun _ => rfl⟩

lemma mainName_cons (main : Option Text) (line : Text) (earlier : List Text) :
    mainName main (line :: earlier) = (mainName main earlier).or (namedMain? line) := by
  have hline : [line].findSome? namedMain? = namedMain? line := by
    cases h : namedMain? line <;> simp [h]
  rw [mainName, mainName, List.reverse_cons, List.findSome?_append, hline, Option.or_assoc]

lemma tracks_of_no_entry {main : Option Text} {earlier : List Text} {files : SourceFiles}
    (h : Tracks main earlier files) {line : Text} (hline : FileEntry.ofLine? line = none) :
    Tracks main (line :: earlier) files := by
  constructor
  · rw [mainName_cons, namedMain?, hline, Option.or_none]
    exact h.main_eq
  · intro file
    rw [List.findSome?_cons, pathOf?, hline]
    exact h.path_eq file

lemma tracks_record {main : Option Text} {earlier : List Text} {files : SourceFiles}
    (h : Tracks main earlier files) {line : Text} {entry : FileEntry}
    (hline : FileEntry.ofLine? line = some entry) :
    Tracks main (line :: earlier) (files.record entry) := by
  obtain ⟨index, path⟩ := entry
  cases index with
  | none =>
    constructor
    · rw [mainName_cons, namedMain?, hline, ← h.main_eq]
      rfl
    · intro file
      rw [List.findSome?_cons, pathOf?, hline]
      exact h.path_eq file
  | some index =>
    constructor
    · rw [mainName_cons, namedMain?, hline, Option.or_none]
      exact h.main_eq
    · intro file
      show (files.paths.insert index path).get? file = _
      rw [Table.get?_insert, List.findSome?_cons, pathOf?, hline, h.path_eq file]
      by_cases hfile : file = index
      · rw [if_pos hfile]
        simp [hfile]
      · rw [if_neg hfile]
        simp [Ne.symm hfile]

lemma tracks_enter {main : Option Text} {earlier : List Text} {s : Cursor}
    (h : Tracks main earlier s.files) (line : Text) :
    Tracks main (line :: earlier) (enter s line).files := by
  rw [enter_files]
  cases hline : FileEntry.ofLine? line with
  | none => exact tracks_of_no_entry h hline
  | some entry => exact tracks_record h hline

lemma isMain_eq {main : Option Text} {earlier : List Text} {files : SourceFiles}
    (h : Tracks main earlier files) (file : Nat) :
    files.isMain file = isMainFile main earlier file := by
  rw [isMainFile, ← h.main_eq, ← h.path_eq file]
  rfl

lemma correlate_eq {main : Option Text} {earlier : List Text} {files : SourceFiles}
    (h : Tracks main earlier files) (file n : Nat) :
    files.correlate file n = if 0 < n ∧ isMainFile main earlier file then some n else none := by
  rw [SourceFiles.correlate, isMain_eq h]
  by_cases hn : n = 0
  · simp [hn]
  · simp [hn, Nat.pos_of_ne_zero hn]

/-! ### What the cursor knows -/

/-- The cursor holds the files of the lines behind it, and their stamp unless it stands in a debug
section that is left out. -/
structure Follows (filter : Filter) (main : Option Text) (earlier : List Text) (s : Cursor) :
    Prop where
  tracks : Tracks main earlier s.files
  stamp : (filter.directives && s.inDebug) = false → s.sourceLine = stampBehind main earlier

lemma follows_mark {filter : Filter} {main : Option Text} {earlier : List Text} {s : Cursor}
    (h : Follows filter main earlier s) {line : Text} {marker : Marker}
    (hline : Marker.ofLine? line = some marker) :
    Follows filter main (line :: earlier) (s.mark marker) := by
  have hfiles := tracks_of_no_entry h.tracks (fileEntry_of_marker hline)
  cases marker with
  | location file n =>
    refine ⟨hfiles, fun _ => ?_⟩
    rw [stampBehind, eventOf?, hline]
    exact correlate_eq h.tracks file n
  | lineStab n =>
    refine ⟨hfiles, fun _ => ?_⟩
    rw [stampBehind, eventOf?, hline]
    by_cases hn : n = 0
    · simp [Cursor.mark, hn]
    · simp [Cursor.mark, hn, Nat.pos_of_ne_zero hn]
  | otherStab =>
    refine ⟨hfiles, fun hout => ?_⟩
    rw [stampBehind, eventOf?, hline]
    exact h.stamp hout

/-- On a line that is not left out the cursor has the stamp of the line. The end of a function is the
one line whose stamp is not what it leaves behind. -/
lemma enter_stamp {filter : Filter} {main : Option Text} {earlier : List Text} {s : Cursor}
    (h : Follows filter main earlier s) {line : Text} (hline : Marker.ofLine? line = none)
    (hout : (filter.directives && (enter s line).inDebug) = false) :
    (enter s line).sourceLine =
      if isFunctionEnd line then stampBehind main earlier
      else stampBehind main (line :: earlier) := by
  cases hs : sectionSwitch? line with
  | some name =>
    rw [(enter_of_switch hs).1, functionEnd_of_switch hs, stampBehind, eventOf?, hline, hs]
    rfl
  | none =>
    rw [(enter_of_stay hs).2] at hout
    rw [(enter_of_stay hs).1, h.stamp hout]
    cases hend : isFunctionEnd line with
    | true => rfl
    | false =>
      rw [stampBehind, eventOf?, hline, hs, hend]
      rfl

lemma follows_skip {filter : Filter} {main : Option Text} {earlier : List Text} {s : Cursor}
    (h : Follows filter main earlier s) {line : Text} (hline : Marker.ofLine? line = none)
    (hskip : (enter s line).skips filter line = true) :
    Follows filter main (line :: earlier) (enter s line) := by
  refine ⟨tracks_enter h.tracks line, fun hout => ?_⟩
  -- outside debug sections only comments are left out, and a comment ends no function
  have hcomment : (filter.commentOnly && isComment line) = true := by
    rwa [Cursor.skips, hout, Bool.false_or] at hskip
  have hend := functionEnd_of_comment (Bool.and_eq_true_iff.mp hcomment).2
  rw [enter_stamp h hline hout, hend]
  rfl

lemma follows_read {filter : Filter} {main : Option Text} {earlier : List Text} {s : Cursor}
    (h : Follows filter main earlier s) {line : Text} (hline : Marker.ofLine? line = none)
    (refs : Option References) :
    Follows filter main (line :: earlier) ((enter s line).leave refs line) := by
  refine ⟨tracks_enter h.tracks line, fun hout => ?_⟩
  have hentered := enter_stamp h hline hout
  cases hend : isFunctionEnd line with
  | true =>
    rw [stampBehind, eventOf?, hline, sectionSwitch_of_functionEnd hend, hend]
    simp [Cursor.leave, hend]
  | false =>
    rw [hend] at hentered
    simpa [Cursor.leave, hend] using hentered

lemma follows_step {filter : Filter} {main : Option Text} {earlier : List Text} {s : Cursor}
    (h : Follows filter main earlier s) (refs : Option References) (line : Text) :
    Follows filter main (line :: earlier) (s.step filter refs line).1 := by
  rcases step_cases filter refs s line with
    ⟨marker, hm, hs⟩ | ⟨hm, hskip, hs⟩ | ⟨hm, -, hs⟩
  · rw [hs]
    exact follows_mark h hm
  · rw [hs]
    exact follows_skip h hm hskip
  · rw [hs]
    exact follows_read h hm refs

/-- The cursor follows the text from its first line on. -/
lemma follows_after (filter : Filter) (main : Option Text) (refs : Option References)
    (lines : List Text) :
    Follows filter main lines.reverse (after filter refs { files := .start main } lines) := by
  induction lines using List.reverseRecOn with
  | nil => exact ⟨tracks_start main, fun _ => rfl⟩
  | append_singleton lines line ih =>
    rw [after_append_singleton, List.reverse_append]
    exact follows_step ih refs line

/-- A line is shown with the stamp that is read off the text. -/
lemma stamp_of_fate {filter : Filter} {main : Option Text} {lines : List Text} {j : Nat}
    {shown : Line} (h : (fates filter main lines)[j]? = some (some shown)) :
    shown.sourceLine = stampAt main lines j := by
  obtain ⟨line, hline, hshown⟩ := outcomes_getElem? h
  obtain ⟨hm, hread, rfl⟩ := of_step_shown hshown
  have hout := (Bool.or_eq_false_iff.mp hread).1
  have hfollows := follows_after filter main (referencesFor filter lines) (lines.take j)
  have htake : (lines.take (j + 1)).reverse = line :: (lines.take j).reverse := by
    rw [List.take_add_one, hline, List.reverse_append]
    rfl
  rw [stampAt, hline, htake]
  exact enter_stamp hfollows hm hout

/-- What is shown for a line is its text with the stamp that is read off the text. -/
lemma shown_of_fate {filter : Filter} {main : Option Text} {lines : List Text} {j : Nat}
    {shown : Line} (h : (fates filter main lines)[j]? = some (some shown)) :
    ∃ line, lines[j]? = some line ∧
      shown = { text := Text.displayForm line, sourceLine := stampAt main lines j } := by
  have hstamp := stamp_of_fate h
  obtain ⟨line, hline, hshown⟩ := outcomes_getElem? h
  obtain ⟨-, -, rfl⟩ := of_step_shown hshown
  refine ⟨line, hline, ?_⟩
  rw [← hstamp]
  rfl

lemma lines_ofText {filter : Filter} (main : Option Text) (t : Text)
    (h : filter.binary = false) :
    (Listing.ofText filter main t).lines =
      (fates filter main (Text.splitLines t)).reduceOption := by
  rw [← lines_ofAssembly]
  simp only [Listing.ofText, h]
  rfl

end AsmExplorer.Proofs
