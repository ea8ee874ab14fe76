import AsmExplorer.Assembly.Disassembly
import Mathlib.Data.List.ReduceOption

/-!
# Reading a listing line by line

A listing is read by one pass with a cursor. This file says once what a single line does to the
cursor: a marker moves it, a line that is left out only enters its section, and any other line is
read. The fate of each line of a text is kept apart, so that listings under two filters can be
compared line by line.
-/

namespace AsmExplorer.Proofs
open AsmExplorer.Assembly

/-- The cursor on a line that is no marker: its file entry and its section count already. -/
def enter (s : Cursor) (line : Text) : Cursor :=
  (s.recordFile line).switchSection line

/-- The line as it is shown from a cursor. -/
def stamped (s : Cursor) (line : Text) : Line :=
  { text := Text.displayForm line, sourceLine := s.sourceLine }

lemma recordFile_eq (s : Cursor) (line : Text) :
    s.recordFile line = { s with
      files := match FileEntry.ofLine? line with
        | some entry => s.files.record entry
        | none => s.files } := by
  unfold Cursor.recordFile
  cases FileEntry.ofLine? line with
  | none => rfl
  | some entry => rfl

lemma enter_of_switch {s : Cursor} {line name : Text} (h : sectionSwitch? line = some name) :
    (enter s line).sourceLine = none ∧ (enter s line).inDebug = isDebugSection name := by
  rw [enter, Cursor.switchSection, h]
  exact ⟨rfl, rfl⟩

lemma enter_of_stay {s : Cursor} {line : Text} (h : sectionSwitch? line = none) :
    (enter s line).sourceLine = s.sourceLine ∧ (enter s line).inDebug = s.inDebug := by
  rw [enter, Cursor.switchSection, h, recordFile_eq]
  exact ⟨rfl, rfl⟩

lemma enter_files (s : Cursor) (line : Text) :
    (enter s line).files = match FileEntry.ofLine? line with
      | some entry => s.files.record entry
      | none => s.files := by
  rw [enter, Cursor.switchSection, recordFile_eq]
  cases sectionSwitch? line with
  | none => rfl
  | some name => rfl

section

variable {filter : Filter} {refs : Option References} {s : Cursor} {line : Text}

lemma step_of_marker {marker : Marker} (h : Marker.ofLine? line = some marker) :
    s.step filter refs line = (s.mark marker, none) := by
  rw [Cursor.step, h]

lemma step_of_skips (h : Marker.ofLine? line = none)
    (hskip : (enter s line).skips filter line = true) :
    s.step filter refs line = (enter s line, none) := by
  rw [Cursor.step, h]
  exact if_pos hskip

lemma step_of_reads (h : Marker.ofLine? line = none)
    (hread : (enter s line).skips filter line = false) :
    s.step filter refs line =
      ((enter s line).leave refs line,
        if (enter s line).shows filter refs line then some (stamped (enter s line) line)
        else none) := by
  have hnot : ¬(enter s line).skips filter line = true := by rw [hread]; exact Bool.false_ne_true
  rw [Cursor.step, h]
  exact if_neg hnot

/-- What a line can do: move the cursor as a marker, be left out, or be read. -/
lemma step_cases (filter : Filter) (refs : Option References) (s : Cursor) (line : Text) :
    (∃ marker, Marker.ofLine? line = some marker ∧
      s.step filter refs line = (s.mark marker, none)) ∨
    (Marker.ofLine? line = none ∧ (enter s line).skips filter line = true ∧
      s.step filter refs line = (enter s line, none)) ∨
    (Marker.ofLine? line = none ∧ (enter s line).skips filter line = false ∧
      s.step filter refs line = ((enter s line).leave refs line,
        if (enter s line).shows filter refs line then some (stamped (enter s line) line)
        else none)) := by
  cases hm : Marker.ofLine? line with
  | some marker => exact Or.inl ⟨marker, rfl, step_of_marker hm⟩
  | none =>
    cases hs : (enter s line).skips filter line with
    | true => exact Or.inr (Or.inl ⟨rfl, rfl, step_of_skips hm hs⟩)
    | false => exact Or.inr (Or.inr ⟨rfl, rfl, step_of_reads hm hs⟩)

/-- A line is shown only if it is neither a marker nor left out, and then as it stands. -/
lemma of_step_shown {shown : Line} (h : (s.step filter refs line).2 = some shown) :
    Marker.ofLine? line = none ∧ (enter s line).skips filter line = false ∧
      shown = stamped (enter s line) line := by
  rcases step_cases filter refs s line with ⟨marker, -, hs⟩ | ⟨-, -, hs⟩ | ⟨hm, hread, hs⟩
  · rw [hs] at h
    exact absurd h (by simp)
  · rw [hs] at h
    exact absurd h (by simp)
  · rw [hs] at h
    refine ⟨hm, hread, ?_⟩
    by_cases hshow : (enter s line).shows filter refs line = true
    · simp only [hshow, if_true, Option.some.injEq] at h
      exact h.symm
    · simp only [hshow] at h
      exact absurd h (by simp)

end

/-- What becomes of each line of a text: the line shown for it, if one is. -/
def outcomes (filter : Filter) (refs : Option References) (s : Cursor) :
    List Text → List (Option Line)
  | [] => []
  | line :: rest =>
    (s.step filter refs line).2 :: outcomes filter refs (s.step filter refs line).1 rest

/-- The cursor behind some lines. -/
def after (filter : Filter) (refs : Option References) (s : Cursor) (lines : List Text) : Cursor :=
  lines.foldl (fun s line => (s.step filter refs line).1) s

lemma read_eq_outcomes (filter : Filter) (refs : Option References) (s : Cursor)
    (lines : List Text) :
    Cursor.read filter refs s lines = (outcomes filter refs s lines).reduceOption := by
  induction lines generalizing s with
  | nil => rfl
  | cons line rest ih =>
    simp only [Cursor.read, outcomes, ih]
    cases (s.step filter refs line).2 with
    | none => rfl
    | some shown => rfl

lemma after_append_singleton (filter : Filter) (refs : Option References) (s : Cursor)
    (lines : List Text) (line : Text) :
    after filter refs s (lines ++ [line]) =
      ((after filter refs s lines).step filter refs line).1 := by
  simp only [after, List.foldl_append, List.foldl_cons, List.foldl_nil]

/-- The line shown for the line with an index comes from the cursor behind the lines before it. -/
lemma outcomes_getElem? {filter : Filter} {refs : Option References} {s : Cursor}
    {lines : List Text} {j : Nat} {shown : Line}
    (h : (outcomes filter refs s lines)[j]? = some (some shown)) :
    ∃ line, lines[j]? = some line ∧
      ((after filter refs s (lines.take j)).step filter refs line).2 = some shown := by
  induction lines generalizing s j with
  | nil => simp [outcomes] at h
  | cons line rest ih =>
    cases j with
    | zero =>
      simp only [outcomes, List.getElem?_cons_zero, Option.some.injEq] at h
      exact ⟨line, rfl, h⟩
    | succ j =>
      simp only [outcomes, List.getElem?_cons_succ] at h
      obtain ⟨line', hline, hshown⟩ := ih h
      exact ⟨line', hline, hshown⟩

/-- The references that a filter asks for: none, if every label is to be shown. -/
def referencesFor (filter : Filter) (lines : List Text) : Option References :=
  if filter.labels then some (References.ofLines lines) else none

/-- What becomes of each line of an assembly text. -/
def fates (filter : Filter) (main : Option Text) (lines : List Text) : List (Option Line) :=
  outcomes filter (referencesFor filter lines) { files := .start main } lines

/-- The lines of a listing are those that are shown for the lines of its text, in order. -/
lemma lines_ofAssembly (filter : Filter) (main : Option Text) (lines : List Text) :
    (Listing.ofAssembly filter main lines).lines = (fates filter main lines).reduceOption :=
  read_eq_outcomes filter (referencesFor filter lines) { files := .start main } lines

end AsmExplorer.Proofs
