import AsmExplorer.Proofs.ListingSteps
import AsmExplorer.Proofs.SourceMapEntries

/-!
# The source map of a listing

The source map of a listing is the inverse of the stamps of its lines, for assembly text and for
disassembled code. The lines come in with growing indices, so that the indices of a source line
ascend; and no line is stamped with the source line zero, which the markers use for code without one.
-/

namespace AsmExplorer.Proofs
open AsmExplorer.Assembly AsmExplorer.Assembly.Listing

/-- The source map leads from each source line to exactly the lines stamped with it. -/
structure InvertsStamps (l : Listing) : Prop where
  mem_iff : ∀ n i, i ∈ l.map.indicesOf n ↔
    ∃ h : i < l.lines.length, l.lines[i].sourceLine = some n
  lines_ascending : l.map.lines.Pairwise (· < ·)
  inhabited : ∀ e ∈ l.map.entries, e.2 ≠ []
  ascending : ∀ e ∈ l.map.entries, e.2.Pairwise (· < ·)
  nonzero : ∀ e ∈ l.map.entries, e.1 ≠ 0

/-- No line is stamped, and the source map is empty. -/
structure Unstamped (l : Listing) : Prop where
  lines : ∀ line ∈ l.lines, line.sourceLine = none
  map_empty : l.map.isEmpty = true

/-! ### Lines that come in one after the other -/

/-- A map of lines with indices below a bound. -/
structure Filled (m : SourceMap) (bound : Nat) : Prop where
  ordered : Ordered m
  ascending : ∀ n, (m.indicesOf n).Pairwise (· < ·)
  below : ∀ n, ∀ i ∈ m.indicesOf n, i < bound

lemma filled_empty : Filled SourceMap.empty 0 :=
  ⟨ordered_empty, fun _ => List.Pairwise.nil, fun _ _ h => absurd h List.not_mem_nil⟩

/-- The next line goes to the end of the indices of its source line. -/
lemma indicesOf_addToMap {m : SourceMap} {bound : Nat} (h : Filled m bound) (line : Line)
    (n : Nat) :
    (addToMap m bound line).indicesOf n =
      if line.sourceLine = some n then m.indicesOf n ++ [bound] else m.indicesOf n := by
  cases hl : line.sourceLine with
  | none => simp [addToMap, hl]
  | some k =>
    simp only [addToMap, hl, indicesOf_insert h.ordered, Option.some.injEq]
    by_cases hn : n = k
    · rw [if_pos hn, if_pos hn.symm, addIndex_of_lt (h.below n)]
    · rw [if_neg hn, if_neg (Ne.symm hn)]

lemma ordered_addToMap {m : SourceMap} (h : Ordered m) (index : Nat) (line : Line) :
    Ordered (addToMap m index line) := by
  unfold addToMap
  cases line.sourceLine with
  | none => exact h
  | some n => exact ordered_insert h n index

lemma filled_addToMap {m : SourceMap} {bound : Nat} (h : Filled m bound) (line : Line) :
    Filled (addToMap m bound line) (bound + 1) := by
  refine ⟨ordered_addToMap h.ordered bound line, fun n => ?_, fun n i hi => ?_⟩
  · rw [indicesOf_addToMap h]
    split
    · refine List.pairwise_append.mpr ⟨h.ascending n, List.pairwise_singleton _ _, ?_⟩
      intro i hi k hk
      rw [List.mem_singleton.mp hk]
      exact h.below n i hi
    · exact h.ascending n
  · rw [indicesOf_addToMap h] at hi
    split at hi
    · rcases List.mem_append.mp hi with hi | hi
      · exact Nat.lt_succ_of_lt (h.below n i hi)
      · rw [List.mem_singleton.mp hi]
        exact Nat.lt_succ_self bound
    · exact Nat.lt_succ_of_lt (h.below n i hi)

lemma filled_mapFrom {m : SourceMap} {bound : Nat} (h : Filled m bound) (lines : List Line) :
    Filled (mapFrom m bound lines) (bound + lines.length) := by
  induction lines generalizing m bound with
  | nil => exact h
  | cons line rest ih =>
    have hrest := ih (filled_addToMap h line)
    rw [Nat.add_right_comm] at hrest
    exact hrest

lemma mem_indicesOf_mapFrom {m : SourceMap} {bound : Nat} (h : Filled m bound)
    (lines : List Line) (n i : Nat) :
    i ∈ (mapFrom m bound lines).indicesOf n ↔
      i ∈ m.indicesOf n ∨
        ∃ k line, lines[k]? = some line ∧ line.sourceLine = some n ∧ i = bound + k := by
  induction lines generalizing m bound with
  | nil => simp [mapFrom]
  | cons line rest ih =>
    rw [mapFrom, ih (filled_addToMap h line), indicesOf_addToMap h]
    constructor
    · rintro (hi | ⟨k, other, hk, hn, rfl⟩)
      · split at hi
        · next hline =>
          rcases List.mem_append.mp hi with hi | hi
          · exact Or.inl hi
          · exact Or.inr ⟨0, line, rfl, hline, List.mem_singleton.mp hi⟩
        · exact Or.inl hi
      · exact Or.inr ⟨k + 1, other, hk, hn, by omega⟩
    · rintro (hi | ⟨k, other, hk, hn, rfl⟩)
      · left
        split
        · exact List.mem_append_left _ hi
        · exact hi
      · cases k with
        | zero =>
          left
          have hline : line = other := by simpa using hk
          rw [hline, if_pos hn]
          exact List.mem_append_right _ (List.mem_singleton_self bound)
        | succ k => exact Or.inr ⟨k, other, hk, hn, by omega⟩

/-- Lines without the stamp zero have a map that inverts their stamps. -/
lemma invertsStamps_ofLines {lines : List Line} (h : ∀ line ∈ lines, line.sourceLine ≠ some 0) :
    InvertsStamps (Listing.ofLines lines) := by
  have hfilled : Filled (mapFrom .empty 0 lines) (0 + lines.length) :=
    filled_mapFrom filled_empty lines
  have hmem : ∀ n i, i ∈ (mapFrom .empty 0 lines).indicesOf n ↔
      ∃ h : i < lines.length, lines[i].sourceLine = some n := by
    intro n i
    rw [mem_indicesOf_mapFrom filled_empty]
    constructor
    · rintro (hi | ⟨k, line, hk, hn, rfl⟩)
      · exact absurd hi List.not_mem_nil
      · obtain ⟨hlt, rfl⟩ := List.getElem?_eq_some_iff.mp hk
        rw [Nat.zero_add]
        exact ⟨hlt, hn⟩
    · rintro ⟨hlt, hn⟩
      exact Or.inr ⟨i, lines[i], List.getElem?_eq_getElem hlt, hn, (Nat.zero_add i).symm⟩
  refine ⟨hmem, hfilled.ordered.ascending, hfilled.ordered.inhabited, fun e he => ?_, ?_⟩
  · rw [← indicesOf_of_mem hfilled.ordered he]
    exact hfilled.ascending e.1
  · rintro ⟨n, indices⟩ he rfl
    obtain ⟨i, hi⟩ := List.exists_mem_of_ne_nil _ (hfilled.ordered.inhabited _ he)
    rw [← indicesOf_of_mem hfilled.ordered he] at hi
    obtain ⟨hlt, hn⟩ := (hmem 0 i).mp hi
    exact h _ (List.getElem_mem hlt) hn

/-! ### Stamps are not zero -/

lemma correlate_ne_zero (files : SourceFiles) (index line : Nat) :
    files.correlate index line ≠ some 0 := by
  unfold SourceFiles.correlate
  split
  · exact Option.some_ne_none 0 |>.symm
  · next hline =>
    split
    · simpa using hline
    · exact Option.some_ne_none 0 |>.symm

lemma mark_ne_zero {s : Cursor} (h : s.sourceLine ≠ some 0) (marker : Marker) :
    (s.mark marker).sourceLine ≠ some 0 := by
  cases marker with
  | location file line => exact correlate_ne_zero s.files file line
  | lineStab line =>
    by_cases hline : line = 0
    · simp [Cursor.mark, hline]
    · simp [Cursor.mark, hline]
  | otherStab => exact h

lemma enter_ne_zero {s : Cursor} (h : s.sourceLine ≠ some 0) (line : Text) :
    (enter s line).sourceLine ≠ some 0 := by
  cases hs : sectionSwitch? line with
  | some name =>
    rw [(enter_of_switch hs).1]
    exact Option.some_ne_none 0 |>.symm
  | none =>
    rw [(enter_of_stay hs).1]
    exact h

lemma leave_ne_zero {s : Cursor} (h : s.sourceLine ≠ some 0) (refs : Option References)
    (line : Text) : (s.leave refs line).sourceLine ≠ some 0 := by
  unfold Cursor.leave
  by_cases hend : isFunctionEnd line = true
  · simp [hend]
  · simpa [hend] using h

lemma step_ne_zero (filter : Filter) (refs : Option References) {s : Cursor}
    (h : s.sourceLine ≠ some 0) (line : Text) :
    (s.step filter refs line).1.sourceLine ≠ some 0 := by
  rcases step_cases filter refs s line with ⟨marker, -, hs⟩ | ⟨-, -, hs⟩ | ⟨-, -, hs⟩
  · rw [hs]
    exact mark_ne_zero h marker
  · rw [hs]
    exact enter_ne_zero h line
  · rw [hs]
    exact leave_ne_zero (enter_ne_zero h line) refs line

lemma outcomes_ne_zero (filter : Filter) (refs : Option References) {s : Cursor}
    (h : s.sourceLine ≠ some 0) (lines : List Text) {shown : Line}
    (hshown : some shown ∈ outcomes filter refs s lines) : shown.sourceLine ≠ some 0 := by
  induction lines generalizing s with
  | nil => exact absurd hshown List.not_mem_nil
  | cons line rest ih =>
    rcases List.mem_cons.mp hshown with hline | hrest
    · obtain ⟨-, -, rfl⟩ := of_step_shown hline.symm
      exact enter_ne_zero h line
    · exact ih (step_ne_zero filter refs h line) hrest

lemma ofAssembly_ne_zero (filter : Filter) (main : Option Text) (lines : List Text) :
    ∀ line ∈ (Listing.ofAssembly filter main lines).lines, line.sourceLine ≠ some 0 := by
  intro line hline
  rw [lines_ofAssembly, List.reduceOption_mem_iff] at hline
  exact outcomes_ne_zero filter _ (Option.some_ne_none 0).symm lines hline

lemma recordLine?_sourceLine {filter : Filter} {line : Text} {shown : Line}
    (h : recordLine? filter line = some shown) : shown.sourceLine = none := by
  unfold recordLine? at h
  split at h
  · rw [← Option.some.inj h]
  · split at h
    · rw [← Option.some.inj h]
    · split at h
      · exact absurd h (by simp)
      · rw [← Option.some.inj h]

lemma ofDisassembly_sourceLine (filter : Filter) (lines : List Text) :
    ∀ line ∈ (Listing.ofDisassembly filter lines).lines, line.sourceLine = none := by
  intro line hline
  obtain ⟨raw, -, hraw⟩ := List.mem_filterMap.mp hline
  exact recordLine?_sourceLine hraw

lemma mapFrom_of_unstamped {lines : List Line} (h : ∀ line ∈ lines, line.sourceLine = none)
    (m : SourceMap) (index : Nat) : mapFrom m index lines = m := by
  induction lines generalizing index with
  | nil => rfl
  | cons line rest ih =>
    have hline : addToMap m index line = m := by
      rw [addToMap, h line List.mem_cons_self]
    rw [mapFrom, hline]
    exact ih (fun l hl => h l (List.mem_cons_of_mem _ hl)) (index + 1)

lemma invertsStamps_ofText (filter : Filter) (main : Option Text) (t : Text) :
    InvertsStamps (Listing.ofText filter main t) := by
  unfold Listing.ofText
  cases filter.binary with
  | true =>
    apply invertsStamps_ofLines
    intro line hline
    rw [ofDisassembly_sourceLine filter _ line hline]
    exact (Option.some_ne_none 0).symm
  | false => exact invertsStamps_ofLines (ofAssembly_ne_zero filter main _)

lemma unstamped_ofText {filter : Filter} (h : filter.binary = true) (main : Option Text)
    (t : Text) : Unstamped (Listing.ofText filter main t) := by
  have hlisting : Listing.ofText filter main t =
      Listing.ofDisassembly filter (Text.splitLines t) := by
    simp only [Listing.ofText, h, if_true]
  have hnone := ofDisassembly_sourceLine filter (Text.splitLines t)
  have hempty : (Listing.ofDisassembly filter (Text.splitLines t)).map = .empty :=
    mapFrom_of_unstamped hnone .empty 0
  rw [hlisting]
  exact ⟨hnone, by rw [hempty]; rfl⟩

/-- The source map of every listing is exactly the inverse of the stamps of its lines, whether the
main file is given by its name or by its path. Disassembled code has no stamps and an empty map. -/
theorem listing_map_inverts_stamps (filter : Filter) (main : Option Text) (source : Path)
    (t : Text) :
    (InvertsStamps (Listing.ofText filter main t) ∧
      InvertsStamps (Listing.ofSource filter source t)) ∧
      (filter.binary = true →
        Unstamped (Listing.ofText filter main t) ∧
          Unstamped (Listing.ofSource filter source t)) := by
  refine ⟨⟨invertsStamps_ofText filter main t, invertsStamps_ofText filter _ t⟩, fun h => ?_⟩
  exact ⟨unstamped_ofText h main t, unstamped_ofText h _ t⟩

end AsmExplorer.Proofs
