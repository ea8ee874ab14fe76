import AsmExplorer.Proofs.RelaxedFilters

/-!
# Data under labels

While directives are left out, data is shown with the label above it. Several labels may stand for the
same data. The listing remembers only the last one of them: the data is shown if that label is, and
left out with it even where an earlier label of the group is shown.
-/

namespace AsmExplorer.Proofs
open AsmExplorer.Assembly

/-- A line counts as the definition of a label: it is neither a marker nor left out as a comment. -/
def ReadsAsLabel (filter : Filter) (line : Text) : Prop :=
  Marker.ofLine? line = none ∧ ¬(filter.commentOnly = true ∧ isComment line = true) ∧
    (label? line).isSome

instance (filter : Filter) (line : Text) : Decidable (ReadsAsLabel filter line) :=
  inferInstanceAs (Decidable (_ ∧ _ ∧ _))

/-- A line between a label and its data: neither a label nor a section switch, so that it may be data,
a comment, any other directive or code. -/
def PassedOver (filter : Filter) (line : Text) : Prop :=
  ¬ReadsAsLabel filter line ∧ sectionSwitch? line = none

instance (filter : Filter) (line : Text) : Decidable (PassedOver filter line) :=
  inferInstanceAs (Decidable (_ ∧ _))

/-- The last label above a line of its section. -/
structure LastLabel (filter : Filter) (lines : List Text) (j i : Nat) : Prop where
  below : i < j
  reads : ∃ line, lines[i]? = some line ∧ ReadsAsLabel filter line
  between : ∀ k line, i < k → k < j → lines[k]? = some line → PassedOver filter line

/-- One or more labels on consecutive lines, the nearest ones above a line. -/
structure LabelGroup (filter : Filter) (lines : List Text) (j first last : Nat) : Prop where
  ordered : first ≤ last
  below : last < j
  defines : ∀ i, first ≤ i → i ≤ last → ∃ line label, lines[i]? = some line ∧ DefinesLabel line label
  between : ∀ k line, last < k → k < j → lines[k]? = some line → PassedOver filter line

section

variable {filter : Filter} {lines : List Text} {i j : Nat} {line label : Text}

lemma labelAbove_cons (filter : Filter) (line : Text) (earlier : List Text) :
    labelAbove? (!filter.commentOnly) (line :: earlier) =
      if ReadsAsLabel filter line then label? line
      else if (sectionSwitch? line).isSome then none
      else labelAbove? (!filter.commentOnly) earlier := by
  rw [labelAbove?]
  by_cases hskipped : (Marker.ofLine? line).isSome ∨
      (!filter.commentOnly) = false ∧ isComment line = true
  · -- markers and comments switch no section
    have hstay : sectionSwitch? line = none := by
      rcases hskipped with hmarker | ⟨-, hcomment⟩
      · obtain ⟨marker, hm⟩ := Option.isSome_iff_exists.mp hmarker
        exact sectionSwitch_of_marker hm
      · exact sectionSwitch_of_comment hcomment
    have hnot : ¬ReadsAsLabel filter line := by
      rintro ⟨hmarker, hcomment, -⟩
      rcases hskipped with h | ⟨hfilter, h⟩
      · simp [hmarker] at h
      · exact hcomment ⟨by simpa using hfilter, h⟩
    rw [if_pos hskipped, if_neg hnot, hstay]
    rfl
  · have hreads : ReadsAsLabel filter line ↔ (label? line).isSome := by
      refine ⟨fun h => h.2.2, fun hlabel => ⟨?_, ?_, hlabel⟩⟩
      · by_contra hmarker
        exact hskipped (Or.inl (Option.ne_none_iff_isSome.mp hmarker))
      · rintro ⟨hfilter, hcomment⟩
        exact hskipped (Or.inr ⟨by simp [hfilter], hcomment⟩)
    rw [if_neg hskipped]
    by_cases hlabel : (label? line).isSome
    · rw [if_pos (Or.inl hlabel), if_pos (hreads.mpr hlabel)]
    · rw [if_neg (hreads.not.mpr hlabel)]
      by_cases hswitch : (sectionSwitch? line).isSome
      · rw [if_pos (Or.inr hswitch), if_pos hswitch]
        simpa using hlabel
      · rw [if_neg (by simp [hlabel, hswitch]), if_neg hswitch]

lemma lastLabel_succ (hpassed : ∀ line, lines[j]? = some line → PassedOver filter line) :
    LastLabel filter lines (j + 1) i ↔ LastLabel filter lines j i := by
  constructor
  · intro h
    have hne : i ≠ j := by
      rintro rfl
      obtain ⟨line, hline, hreads⟩ := h.reads
      exact (hpassed line hline).1 hreads
    have hbelow := h.below
    exact ⟨by omega, h.reads, fun k line hik hkj => h.between k line hik (by omega)⟩
  · intro h
    refine ⟨by have := h.below; omega, h.reads, fun k line hik hkj hline => ?_⟩
    by_cases hk : k = j
    · subst hk
      exact hpassed line hline
    · exact h.between k line hik (by omega) hline

lemma lastLabel_succ_of_reads (hline : lines[j]? = some line) (hreads : ReadsAsLabel filter line) :
    LastLabel filter lines (j + 1) i ↔ i = j := by
  constructor
  · intro h
    have hbelow := h.below
    by_contra hne
    exact (h.between j line (by omega) (by omega) hline).1 hreads
  · rintro rfl
    exact ⟨by omega, ⟨line, hline, hreads⟩, by omega⟩

/-- In front of a section switch there is no label for what is behind it. -/
lemma not_lastLabel_succ (hline : lines[j]? = some line) (hnot : ¬ReadsAsLabel filter line)
    (hswitch : sectionSwitch? line ≠ none) : ¬LastLabel filter lines (j + 1) i := by
  intro h
  have hbelow := h.below
  by_cases hij : i = j
  · subst hij
    obtain ⟨other, hother, hreads⟩ := h.reads
    obtain rfl := Option.some.inj (hline.symm.trans hother)
    exact hnot hreads
  · exact hswitch (h.between j line (by omega) (by omega) hline).2

/-- The label that the listing remembers on a line is the last one above it. -/
lemma labelAbove_iff :
    labelAbove? (!filter.commentOnly) (lines.take j).reverse = some label ↔
      ∃ i line, LastLabel filter lines j i ∧ lines[i]? = some line ∧ label? line = some label := by
  induction j with
  | zero =>
    refine iff_of_false (by simp [labelAbove?]) ?_
    rintro ⟨i, _, h, -⟩
    exact absurd h.below (by omega)
  | succ j ih =>
    cases hline : lines[j]? with
    | none =>
      have htake : lines.take (j + 1) = lines.take j := by
        rw [List.take_add_one, hline]
        simp
      have hpassed : ∀ line, lines[j]? = some line → PassedOver filter line := by simp [hline]
      rw [htake, ih]
      simp only [lastLabel_succ hpassed]
    | some line =>
      rw [take_succ_of_line hline, List.reverse_append, List.reverse_singleton,
        List.singleton_append, labelAbove_cons]
      by_cases hreads : ReadsAsLabel filter line
      · rw [if_pos hreads]
        simp [lastLabel_succ_of_reads hline hreads, hline]
      · rw [if_neg hreads]
        cases hswitch : sectionSwitch? line with
        | none =>
          have hpassed : ∀ other, lines[j]? = some other → PassedOver filter other := by
            intro other hother
            obtain rfl := Option.some.inj (hline.symm.trans hother)
            exact ⟨hreads, hswitch⟩
          simp only [Option.isSome_none, Bool.false_eq_true, if_false, lastLabel_succ hpassed]
          exact ih
        | some name =>
          refine iff_of_false (by simp) ?_
          rintro ⟨i, other, h, -⟩
          exact not_lastLabel_succ hline hreads (by simp [hswitch]) h

lemma lastLabel_unique {k : Nat} (hi : LastLabel filter lines j i) (hk : LastLabel filter lines j k) :
    i = k := by
  have hlater {i k : Nat} (hi : LastLabel filter lines j i) (hk : LastLabel filter lines j k) :
      ¬i < k := by
    intro hlt
    obtain ⟨line, hline, hreads⟩ := hk.reads
    exact (hi.between k line hlt hk.below hline).1 hreads
  have := hlater hi hk
  have := hlater hk hi
  omega

lemma lastLabel_of_group {first last : Nat} (h : LabelGroup filter lines j first last) :
    LastLabel filter lines j last := by
  obtain ⟨line, label, hline, hmarker, hcomment, hlabel⟩ := h.defines last h.ordered (Nat.le_refl _)
  refine ⟨h.below, ⟨line, hline, hmarker, ?_, by simp [hlabel]⟩, h.between⟩
  simp [hcomment]

/-- Without a section switch in between, two lines are in the same section. -/
lemma outside_of_between (hout : OutsideDebug lines j) (hle : i ≤ j)
    (hstay : ∀ k line, i < k → k ≤ j → lines[k]? = some line → sectionSwitch? line = none) :
    OutsideDebug lines i := by
  induction j with
  | zero =>
    obtain rfl : i = 0 := by omega
    exact hout
  | succ j ih =>
    by_cases hij : i = j + 1
    · subst hij
      exact hout
    · have hbefore : OutsideDebug lines j := by
        unfold OutsideDebug at hout ⊢
        cases hline : lines[j + 1]? with
        | none =>
          rw [List.take_add_one, hline] at hout
          simpa using hout
        | some line =>
          have hswitch := hstay (j + 1) line (by omega) (Nat.le_refl _) hline
          rw [take_succ_of_line hline, debugBehind_append_singleton, debugOn_of_stay hswitch] at hout
          exact hout
      exact ih hbefore (by omega) fun k line hik hkj => hstay k line hik (by omega)

lemma outside_of_lastLabel (h : LastLabel filter lines j i) (hout : OutsideDebug lines j)
    (hstay : ∀ line, lines[j]? = some line → sectionSwitch? line = none) : OutsideDebug lines i := by
  apply outside_of_between hout h.below.le
  intro k line hik hkj hline
  by_cases hk : k = j
  · subst hk
    exact hstay line hline
  · exact (h.between k line hik (by omega) hline).2

lemma shown_lastLabel_iff (main : Option Text) (h : LastLabel filter lines j i)
    (hout : OutsideDebug lines i) (hline : lines[i]? = some line) (hlabel : label? line = some label) :
    (∃ shown, (fates filter main lines)[i]? = some (some shown)) ↔
      (filter.labels = true → (References.ofLines lines).contains label = true) := by
  obtain ⟨other, hother, hmarker, hcomment, -⟩ := h.reads
  obtain rfl := Option.some.inj (hline.symm.trans hother)
  rw [shown_label_iff hline hout hlabel]
  simp [hmarker, hcomment]

end

/-- While directives are left out, data outside debug sections is shown exactly if the last label above
it is shown; a line that defines a label itself is no data. So of a group of labels the last one decides
for the data below the group. -/
theorem data_shown_iff_last_label_shown (filter : Filter) (hbinary : filter.binary = false)
    (hdirectives : filter.directives = true) (main : Option Text) (t : Text) (j : Nat) (line : Text)
    (hline : (Text.splitLines t)[j]? = some line) (hout : OutsideDebug (Text.splitLines t) j)
    (hlabel : label? line = none) (hdata : isDataDefinition line = true) :
    (Listing.ofText filter main t).lines = (fates filter main (Text.splitLines t)).reduceOption ∧
      ((∃ shown, (fates filter main (Text.splitLines t))[j]? = some (some shown)) ↔
        ∃ i, LastLabel filter (Text.splitLines t) j i ∧
          ∃ shown, (fates filter main (Text.splitLines t))[i]? = some (some shown)) ∧
      ∀ first last, LabelGroup filter (Text.splitLines t) j first last →
        ((∃ shown, (fates filter main (Text.splitLines t))[j]? = some (some shown)) ↔
          ∃ shown, (fates filter main (Text.splitLines t))[last]? = some (some shown)) := by
  have hlast : (∃ shown, (fates filter main (Text.splitLines t))[j]? = some (some shown)) ↔
      ∃ i, LastLabel filter (Text.splitLines t) j i ∧
        ∃ shown, (fates filter main (Text.splitLines t))[i]? = some (some shown) := by
    have hstay : ∀ other, (Text.splitLines t)[j]? = some other → sectionSwitch? other = none := by
      intro other hother
      obtain rfl := Option.some.inj (hline.symm.trans hother)
      obtain ⟨d, hd, hname⟩ := directive_of_data hdata
      exact sectionSwitch_of_name hd (List.mem_append_left _ hname)
    rw [shown_data_iff main hline hout hdirectives hlabel hdata]
    constructor
    · rintro ⟨label, hfound, hused⟩
      obtain ⟨i, above, hi, habove, hlabelled⟩ := labelAbove_iff.mp hfound
      have houtside := outside_of_lastLabel hi hout hstay
      exact ⟨i, hi, (shown_lastLabel_iff main hi houtside habove hlabelled).mpr hused⟩
    · rintro ⟨i, hi, hshown⟩
      obtain ⟨above, habove, -, -, hlabelled⟩ := hi.reads
      obtain ⟨label, hlabelled⟩ := Option.isSome_iff_exists.mp hlabelled
      have houtside := outside_of_lastLabel hi hout hstay
      exact ⟨label, labelAbove_iff.mpr ⟨i, above, hi, habove, hlabelled⟩,
        (shown_lastLabel_iff main hi houtside habove hlabelled).mp hshown⟩
  refine ⟨lines_ofText main t hbinary, hlast, fun first last hgroup => ?_⟩
  have hgrouped := lastLabel_of_group hgroup
  rw [hlast]
  constructor
  · rintro ⟨i, hi, hshown⟩
    obtain rfl := lastLabel_unique hi hgrouped
    exact hshown
  · intro hshown
    exact ⟨last, hgrouped, hshown⟩

/-- A constant with two names, the second of which is declared. -/
theorem data_shown_below_declared_label :
    let t := "old:\nanswer:\n# forty-two\n\t.align\t4\n\t.long\t42\n\t.globl\tanswer\n".toList
    LabelGroup {} (Text.splitLines t) 4 0 1 ∧ isDataDefinition "\t.long\t42".toList = true ∧
      (fates {} none (Text.splitLines t))[0]? = some none ∧
      ∃ shown, (fates {} none (Text.splitLines t))[4]? = some (some shown) := by
  intro t
  have hlines : Text.splitLines t = ["old:".toList, "answer:".toList, "# forty-two".toList,
      "\t.align\t4".toList, "\t.long\t42".toList, "\t.globl\tanswer".toList] := by decide +kernel
  have hgroup : LabelGroup {} (Text.splitLines t) 4 0 1 := by
    refine ⟨by decide, by decide, fun i _ hi => ?_, fun k line hlow hhigh hline => ?_⟩
    · obtain rfl | rfl : i = 0 ∨ i = 1 := by omega
      · exact ⟨"old:".toList, "old".toList, by decide +kernel, by decide +kernel⟩
      · exact ⟨"answer:".toList, "answer".toList, by decide +kernel, by decide +kernel⟩
    · rw [hlines] at hline
      obtain rfl | rfl : k = 2 ∨ k = 3 := by omega
      · obtain rfl := Option.some.inj hline
        decide +kernel
      · obtain rfl := Option.some.inj hline
        decide +kernel
  have hshown : ∃ shown, (fates {} none (Text.splitLines t))[1]? = some (some shown) :=
    ⟨{ text := "answer:".toList }, by decide +kernel⟩
  obtain ⟨-, -, hgrouped⟩ := data_shown_iff_last_label_shown {} rfl rfl none t 4
    "\t.long\t42".toList (by decide +kernel) (by decide +kernel) (by decide +kernel)
    (by decide +kernel)
  exact ⟨hgroup, by decide +kernel, by decide +kernel, (hgrouped 0 1 hgroup).mpr hshown⟩

/-- A constant with two names, the first of which is declared. -/
def renamedText : Text :=
  "answer:\nold:\n\t.long\t42\n\t.globl\tanswer\n".toList

/-- The label that is declared is shown, and the constant below the other one is not. -/
theorem data_lost_below_unused_label :
    (Text.splitLines renamedText)[0]? = some "answer:".toList ∧
      DefinesLabel "answer:".toList "answer".toList ∧
      (fates {} none (Text.splitLines renamedText))[0]? = some (some { text := "answer:".toList }) ∧
      (Text.splitLines renamedText)[1]? = some "old:".toList ∧
      DefinesLabel "old:".toList "old".toList ∧
      (Text.splitLines renamedText)[2]? = some "\t.long\t42".toList ∧
      OutsideDebug (Text.splitLines renamedText) 2 ∧
      isDataDefinition "\t.long\t42".toList = true ∧
      (fates {} none (Text.splitLines renamedText))[2]? = some none := by
  decide +kernel

end AsmExplorer.Proofs
