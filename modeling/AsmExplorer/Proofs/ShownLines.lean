import AsmExplorer.Proofs.Correlation

/-!
# Which lines are shown

Outside debug sections the fate of a label and of code does not depend on where they stand: a label
is shown if something refers to it, and code is always shown, unless the line is a marker or a
comment that is left out. In which section a line stands is read off the text, and both passes over
the text, the one that collects references and the one with the cursor, read it off alike.
-/

namespace AsmExplorer.Proofs
open AsmExplorer.Assembly

/-! ### Debug sections -/

/-- Whether the section is a debug section on a line, if it is one before the line or not. -/
def debugOn (inDebug : Bool) (line : Text) : Bool :=
  match sectionSwitch? line with
  | some name => isDebugSection name
  | none => inDebug

/-- Whether the section behind some lines is a debug section. -/
def debugBehind (inDebug : Bool) (lines : List Text) : Bool :=
  lines.foldl debugOn inDebug

/-- The line with an index stands outside debug sections. A line that switches the section stands in
the new one. -/
def OutsideDebug (lines : List Text) (j : Nat) : Prop :=
  debugBehind false (lines.take (j + 1)) = false

instance (lines : List Text) (j : Nat) : Decidable (OutsideDebug lines j) :=
  inferInstanceAs (Decidable (_ = _))

lemma debugOn_of_stay {line : Text} (h : sectionSwitch? line = none) (inDebug : Bool) :
    debugOn inDebug line = inDebug := by
  rw [debugOn, h]

lemma debugBehind_append_singleton (inDebug : Bool) (lines : List Text) (line : Text) :
    debugBehind inDebug (lines ++ [line]) = debugOn (debugBehind inDebug lines) line := by
  rw [debugBehind, List.foldl_append]
  rfl

lemma sectionSwitch_of_marker {line : Text} {marker : Marker}
    (h : Marker.ofLine? line = some marker) : sectionSwitch? line = none := by
  obtain ⟨d, hd, hname⟩ := directive_of_marker h
  rw [sectionSwitch?, hd]
  rcases hname with hname | hname
  · simp only [Option.bind_eq_bind, Option.bind_some, hname]
    rfl
  · simp only [Option.bind_eq_bind, Option.bind_some, hname]
    rfl

lemma marker_of_no_directive {line : Text} (h : isDirective line = false) :
    Marker.ofLine? line = none := by
  refine Option.eq_none_iff_forall_ne_some.mpr fun marker hm => ?_
  obtain ⟨d, hd, -⟩ := directive_of_marker hm
  rw [isDirective, hd] at h
  exact Bool.noConfusion h

lemma enter_inDebug (s : Cursor) (line : Text) :
    (enter s line).inDebug = debugOn s.inDebug line := by
  cases h : sectionSwitch? line with
  | some name => rw [(enter_of_switch h).2, debugOn, h]
  | none => rw [(enter_of_stay h).2, debugOn_of_stay h]

lemma step_inDebug (filter : Filter) (refs : Option References) (s : Cursor) (line : Text) :
    (s.step filter refs line).1.inDebug = debugOn s.inDebug line := by
  rcases step_cases filter refs s line with ⟨marker, hm, hs⟩ | ⟨-, -, hs⟩ | ⟨-, -, hs⟩
  · rw [hs, debugOn_of_stay (sectionSwitch_of_marker hm)]
    cases marker <;> rfl
  · rw [hs]
    exact enter_inDebug s line
  · rw [hs]
    exact enter_inDebug s line

lemma after_inDebug (filter : Filter) (refs : Option References) (s : Cursor)
    (lines : List Text) :
    (after filter refs s lines).inDebug = debugBehind s.inDebug lines := by
  induction lines using List.reverseRecOn with
  | nil => rfl
  | append_singleton lines line ih =>
    rw [after_append_singleton, step_inDebug, ih, debugBehind_append_singleton]

lemma mem_outsideDebug_cons {inDebug : Bool} {head line : Text} {lines : List Text} :
    line ∈ outsideDebug inDebug (head :: lines) ↔
      (head = line ∧ sectionSwitch? line = none ∧ inDebug = false) ∨
        line ∈ outsideDebug (debugOn inDebug head) lines := by
  rw [outsideDebug]
  cases hswitch : sectionSwitch? head with
  | some name =>
    have hother : ¬(head = line ∧ sectionSwitch? line = none ∧ inDebug = false) := by
      rintro ⟨rfl, hstay, -⟩
      rw [hstay] at hswitch
      exact absurd hswitch (by simp)
    simp [debugOn, hswitch, hother]
  | none =>
    rw [debugOn_of_stay hswitch]
    cases inDebug with
    | true => simp
    | false =>
      have hstay : head = line → sectionSwitch? line = none := fun heq => heq ▸ hswitch
      simp only [Bool.false_eq_true, if_false, List.mem_cons, and_true, @eq_comm _ line head]
      tauto

/-- The collection of references sees the lines outside debug sections that switch no section. -/
lemma mem_outsideDebug_iff {inDebug : Bool} {lines : List Text} {line : Text} :
    line ∈ outsideDebug inDebug lines ↔ ∃ j, lines[j]? = some line ∧ sectionSwitch? line = none ∧
      debugBehind inDebug (lines.take (j + 1)) = false := by
  induction lines generalizing inDebug with
  | nil => simp [outsideDebug]
  | cons head lines ih =>
    have hfirst : debugBehind inDebug ((head :: lines).take (0 + 1)) = debugOn inDebug head := rfl
    rw [mem_outsideDebug_cons, ih]
    constructor
    · rintro (⟨rfl, hstay, hout⟩ | ⟨j, hline, hstay, hout⟩)
      · refine ⟨0, rfl, hstay, ?_⟩
        rw [hfirst, debugOn_of_stay hstay, hout]
      · exact ⟨j + 1, hline, hstay, hout⟩
    · rintro ⟨j, hline, hstay, hout⟩
      cases j with
      | zero =>
        obtain rfl : head = line := by simpa using hline
        rw [hfirst, debugOn_of_stay hstay] at hout
        exact Or.inl ⟨rfl, hstay, hout⟩
      | succ j => exact Or.inr ⟨j, hline, hstay, hout⟩

/-! ### The fate of a line -/

lemma getElem?_outcomes {lines : List Text} {j : Nat} {line : Text}
    (h : lines[j]? = some line) (filter : Filter) (refs : Option References) (s : Cursor) :
    (outcomes filter refs s lines)[j]? =
      some ((after filter refs s (lines.take j)).step filter refs line).2 := by
  induction lines generalizing s j with
  | nil => simp at h
  | cons head lines ih =>
    cases j with
    | zero =>
      obtain rfl : head = line := by simpa using h
      rfl
    | succ j => exact ih h _

/-- What has to hold of a line and the cursor on it for the line to be shown. -/
lemma step_isSome_iff {filter : Filter} {refs : Option References} {s : Cursor} {line : Text} :
    (s.step filter refs line).2.isSome ↔
      Marker.ofLine? line = none ∧ (enter s line).skips filter line = false ∧
        (enter s line).shows filter refs line = true := by
  rcases step_cases filter refs s line with ⟨marker, hm, hs⟩ | ⟨hm, hskip, hs⟩ | ⟨hm, hread, hs⟩
  · simp [hs, hm]
  · simp [hs, hskip]
  · rw [hs]
    split
    · next hshow => simp [hm, hread, hshow]
    · next hhidden => simp [hhidden]

lemma skips_eq_false_iff {filter : Filter} {s : Cursor} {line : Text} :
    s.skips filter line = false ↔
      (filter.directives = true → s.inDebug = false) ∧
        ¬(filter.commentOnly = true ∧ isComment line = true) := by
  unfold Cursor.skips
  cases filter.directives <;> simp

lemma showsLabel_iff (filter : Filter) (lines : List Text) (label : Text) :
    Cursor.showsLabel (referencesFor filter lines) label = true ↔
      (filter.labels = true → (References.ofLines lines).contains label = true) := by
  unfold referencesFor Cursor.showsLabel
  cases filter.labels <;> simp

/-! ### The label above a line -/

/-- The label that the nearest line with one defines, back over earlier lines, the latest first, up
to a section switch. Comments count as lines with a label only where they are read. -/
def labelAbove? (commentsRead : Bool) : List Text → Option Text
  | [] => none
  | line :: earlier =>
    if (Marker.ofLine? line).isSome ∨ (commentsRead = false ∧ isComment line = true) then
      labelAbove? commentsRead earlier
    else if (label? line).isSome ∨ (sectionSwitch? line).isSome then label? line
    else labelAbove? commentsRead earlier

lemma enter_labelShown (s : Cursor) (line : Text) :
    (enter s line).labelShown = (s.labelShown && (sectionSwitch? line).isNone) := by
  unfold enter Cursor.switchSection
  rw [recordFile_eq]
  cases sectionSwitch? line <;> simp

lemma sectionSwitch_of_comment {line : Text} (h : isComment line = true) :
    sectionSwitch? line = none := by
  cases hd : Directive.ofLine? line with
  | none => rw [sectionSwitch?, hd]; rfl
  | some d =>
    rw [isComment_of_directive hd] at h
    exact Bool.noConfusion h

/-- What the cursor knows of labels outside debug sections is whether the label above is shown. -/
def Remembers (filter : Filter) (refs : Option References) (earlier : List Text) (s : Cursor) :
    Prop :=
  s.inDebug = false →
    s.labelShown = (labelAbove? (!filter.commentOnly) earlier).any (Cursor.showsLabel refs)

lemma remembers_step {filter : Filter} {refs : Option References} {earlier : List Text} {s : Cursor}
    (h : Remembers filter refs earlier s) (line : Text) :
    Remembers filter refs (line :: earlier) (s.step filter refs line).1 := by
  intro hout
  have hstay (hswitch : sectionSwitch? line = none) : s.inDebug = false := by
    rw [← debugOn_of_stay hswitch s.inDebug, ← step_inDebug filter refs s line]
    exact hout
  rw [labelAbove?]
  rcases step_cases filter refs s line with ⟨marker, hm, hs⟩ | ⟨hm, hskip, hs⟩ | ⟨hm, hread, hs⟩
  · rw [if_pos (Or.inl (by simp [hm])), hs, ← h (hstay (sectionSwitch_of_marker hm))]
    cases marker <;> rfl
  · -- outside debug sections only comments are left out unread
    have hentered : (enter s line).inDebug = false := by
      rw [hs] at hout
      exact hout
    have hcomment : filter.commentOnly = true ∧ isComment line = true := by
      by_contra hnot
      rw [skips_eq_false_iff.mpr ⟨fun _ => hentered, hnot⟩] at hskip
      exact Bool.false_ne_true hskip
    have hswitch := sectionSwitch_of_comment hcomment.2
    rw [if_pos (Or.inr (by simp [hcomment])), hs, ← h (hstay hswitch)]
    simp [enter_labelShown, hswitch]
  · have hlooked : ¬((Marker.ofLine? line).isSome ∨
        (!filter.commentOnly) = false ∧ isComment line = true) := by
      simpa [hm] using (skips_eq_false_iff.mp hread).2
    rw [if_neg hlooked, hs]
    unfold Cursor.leave
    cases hlabel : label? line with
    | some label => simp
    | none =>
      cases hswitch : sectionSwitch? line with
      | some name => simp [enter_labelShown, hswitch]
      | none => simp [enter_labelShown, hswitch, h (hstay hswitch)]

lemma remembers_after (filter : Filter) (refs : Option References) (files : SourceFiles)
    (lines : List Text) :
    Remembers filter refs lines.reverse (after filter refs { files := files } lines) := by
  induction lines using List.reverseRecOn with
  | nil => exact fun _ => rfl
  | append_singleton lines line ih =>
    rw [after_append_singleton, List.reverse_append]
    exact remembers_step ih line

/-- The label above a line is shown. -/
def LabelledAbove (filter : Filter) (lines : List Text) (j : Nat) : Prop :=
  ∃ label, labelAbove? (!filter.commentOnly) (lines.take j).reverse = some label ∧
    (filter.labels = true → (References.ofLines lines).contains label = true)

/-- A line is of a kind that is shown: a label that something refers to, or no label at all. While
directives are left out, one is shown only if it switches the section or is data under a label that
is shown. -/
structure KindShown (filter : Filter) (lines : List Text) (j : Nat) (line : Text) : Prop where
  label : ∀ label, label? line = some label → filter.labels = true →
    (References.ofLines lines).contains label = true
  directive : label? line = none → isDirective line = true → filter.directives = true →
    (sectionSwitch? line).isSome ∨ (isDataDefinition line = true ∧ LabelledAbove filter lines j)

section

variable {filter : Filter} {main : Option Text} {lines : List Text} {j : Nat} {line label : Text}

lemma take_succ_of_line (hline : lines[j]? = some line) :
    lines.take (j + 1) = lines.take j ++ [line] := by
  rw [List.take_add_one, hline]
  rfl

lemma kindShown_of_label (hlabel : label? line = some label) :
    KindShown filter lines j line ↔
      (filter.labels = true → (References.ofLines lines).contains label = true) := by
  refine ⟨fun h => h.label label hlabel, fun h => ⟨fun other hother => ?_, by simp [hlabel]⟩⟩
  obtain rfl := Option.some.inj (hlabel.symm.trans hother)
  exact h

lemma kindShown_of_unlabelled (hlabel : label? line = none) :
    KindShown filter lines j line ↔
      (isDirective line = true → filter.directives = true → (sectionSwitch? line).isSome ∨
        (isDataDefinition line = true ∧ LabelledAbove filter lines j)) :=
  ⟨fun h => h.directive hlabel, fun h => ⟨by simp [hlabel], fun _ => h⟩⟩

lemma labelShown_iff (main : Option Text) (hout : debugBehind false (lines.take j) = false) :
    (after filter (referencesFor filter lines) { files := .start main } (lines.take j)).labelShown =
      true ↔ LabelledAbove filter lines j := by
  rw [remembers_after _ _ _ _ ((after_inDebug ..).trans hout), Option.any_eq_true]
  simp only [showsLabel_iff]
  rfl

/-- A line is shown if it is no marker, not in a debug section while directives are left out, no
comment that is left out, and of a kind that is shown. -/
lemma shown_iff (main : Option Text) (hline : lines[j]? = some line) :
    (∃ shown, (fates filter main lines)[j]? = some (some shown)) ↔
      Marker.ofLine? line = none ∧ (filter.directives = true → OutsideDebug lines j) ∧
        ¬(filter.commentOnly = true ∧ isComment line = true) ∧ KindShown filter lines j line := by
  let refs := referencesFor filter lines
  let s := after filter refs { files := .start main } (lines.take j)
  have hbehind : debugBehind false (lines.take (j + 1)) =
      debugOn (debugBehind false (lines.take j)) line := by
    rw [take_succ_of_line hline, debugBehind_append_singleton]
  have hdebug : (enter s line).inDebug = debugBehind false (lines.take (j + 1)) := by
    rw [enter_inDebug, after_inDebug, hbehind]
  have hfate : (∃ shown, (fates filter main lines)[j]? = some (some shown)) ↔
      (s.step filter refs line).2.isSome := by
    rw [fates, getElem?_outcomes hline, Option.isSome_iff_exists]
    simp only [Option.some.injEq]
    rfl
  have hkind (hout : filter.directives = true → OutsideDebug lines j) :
      (enter s line).shows filter refs line = true ↔ KindShown filter lines j line := by
    unfold Cursor.shows
    cases hlabel : label? line with
    | some label => rw [kindShown_of_label hlabel, ← showsLabel_iff]
    | none =>
      rw [kindShown_of_unlabelled hlabel]
      cases hdirective : isDirective line with
      | false => simp
      | true =>
        cases hfilter : filter.directives with
        | false => simp
        | true =>
          cases hswitch : sectionSwitch? line with
          | some name => simp
          | none =>
            -- the line stays in its section, so the cursor before it is outside debug sections
            have hbefore : debugBehind false (lines.take j) = false := by
              rw [← debugOn_of_stay hswitch (debugBehind false (lines.take j)), ← hbehind]
              exact hout hfilter
            have hshown : (enter s line).labelShown = true ↔ LabelledAbove filter lines j := by
              rw [enter_labelShown, hswitch, Option.isNone_none, Bool.and_true]
              exact labelShown_iff main hbefore
            simp [hshown, and_comm]
  rw [hfate, step_isSome_iff, skips_eq_false_iff, hdebug, and_assoc]
  exact and_congr_right fun _ => and_congr_right fun hout => and_congr_right fun _ => hkind hout

/-- A label is shown if something refers to it, or if the filter keeps all labels. -/
lemma shown_label_iff (hline : lines[j]? = some line) (hout : OutsideDebug lines j)
    (hlabel : label? line = some label) :
    (∃ shown, (fates filter main lines)[j]? = some (some shown)) ↔
      Marker.ofLine? line = none ∧ ¬(filter.commentOnly = true ∧ isComment line = true) ∧
        (filter.labels = true → (References.ofLines lines).contains label = true) := by
  simp [shown_iff main hline, hout, kindShown_of_label hlabel]

/-- Code without a label is shown, unless it counts as a comment that is left out. -/
lemma shown_code_iff (hline : lines[j]? = some line) (hout : OutsideDebug lines j)
    (hlabel : label? line = none) (hcode : isDirective line = false) :
    (∃ shown, (fates filter main lines)[j]? = some (some shown)) ↔
      ¬(filter.commentOnly = true ∧ isComment line = true) := by
  simp [shown_iff main hline, marker_of_no_directive hcode, hout, kindShown_of_unlabelled hlabel,
    hcode]

end

end AsmExplorer.Proofs
