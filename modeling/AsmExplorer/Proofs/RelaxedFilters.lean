import AsmExplorer.Proofs.LabelReferences

/-!
# Relaxed filters

A filter that no longer leaves out directives, or no longer leaves out labels, shows every line that
it showed before. With comments this fails. A comment between slashes at the first column that ends
in a colon reads as a label: once comments are read it hides the label above it, and where nothing
refers to it the data below is no longer shown.
-/

namespace AsmExplorer.Proofs
open AsmExplorer.Assembly

/-- What becomes of a line in the first list, if it is shown, becomes of it in the second. -/
def Keeps (before after : List (Option Line)) : Prop :=
  ∀ (j : Nat) (shown : Line), before[j]? = some (some shown) → after[j]? = some (some shown)

/-- A line of a text that is shown under the first filter is shown under the second one, as the same:
the lines of the one listing are some of the lines of the other. -/
def KeptBy (f g : Filter) (main : Option Text) (t : Text) : Prop :=
  Keeps (fates f main (Text.splitLines t)) (fates g main (Text.splitLines t)) ∧
    (Listing.ofText f main t).lines.Sublist (Listing.ofText g main t).lines

/-- Where comments are read, a comment that nothing refers to is the label above a data definition.
Where they are not, it is a label that something refers to. -/
def CutOff (lines : List Text) (j : Nat) : Prop :=
  OutsideDebug lines j ∧
    (∃ line, lines[j]? = some line ∧ label? line = none ∧ isDataDefinition line = true) ∧
    (∃ label, labelAbove? false (lines.take j).reverse = some label ∧
      (References.ofLines lines).contains label = true) ∧
    ∃ comment, labelAbove? true (lines.take j).reverse = some comment ∧
      (References.ofLines lines).contains comment = false

lemma sublist_of_keeps {xs ys : List (Option Line)} (hlength : xs.length = ys.length)
    (h : Keeps xs ys) : xs.reduceOption.Sublist ys.reduceOption := by
  induction xs generalizing ys with
  | nil => exact List.nil_sublist _
  | cons x xs ih =>
    cases ys with
    | nil => simp at hlength
    | cons y ys =>
      have hrest : xs.reduceOption.Sublist ys.reduceOption :=
        ih (by simpa using hlength) fun j shown hj => h (j + 1) shown hj
      cases x with
      | none =>
        rw [List.reduceOption_cons_of_none]
        cases y with
        | none => exact hrest
        | some b => exact hrest.cons b
      | some a =>
        obtain rfl : y = some a := by simpa using h 0 a rfl
        exact hrest.cons_cons a

lemma length_fates (filter : Filter) (main : Option Text) (lines : List Text) :
    (fates filter main lines).length = lines.length := by
  have h : ∀ refs s, (outcomes filter refs s lines).length = lines.length := by
    induction lines with
    | nil => intro _ _; rfl
    | cons line rest ih => intro refs s; simp [outcomes, ih]
  exact h _ _

section

variable {f g : Filter} {main : Option Text} {lines : List Text} {j : Nat} {line label : Text}

/-- Shown lines are shown alike, so it is enough that no line is lost. -/
lemma keeps_of_shown (h : ∀ (j : Nat) (line : Text), lines[j]? = some line →
    (∃ shown, (fates f main lines)[j]? = some (some shown)) →
    ∃ shown, (fates g main lines)[j]? = some (some shown)) :
    Keeps (fates f main lines) (fates g main lines) := by
  intro j shown hshown
  obtain ⟨line, hline, rfl⟩ := shown_of_fate hshown
  obtain ⟨other, hother⟩ := h j line hline ⟨_, hshown⟩
  obtain ⟨line', hline', rfl⟩ := shown_of_fate hother
  obtain rfl := Option.some.inj (hline.symm.trans hline')
  exact hother

lemma keptBy_of_keeps (hf : f.binary = false) (hg : g.binary = false) {t : Text}
    (h : Keeps (fates f main (Text.splitLines t)) (fates g main (Text.splitLines t))) :
    KeptBy f g main t := by
  refine ⟨h, ?_⟩
  rw [lines_ofText main t hf, lines_ofText main t hg]
  exact sublist_of_keeps ((length_fates ..).trans (length_fates ..).symm) h

/-! ### Directives and labels -/

/-- A filter leaves out no directives and no labels that another one keeps, and the same comments. -/
structure Relaxes (f g : Filter) : Prop where
  directives : g.directives = true → f.directives = true
  commentOnly : g.commentOnly = f.commentOnly
  labels : g.labels = true → f.labels = true

lemma kindShown_of_relaxes (h : Relaxes f g) (hkind : KindShown f lines j line) :
    KindShown g lines j line := by
  refine ⟨fun label hlabel hlabels => hkind.label label hlabel (h.labels hlabels), ?_⟩
  intro hlabel hdirective hdirectives
  rcases hkind.directive hlabel hdirective (h.directives hdirectives) with hswitch | ⟨hdata, habove⟩
  · exact Or.inl hswitch
  · obtain ⟨label, hfound, hshown⟩ := habove
    refine Or.inr ⟨hdata, label, ?_, fun hlabels => hshown (h.labels hlabels)⟩
    rw [h.commentOnly]
    exact hfound

lemma keeps_of_relaxes (main : Option Text) (lines : List Text) (h : Relaxes f g) :
    Keeps (fates f main lines) (fates g main lines) := by
  refine keeps_of_shown fun j line hline hshown => ?_
  rw [shown_iff main hline] at hshown ⊢
  obtain ⟨hmarker, hout, hcomment, hkind⟩ := hshown
  refine ⟨hmarker, fun hdirectives => hout (h.directives hdirectives), ?_,
    kindShown_of_relaxes h hkind⟩
  rw [h.commentOnly]
  exact hcomment

/-! ### Comments -/

/-- A comment that reads as a label starts with a slash in the first column. -/
lemma head_of_labelled_comment (hcomment : isComment line = true)
    (hlabel : label? line = some label) : line.head? = some '/' := by
  have hblanks : ∃ c rest, Scan.blanks line = c :: rest ∧ (c = '/' ∨ isCommentSign c = true) := by
    rcases isComment_cases hcomment with ⟨rest, h⟩ | ⟨middle, h⟩ | ⟨c, rest, h, hsign⟩
    · exact ⟨_, _, h, Or.inl rfl⟩
    · exact ⟨_, _, h, Or.inl rfl⟩
    · exact ⟨c, rest, h, Or.inr hsign⟩
  obtain ⟨c, rest, hblanks, hc⟩ := hblanks
  have hplain : plainLabel? line = none := by
    refine Option.eq_none_iff_forall_ne_some.mpr fun name hname => ?_
    have hstart := isSymbolStart_of_plainLabel hname hblanks
    rcases hc with rfl | hsign
    · exact absurd hstart (by decide)
    · rw [isCommentSign_of_symbolStart hstart] at hsign
      exact Bool.false_ne_true hsign
  rw [label?, hplain, Option.none_or] at hlabel
  cases line with
  | nil => simp [freeLabel?] at hlabel
  | cons d rest' =>
    rw [freeLabel?] at hlabel
    split at hlabel
    · simp at hlabel
    · next hfirst =>
      rw [Bool.not_eq_true, Bool.or_eq_false_iff] at hfirst
      rw [Scan.blanks, List.dropWhile_cons_of_neg (by simp [hfirst.1])] at hblanks
      obtain ⟨rfl, -⟩ := List.cons.inj hblanks
      simpa [hfirst.2] using hc

/-- Where a label is found without reading comments, one is found with them: the same one, or a
comment below it. -/
lemma labelAbove_cases {earlier : List Text} (h : labelAbove? false earlier = some label) :
    labelAbove? true earlier = some label ∨
      ∃ line comment, line ∈ earlier ∧ isComment line = true ∧ label? line = some comment ∧
        labelAbove? true earlier = some comment := by
  induction earlier with
  | nil => simp [labelAbove?] at h
  | cons line earlier ih =>
    have hdeeper (hrest : labelAbove? false earlier = some label)
        (hsame : labelAbove? true (line :: earlier) = labelAbove? true earlier) :
        labelAbove? true (line :: earlier) = some label ∨
          ∃ other comment, other ∈ line :: earlier ∧ isComment other = true ∧
            label? other = some comment ∧ labelAbove? true (line :: earlier) = some comment := by
      rw [hsame]
      refine (ih hrest).imp_right ?_
      rintro ⟨other, comment, hmem, hother⟩
      exact ⟨other, comment, List.mem_cons_of_mem _ hmem, hother⟩
    by_cases hmarker : (Marker.ofLine? line).isSome
    · rw [labelAbove?, if_pos (Or.inl hmarker)] at h
      exact hdeeper h (by rw [labelAbove?, if_pos (Or.inl hmarker)])
    · by_cases hcomment : isComment line = true
      · rw [labelAbove?, if_pos (Or.inr ⟨rfl, hcomment⟩)] at h
        cases hlabel : label? line with
        | some comment =>
          refine Or.inr ⟨line, comment, List.mem_cons_self, hcomment, hlabel, ?_⟩
          simp [labelAbove?, hmarker, hlabel]
        | none =>
          refine hdeeper h ?_
          simp [labelAbove?, hmarker, hlabel, sectionSwitch_of_comment hcomment]
      · simp only [labelAbove?, hmarker, hcomment] at h
        by_cases hstop : (label? line).isSome ∨ (sectionSwitch? line).isSome
        · left
          simpa [labelAbove?, hmarker, hcomment, hstop] using h
        · exact hdeeper (by simpa [hstop] using h) (by simp [labelAbove?, hmarker, hstop])

/-- Data is no marker, no comment and no section switch, so only the label above it decides. -/
lemma shown_data_iff (main : Option Text) (hline : lines[j]? = some line)
    (hout : OutsideDebug lines j) (hdirectives : f.directives = true) (hlabel : label? line = none)
    (hdata : isDataDefinition line = true) :
    (∃ shown, (fates f main lines)[j]? = some (some shown)) ↔ LabelledAbove f lines j := by
  obtain ⟨d, hd, hname⟩ := directive_of_data hdata
  have hmarker : Marker.ofLine? line = none := by
    refine Option.eq_none_iff_forall_ne_some.mpr fun marker hm => ?_
    have hapart : ∀ name ∈ dataNames, name ≠ "loc".toList ∧ name ≠ "stabn".toList := by decide
    obtain ⟨d', hd', hmarks⟩ := directive_of_marker hm
    obtain rfl := Option.some.inj (hd.symm.trans hd')
    exact hmarks.elim (hapart d.name hname).1 (hapart d.name hname).2
  have hswitch := sectionSwitch_of_name hd (List.mem_append_left _ hname)
  have hdirective : isDirective line = true := by rw [isDirective, hd]; rfl
  rw [shown_iff main hline, kindShown_of_unlabelled hlabel]
  simp [hmarker, hout, isComment_of_directive hd, hdirective, hdirectives, hswitch, hdata]

/-- Once comments are read, the label above data is missed where a comment stands between. -/
lemma cut_of_labelledAbove (hcomments : f.commentOnly = true) (h : LabelledAbove f lines j)
    (hnot : ¬LabelledAbove { f with commentOnly := false } lines j) :
    f.labels = true ∧
      (∃ label, labelAbove? false (lines.take j).reverse = some label ∧
        (References.ofLines lines).contains label = true) ∧
      ∃ comment, labelAbove? true (lines.take j).reverse = some comment ∧
        (References.ofLines lines).contains comment = false := by
  obtain ⟨label, hfound, hshown⟩ := h
  rw [hcomments, Bool.not_true] at hfound
  have hmissed : ∀ other, labelAbove? true (lines.take j).reverse = some other →
      f.labels = true ∧ (References.ofLines lines).contains other = false := by
    intro other hother
    by_contra hkept
    refine hnot ⟨other, hother, fun hlabels => ?_⟩
    simpa [show f.labels = true from hlabels] using hkept
  rcases labelAbove_cases hfound with hsame | ⟨_, comment, -, -, -, hcomment⟩
  · obtain ⟨hlabels, hunused⟩ := hmissed label hsame
    exact absurd (hunused.symm.trans (hshown hlabels)) Bool.false_ne_true
  · obtain ⟨hlabels, hunused⟩ := hmissed comment hcomment
    exact ⟨hlabels, ⟨label, hfound, hshown hlabels⟩, comment, hcomment, hunused⟩

/-- A line that is shown is lost by keeping comments exactly if it is cut off from its label. -/
lemma lost_iff (f : Filter) (main : Option Text) (lines : List Text) (j : Nat) :
    ((∃ shown, (fates f main lines)[j]? = some (some shown)) ∧
      ¬∃ shown, (fates { f with commentOnly := false } main lines)[j]? = some (some shown)) ↔
      f.directives = true ∧ f.commentOnly = true ∧ f.labels = true ∧ CutOff lines j := by
  constructor
  · rintro ⟨⟨shown, hshown⟩, hlost⟩
    obtain ⟨line, hline, -⟩ := shown_of_fate hshown
    obtain ⟨hmarker, hout, -, hkind⟩ := (shown_iff main hline).mp ⟨shown, hshown⟩
    have hunkind : ¬KindShown { f with commentOnly := false } lines j line := fun h =>
      hlost ((shown_iff main hline).mpr ⟨hmarker, hout, by simp, h⟩)
    cases hlabel : label? line with
    | some label =>
      rw [kindShown_of_label hlabel] at hkind hunkind
      exact absurd hkind hunkind
    | none =>
      rw [kindShown_of_unlabelled hlabel] at hkind hunkind
      push Not at hunkind
      obtain ⟨hdirective, hdirectives, hstay, hmissed⟩ := hunkind
      obtain ⟨hdata, habove⟩ := (hkind hdirective hdirectives).resolve_left (by simp [hstay])
      have hcomments : f.commentOnly = true := by
        by_contra hread
        have hsame : { f with commentOnly := false } = f := by
          rw [← Bool.not_eq_true _ |>.mp hread]
        exact hmissed hdata (hsame ▸ habove)
      obtain ⟨hlabels, hcut⟩ := cut_of_labelledAbove hcomments habove (hmissed hdata)
      exact ⟨hdirectives, hcomments, hlabels, hout hdirectives, ⟨line, hline, hlabel, hdata⟩, hcut⟩
  · rintro ⟨hdirectives, hcomments, hlabels, hout, ⟨line, hline, hlabel, hdata⟩, habove, hcut⟩
    rw [shown_data_iff main hline hout hdirectives hlabel hdata,
      shown_data_iff (f := { f with commentOnly := false }) main hline hout hdirectives hlabel hdata]
    constructor
    · obtain ⟨label, hfound, hused⟩ := habove
      exact ⟨label, by rw [hcomments]; exact hfound, fun _ => hused⟩
    · rintro ⟨other, hother, hused⟩
      obtain ⟨comment, hcomment, hunused⟩ := hcut
      obtain rfl := Option.some.inj (hcomment.symm.trans hother)
      exact Bool.false_ne_true (hunused.symm.trans (hused hlabels))

end

/-- Without directives or without labels left out, a listing keeps every line. Without comments left
out, it loses exactly the data that a comment cuts off from its label: a comment that reads as a
label, which starts with a slash in the first column. -/
theorem relaxed_filters_keep (f : Filter) (hbinary : f.binary = false) (main : Option Text)
    (t : Text) :
    KeptBy f { f with directives := false } main t ∧ KeptBy f { f with labels := false } main t ∧
      ((∀ j, ¬CutOff (Text.splitLines t) j) → KeptBy f { f with commentOnly := false } main t) ∧
      (∀ j, ((∃ shown, (fates f main (Text.splitLines t))[j]? = some (some shown)) ∧
          ¬∃ shown, (fates { f with commentOnly := false } main (Text.splitLines t))[j]? =
            some (some shown)) ↔
        f.directives = true ∧ f.commentOnly = true ∧ f.labels = true ∧
          CutOff (Text.splitLines t) j) ∧
      ∀ j, CutOff (Text.splitLines t) j → ∃ i < j, ∃ comment,
        (Text.splitLines t)[i]? = some comment ∧ isComment comment = true ∧
          (label? comment).isSome ∧ comment.head? = some '/' := by
  have hkept (g : Filter) (hg : g.binary = f.binary)
      (h : Keeps (fates f main (Text.splitLines t)) (fates g main (Text.splitLines t))) :
      KeptBy f g main t := keptBy_of_keeps hbinary (hg.trans hbinary) h
  refine ⟨hkept _ rfl (keeps_of_relaxes main _ ?_), hkept _ rfl (keeps_of_relaxes main _ ?_),
    fun hwhole => hkept _ rfl (keeps_of_shown fun j line hline hshown => ?_), lost_iff f main _, ?_⟩
  · exact ⟨fun h => absurd h Bool.false_ne_true, rfl, id⟩
  · exact ⟨id, rfl, fun h => absurd h Bool.false_ne_true⟩
  · by_contra hlost
    exact hwhole j ((lost_iff f main _ j).mp ⟨hshown, hlost⟩).2.2.2
  · rintro j ⟨-, -, ⟨label, hlabel, hused⟩, comment, hcomment, hunused⟩
    rcases labelAbove_cases hlabel with hsame | ⟨line, found, hmem, hline, hfound, -⟩
    · obtain rfl := Option.some.inj (hsame.symm.trans hcomment)
      exact absurd (hunused.symm.trans hused) Bool.false_ne_true
    · rw [List.mem_reverse, List.mem_take_iff_getElem] at hmem
      obtain ⟨i, hi, rfl⟩ := hmem
      refine ⟨i, by omega, _, List.getElem?_eq_getElem _, hline, by simp [hfound], ?_⟩
      exact head_of_labelled_comment hline hfound

/-- A function whose constant stands below a comment that ends in a colon. -/
def commentedText (comment : String) : Text :=
  "\t.globl\tmain\nmain:\n".toList ++ comment.toList ++ "\n\t.long\t1\n".toList

/-- Behind a hash, the comment reads as no label, and the constant is shown with it. -/
theorem relaxed_filters_keep_hashed_comment :
    ({} : Filter).binary = false ∧
      (fates {} none (Text.splitLines (commentedText "# note:")))[3]? =
        some (some { text := "        .long   1".toList }) ∧
      (fates { commentOnly := false } none (Text.splitLines (commentedText "# note:")))[3]? =
        some (some { text := "        .long   1".toList }) := by
  have hshown : (fates {} none (Text.splitLines (commentedText "# note:")))[3]? =
      some (some { text := "        .long   1".toList }) := by decide +kernel
  have hplain : ∀ comment ∈ Text.splitLines (commentedText "# note:"),
      comment.head? ≠ some '/' := by decide +kernel
  obtain ⟨-, -, hkept, -, hcut⟩ :=
    relaxed_filters_keep {} rfl none (commentedText "# note:")
  have hwhole : ∀ j, ¬CutOff (Text.splitLines (commentedText "# note:")) j := by
    intro j hj
    obtain ⟨i, -, comment, hcomment, -, -, hslash⟩ := hcut j hj
    exact hplain comment (List.mem_of_getElem? hcomment) hslash
  exact ⟨rfl, hshown, (hkept hwhole).1 3 _ hshown⟩

/-- Between slashes, the comment reads as a label that nothing refers to, and the constant is lost
once comments are kept. -/
theorem constant_lost_below_comment :
    (fates {} none (Text.splitLines (commentedText "// note:")))[3]? =
        some (some { text := "        .long   1".toList }) ∧
      (fates { commentOnly := false } none (Text.splitLines (commentedText "// note:")))[3]? =
        some none := by
  decide +kernel

end AsmExplorer.Proofs
