import AsmExplorer.Proofs.ShownLines

/-!
# Instructions in a listing

A line carries an instruction if one stands on it behind labels and complete comments. A line is
shown or left out as a whole, so an instruction is lost in two cases: behind a label that nothing
refers to, and between two comments, where the line starts and ends as one comment does.
-/

namespace AsmExplorer.Proofs
open AsmExplorer.Assembly

/-! ### Lines that carry an instruction -/

/-- Whether a text starts with code: neither with a directive nor with a comment. -/
def startsWithCode : Text → Bool
  | [] => false
  | '/' :: '/' :: _ => false
  | '/' :: '*' :: _ => false
  | c :: _ => c != '.' && !isCommentSign c

/-- The text before a colon is no label: there is no such colon, or a comment begins before it. -/
def labelsNothing (t : Text) : Bool :=
  (plainLabel? t).isNone && (freeLabel? t).all fun label => label.any isCommentSign

/-- Code stands on a text behind labels and complete comments. -/
inductive CarriesInstruction : Text → Prop
  | code {t : Text} (hlabel : labelsNothing t = true)
    (hcode : startsWithCode (Scan.blanks t) = true) : CarriesInstruction t
  | comment {t opened inside rest : Text} (hopen : Scan.blanks t = '/' :: '*' :: opened)
    (hclose : Text.splitAtFirst? "*/".toList opened = some (inside, rest))
    (hrest : CarriesInstruction rest) : CarriesInstruction t
  | label {t label rest : Text} (hlabel : plainLabel? t = some label)
    (hcolon : Scan.blanks t = label ++ ':' :: rest) (hrest : CarriesInstruction rest) :
    CarriesInstruction t

/-- A text that starts and ends as a comment does, be it one comment or not. -/
def IsFramedByComments (line : Text) : Prop :=
  ∃ middle, Scan.blanks line = "/*".toList ++ middle ++ "*/".toList

section

variable {line label : Text}

lemma isDirective_of_head_ne (h : (Scan.blanks line).head? ≠ some '.') :
    isDirective line = false := by
  have hnone : Directive.ofLine? line = none := by
    rw [Directive.ofLine?]
    split
    · next rest hblanks =>
      rw [hblanks] at h
      exact absurd rfl h
    · rfl
  rw [isDirective, hnone]
  rfl

lemma of_plainLabel (h : plainLabel? line = some label) :
    ∃ c rest after, Scan.blanks line = c :: rest ∧ isSymbolStart c = true ∧
      label = c :: rest.takeWhile isLabelChar ∧ rest.dropWhile isLabelChar = ':' :: after := by
  rw [plainLabel?] at h
  split at h
  · exact absurd h (by simp)
  · next c rest hblanks =>
    split at h
    · next hstart =>
      split at h
      · next hcolon => exact ⟨c, rest, [], hblanks, hstart, by simpa using h.symm, hcolon⟩
      · next d after hcolon =>
        split at h
        · exact absurd h (by simp)
        · exact ⟨c, rest, d :: after, hblanks, hstart, by simpa using h.symm, hcolon⟩
      · exact absurd h (by simp)
    · exact absurd h (by simp)

lemma isSymbolStart_of_plainLabel {c : Char} {rest : Text} (h : plainLabel? line = some label)
    (hblanks : Scan.blanks line = c :: rest) : isSymbolStart c = true := by
  obtain ⟨d, t, -, ht, hstart, -, -⟩ := of_plainLabel h
  obtain ⟨rfl, -⟩ := List.cons.inj (hblanks.symm.trans ht)
  exact hstart

lemma label_of_plainLabel (h : plainLabel? line = some label) : label? line = some label := by
  rw [label?, h]
  rfl

lemma isCommentSign_of_symbolStart {c : Char} (h : isSymbolStart c = true) :
    isCommentSign c = false := by
  refine Bool.eq_false_iff.mpr fun hsign => ?_
  simp only [isCommentSign, Bool.or_eq_true, beq_iff_eq] at hsign
  rcases hsign with (rfl | rfl) | rfl
  · exact absurd h (by decide)
  · exact absurd h (by decide)
  · exact absurd h (by decide)

lemma isComment_cases (h : isComment line = true) :
    (∃ rest, Scan.blanks line = '/' :: '/' :: rest) ∨ IsFramedByComments line ∨
      ∃ c rest, Scan.blanks line = c :: rest ∧ isCommentSign c = true := by
  rw [isComment] at h
  split at h
  · next rest hblanks => exact Or.inl ⟨rest, hblanks⟩
  · next rest hblanks =>
    obtain ⟨middle, hmiddle⟩ := List.isSuffixOf_iff_suffix.mp h
    refine Or.inr (Or.inl ⟨middle, ?_⟩)
    rw [hblanks, ← hmiddle]
    rfl
  · next c rest _ _ hblanks => exact Or.inr (Or.inr ⟨c, rest, hblanks, h⟩)
  · exact absurd h Bool.false_ne_true

lemma isComment_of_framed (h : IsFramedByComments line) : isComment line = true := by
  obtain ⟨middle, hmiddle⟩ := h
  have hblanks : Scan.blanks line = '/' :: '*' :: (middle ++ "*/".toList) := hmiddle
  rw [isComment, hblanks]
  exact List.isSuffixOf_iff_suffix.mpr ⟨middle, rfl⟩

/-- Behind the word that a label starts with, the label goes on or its colon stands. -/
lemma isBlank_of_label_tail {t after : Text} (h : t.dropWhile isLabelChar = ':' :: after) {c : Char}
    {rest : Text} (hrest : t.dropWhile isWord = c :: rest) : isBlank c = false := by
  induction t with
  | nil => exact absurd h (by simp)
  | cons d t ih =>
    by_cases hword : isWord d = true
    · have hlabel : isLabelChar d = true := by simp [isLabelChar, isSymbolChar, hword]
      rw [List.dropWhile_cons_of_pos hlabel] at h
      rw [List.dropWhile_cons_of_pos hword] at hrest
      exact ih h hrest
    · rw [List.dropWhile_cons_of_neg hword] at hrest
      obtain ⟨rfl, rfl⟩ := List.cons.inj hrest
      by_cases hlabel : isLabelChar d = true
      · simp only [isLabelChar, isSymbolChar, hword, Bool.false_or, Bool.or_eq_true,
          beq_iff_eq] at hlabel
        rcases hlabel with (rfl | rfl) | rfl
        · decide
        · decide
        · decide
      · rw [List.dropWhile_cons_of_neg hlabel] at h
        obtain ⟨rfl, -⟩ := List.cons.inj h
        decide

/-- A line that defines a plain label is no marker, even if the label spells one. -/
lemma marker_of_plainLabel (h : plainLabel? line = some label) : Marker.ofLine? line = none := by
  obtain ⟨c, t, after, hblanks, -, -, hcolon⟩ := of_plainLabel h
  by_cases hdot : c = '.'
  · subst hdot
    have hstop : Scan.blanks1? (t.dropWhile isWord) = none := by
      cases hrest : t.dropWhile isWord with
      | nil => rfl
      | cons d rest => simp [Scan.blanks1?, isBlank_of_label_tail hcolon hrest]
    have hdirective : Directive.ofLine? line = some ⟨t.takeWhile isWord, t.dropWhile isWord⟩ := by
      rw [Directive.ofLine?, hblanks]
      rfl
    simp [Marker.ofLine?, hdirective, Marker.location?, Marker.stab?, hstop]
  · refine marker_of_no_directive (isDirective_of_head_ne ?_)
    rw [hblanks]
    simpa using hdot

lemma head_of_startsWithCode {t : Text} (h : startsWithCode t = true) : t.head? ≠ some '.' := by
  cases t with
  | nil => simp
  | cons c rest =>
    simp only [List.head?_cons, ne_eq, Option.some.injEq]
    rintro rfl
    exact Bool.false_ne_true h

lemma isCommentSign_of_startsWithCode {c : Char} {rest : Text}
    (h : startsWithCode (c :: rest) = true) : isCommentSign c = false := by
  unfold startsWithCode at h
  split at h
  · next hnil => exact absurd hnil (by simp)
  · exact absurd h Bool.false_ne_true
  · exact absurd h Bool.false_ne_true
  · next hcons =>
    obtain ⟨rfl, -⟩ := List.cons.inj hcons
    simpa using (Bool.and_eq_true_iff.mp h).2

/-! ### What an instruction makes of its line -/

lemma directive_cases_of_carries (h : CarriesInstruction line) :
    isDirective line = false ∨ ∃ label, plainLabel? line = some label := by
  cases h with
  | code _ hcode => exact Or.inl (isDirective_of_head_ne (head_of_startsWithCode hcode))
  | comment hopen _ _ => exact Or.inl (isDirective_of_head_ne (by simp [hopen]))
  | label hlabel _ _ => exact Or.inr ⟨_, hlabel⟩

lemma marker_of_carries (h : CarriesInstruction line) : Marker.ofLine? line = none := by
  rcases directive_cases_of_carries h with hcode | ⟨label, hlabel⟩
  · exact marker_of_no_directive hcode
  · exact marker_of_plainLabel hlabel

lemma isDirective_of_carries (h : CarriesInstruction line) (hlabel : label? line = none) :
    isDirective line = false := by
  rcases directive_cases_of_carries h with hcode | ⟨label, hplain⟩
  · exact hcode
  · rw [label_of_plainLabel hplain] at hlabel
    exact absurd hlabel (by simp)

/-- An instruction counts as a comment only between two comments. -/
lemma framed_of_carries (h : CarriesInstruction line) (hcomment : isComment line = true) :
    IsFramedByComments line := by
  rcases isComment_cases hcomment with ⟨rest, hrest⟩ | hframed | ⟨c, rest, hrest, hsign⟩
  · cases h with
    | code _ hcode =>
      rw [hrest] at hcode
      exact absurd hcode Bool.false_ne_true
    | comment hopen _ _ => simp [hrest] at hopen
    | label hlabel _ _ =>
      exact absurd (isSymbolStart_of_plainLabel hlabel hrest) (by decide)
  · exact hframed
  · cases h with
    | code _ hcode =>
      rw [hrest] at hcode
      rw [isCommentSign_of_startsWithCode hcode] at hsign
      exact absurd hsign Bool.false_ne_true
    | comment hopen _ _ =>
      obtain ⟨rfl, -⟩ := List.cons.inj (hrest.symm.trans hopen)
      exact absurd hsign (by decide)
    | label hlabel _ _ =>
      have hstart := isSymbolStart_of_plainLabel hlabel hrest
      rw [isCommentSign_of_symbolStart hstart] at hsign
      exact absurd hsign Bool.false_ne_true

end

/-- A line outside debug sections that carries an instruction is shown, unless it is between two
comments and comments are left out, or behind a label and nothing refers to that. -/
theorem instruction_shown_iff (filter : Filter) (hbinary : filter.binary = false)
    (main : Option Text) (t : Text) (j : Nat) (line : Text)
    (hline : (Text.splitLines t)[j]? = some line) (hout : OutsideDebug (Text.splitLines t) j)
    (hcarries : CarriesInstruction line) :
    (Listing.ofText filter main t).lines = (fates filter main (Text.splitLines t)).reduceOption ∧
      ((∃ shown, (fates filter main (Text.splitLines t))[j]? = some (some shown)) ↔
        ¬(filter.commentOnly = true ∧ IsFramedByComments line) ∧
          (filter.labels = true → ∀ label, label? line = some label →
            (References.ofLines (Text.splitLines t)).contains label = true)) := by
  refine ⟨lines_ofText main t hbinary, ?_⟩
  have hcomment : isComment line = true ↔ IsFramedByComments line :=
    ⟨framed_of_carries hcarries, isComment_of_framed⟩
  cases hlabel : label? line with
  | none =>
    rw [shown_code_iff hline hout hlabel (isDirective_of_carries hcarries hlabel), hcomment]
    simp
  | some label =>
    rw [shown_label_iff hline hout hlabel, hcomment]
    simp [marker_of_carries hcarries]

/-- An instruction behind a label that is declared. -/
theorem instruction_shown_behind_declared_label :
    let t := "\t.globl\tmain\nmain:\tret\n".toList
    OutsideDebug (Text.splitLines t) 1 ∧ CarriesInstruction "main:\tret".toList ∧
      ∃ shown, (fates {} none (Text.splitLines t))[1]? = some (some shown) := by
  intro t
  have hline : (Text.splitLines t)[1]? = some "main:\tret".toList := by decide +kernel
  have hout : OutsideDebug (Text.splitLines t) 1 := by decide +kernel
  have hmain : plainLabel? "main:\tret".toList = some "main".toList := by decide +kernel
  have hreturn : CarriesInstruction "\tret".toList := .code (by decide +kernel) (by decide +kernel)
  have hcarries : CarriesInstruction "main:\tret".toList := .label hmain (by decide +kernel) hreturn
  obtain ⟨-, hshown⟩ := instruction_shown_iff {} rfl none t 1 _ hline hout hcarries
  refine ⟨hout, hcarries, hshown.mpr ⟨?_, fun _ label hlabel => ?_⟩⟩
  · rintro ⟨-, hframed⟩
    exact absurd (isComment_of_framed hframed) (by decide +kernel)
  · obtain rfl := Option.some.inj ((label_of_plainLabel hmain).symm.trans hlabel)
    decide +kernel

/-- A function that returns behind a label without references, after an instruction between two
comments. -/
def lossyText : Text :=
  "main:\n\t/* a */ movl $1, %eax /* b */\n.L2:\tret\n\t.globl\tmain\n".toList

/-- Both instructions of the function are lost. -/
theorem instructions_lost :
    (Text.splitLines lossyText)[1]? = some "\t/* a */ movl $1, %eax /* b */".toList ∧
      OutsideDebug (Text.splitLines lossyText) 1 ∧
      CarriesInstruction "\t/* a */ movl $1, %eax /* b */".toList ∧
      (fates {} none (Text.splitLines lossyText))[1]? = some none ∧
      (Text.splitLines lossyText)[2]? = some ".L2:\tret".toList ∧
      OutsideDebug (Text.splitLines lossyText) 2 ∧ CarriesInstruction ".L2:\tret".toList ∧
      (fates {} none (Text.splitLines lossyText))[2]? = some none := by
  have hcomment : Text.splitAtFirst? "*/".toList " a */ movl $1, %eax /* b */".toList =
      some (" a ".toList, " movl $1, %eax /* b */".toList) := by decide +kernel
  have hmove : CarriesInstruction " movl $1, %eax /* b */".toList :=
    .code (by decide +kernel) (by decide +kernel)
  have hlabel : plainLabel? ".L2:\tret".toList = some ".L2".toList := by decide +kernel
  have hreturn : CarriesInstruction "\tret".toList := .code (by decide +kernel) (by decide +kernel)
  exact ⟨by decide +kernel, by decide +kernel, .comment (by decide +kernel) hcomment hmove,
    by decide +kernel, by decide +kernel, by decide +kernel,
    .label hlabel (by decide +kernel) hreturn, by decide +kernel⟩

end AsmExplorer.Proofs
