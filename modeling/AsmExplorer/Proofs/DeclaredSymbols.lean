import AsmExplorer.Proofs.KeptLines
import AsmExplorer.Proofs.LabelReferences

/-!
# Declared symbols

A declaration makes known a list of symbols, with commas between them. The listing takes the symbol at
its front for declared, and looks up in the rest of the line only labels that are no plain names. So a
plain name further back in the list is declared in vain: its label is shown only if some other line
refers to it.
-/

namespace AsmExplorer.Proofs
open AsmExplorer.Assembly

/-- The directives that make symbols known beyond their file. -/
def exportNames : List Text :=
  ["globl", "global", "weak"].map String.toList

/-- Whether a character ends no name at the front of a list: it is neither a blank nor a comma. -/
def isNameChar (c : Char) : Bool :=
  !isBlank c && c != ','

/-- A text can be written in a list. It may hold blanks and commas, as the names of functions with
parameters do, but not begin with one. -/
def IsEntry (name : Text) : Prop :=
  ∃ c rest, name = c :: rest ∧ isNameChar c = true

/-- The operands that list some names with commas between them. What follows the last name behind a
blank, such as a comment, does not count. -/
inductive Lists : List Text → Text → Prop
  | last {name tail : Text} (hname : IsEntry name) (htail : ∀ c ∈ tail.head?, isBlank c = true) :
    Lists [name] (name ++ tail)
  | more {name before after operands : Text} {names : List Text} (hname : IsEntry name)
    (hbefore : ∀ c ∈ before, isBlank c = true) (hafter : ∀ c ∈ after, isBlank c = true)
    (hrest : Lists names operands) :
    Lists (name :: names) (name ++ (before ++ ',' :: after ++ operands))

/-- A line declares the names in a list. -/
def Declares (line : Text) (names : List Text) : Prop :=
  ∃ indent word gap operands, (∀ c ∈ indent, isBlank c = true) ∧ word ∈ exportNames ∧
    (Part.many isBlank).Spells gap ∧ Lists names operands ∧
    line = indent ++ '.' :: (word ++ (gap ++ operands))

/-- A symbol is what stands at the front of a list, up to a blank or a comma. -/
def LeadsList (symbol : Text) (names : List Text) : Prop :=
  ∃ first ∈ names.head?, first.takeWhile isNameChar = symbol

section

variable {line operands symbol : Text} {names : List Text}

lemma infix_of_lists (h : Lists names operands) : ∀ name ∈ names, name <:+: operands := by
  induction h with
  | @last name tail _ _ =>
    intro other hother
    rw [List.mem_singleton.mp hother]
    exact (List.prefix_append name tail).isInfix
  | @more name before after operands names _ _ _ _ ih =>
    intro other hother
    rcases List.mem_cons.mp hother with rfl | hother
    · exact (List.prefix_append other _).isInfix
    · obtain ⟨front, behind, rfl⟩ := ih other hother
      exact ⟨name ++ (before ++ ',' :: after ++ front), behind, by simp⟩

/-- A list starts with its first name, and what follows that name is no part of it. -/
lemma first_of_lists (h : Lists names operands) :
    ∃ first behind, names.head? = some first ∧ operands = first ++ behind ∧ IsEntry first ∧
      ∀ c ∈ behind.head?, isNameChar c = false := by
  cases h with
  | @last name tail hname htail =>
    refine ⟨name, tail, rfl, rfl, hname, fun c hc => ?_⟩
    simp [isNameChar, htail c hc]
  | @more name before after operands names hname hbefore _ _ =>
    refine ⟨name, before ++ ',' :: after ++ operands, rfl, rfl, hname, fun c hc => ?_⟩
    cases before with
    | nil =>
      obtain rfl : ',' = c := by simpa using hc
      rfl
    | cons d before =>
      obtain rfl : d = c := by simpa using hc
      simp [isNameChar, hbefore d List.mem_cons_self]

lemma directive_of_declares (h : Declares line names) :
    ∃ d gap operands, Directive.ofLine? line = some d ∧ d.name ∈ exportNames ∧
      d.operands = gap ++ operands ∧ (Part.many isBlank).Spells gap ∧ Lists names operands := by
  obtain ⟨indent, word, gap, operands, hindent, hword, hgap, hlists, rfl⟩ := h
  have hletters : ∀ name ∈ exportNames, name.all isWord = true := by decide
  have hblanks : Scan.blanks (indent ++ '.' :: (word ++ (gap ++ operands))) =
      '.' :: (word ++ (gap ++ operands)) := by
    rw [Scan.blanks, List.dropWhile_append_of_pos hindent]
    rfl
  obtain ⟨c, gap, rfl⟩ := List.exists_cons_of_ne_nil hgap.1
  have hborder : ∀ d ∈ (c :: gap ++ operands).head?, isWord d = false := by
    intro d hd
    obtain rfl : c = d := by simpa using hd
    exact isWord_eq_false_of_isBlank (hgap.2 c List.mem_cons_self)
  exact ⟨_, _, _, directive_of_blanks hblanks (List.all_eq_true.mp (hletters word hword)) hborder, hword, rfl, hgap, hlists⟩

/-- What a list declares is what stands at its front. -/
lemma declared_of_declares (h : Declares line names) :
    ∃ first ∈ names.head?, declaredSymbol? line = some (first.takeWhile isNameChar) := by
  obtain ⟨d, gap, operands, hd, hname, hoperands, hgap, hlists⟩ := directive_of_declares h
  obtain ⟨first, behind, hfirst, rfl, ⟨c, rest, rfl, hc⟩, hbehind⟩ := first_of_lists hlists
  have hdeclares : declarationNames.contains d.name = true := by
    have hsubset : ∀ name ∈ exportNames, declarationNames.contains name = true := by decide
    exact hsubset d.name hname
  have hblank : isBlank c = false := by
    unfold isNameChar at hc
    simpa using (Bool.and_eq_true_iff.mp hc).1
  have hoperand : Scan.blanks1? d.operands = some (c :: rest ++ behind) := by
    rw [hoperands]
    apply blanks1?_append hgap
    simpa using hblank
  have htake : (c :: rest ++ behind).takeWhile isNameChar = (c :: rest).takeWhile isNameChar :=
    takeWhile_append_border hbehind _
  have hne : (c :: rest ++ behind).takeWhile isNameChar ≠ [] := by
    rw [htake, List.takeWhile_cons_of_pos hc]
    exact List.cons_ne_nil c _
  have hclass : (fun c => !isBlank c && c != ',') = isNameChar := rfl
  refine ⟨c :: rest, hfirst, ?_⟩
  rw [← htake]
  simp only [declaredSymbol?, hd, Option.bind_eq_bind, Option.bind_some, hdeclares, if_true,
    hoperand, hclass, run1?_eq_some_iff.mpr ⟨hne, rfl, rfl⟩]
  rfl

/-- A declaration refers to the symbol at its front and to every listed label that is no plain
name, and to nothing else that it lists. -/
lemma refers_iff_of_declares (h : Declares line names) (hsymbol : symbol ∈ names) :
    Refers line symbol ↔ isPlainName symbol = false ∨ LeadsList symbol names := by
  obtain ⟨first, hfirst, hdeclared⟩ := declared_of_declares h
  constructor
  · rintro (⟨⟨-, -, hdata⟩, -⟩ | ⟨name, hname, hrefers⟩)
    · obtain ⟨d, _, _, hd, -⟩ := directive_of_declares h
      have hdefines := hdata (by rw [isDirective, hd]; rfl)
      rw [declaredSymbol_of_data hdefines] at hdeclared
      cases hdeclared
    · obtain rfl := Option.some.inj (hdeclared.symm.trans hname)
      rcases hrefers with rfl | ⟨hplain, -⟩
      · exact Or.inr ⟨first, hfirst, rfl⟩
      · exact Or.inl hplain
  · intro hread
    refine Or.inr ⟨_, hdeclared, ?_⟩
    rcases hread with hplain | ⟨other, hother, rfl⟩
    · right
      refine ⟨hplain, ?_⟩
      obtain ⟨indent, word, gap, operands, -, -, -, hlists, rfl⟩ := h
      have hinfix := infix_of_lists hlists symbol hsymbol
      exact hinfix.trans ⟨indent ++ '.' :: (word ++ gap), [], by simp⟩
    · left
      obtain rfl := Option.some.inj ((Option.mem_def.mp hfirst).symm.trans hother)
      rfl

end

/-- Outside debug sections the label of a symbol that a declaration lists is shown if it is no plain
name or stands at the front of the list. Any other listed symbol counts for nothing: its label is
shown only if a line other than the declaration refers to it. -/
theorem listed_label_shown_iff (filter : Filter) (hbinary : filter.binary = false)
    (hlabels : filter.labels = true) (main : Option Text) (t : Text)
    (j : Nat) (line : Text) (names : List Text) (hline : (Text.splitLines t)[j]? = some line)
    (hout : OutsideDebug (Text.splitLines t) j) (hdeclares : Declares line names)
    (symbol : Text) (hsymbol : symbol ∈ names)
    (k : Nat) (definition : Text) (hdefinition : (Text.splitLines t)[k]? = some definition)
    (hshown : OutsideDebug (Text.splitLines t) k) (hdefines : DefinesLabel definition symbol) :
    (Listing.ofText filter main t).lines = (fates filter main (Text.splitLines t)).reduceOption ∧
      ((∃ shown, (fates filter main (Text.splitLines t))[k]? = some (some shown)) ↔
        isPlainName symbol = false ∨ LeadsList symbol names ∨
          ∃ i other, i ≠ j ∧ (Text.splitLines t)[i]? = some other ∧
            OutsideDebug (Text.splitLines t) i ∧ Refers other symbol) := by
  obtain ⟨hmarker, hcomment, hlabel⟩ := hdefines
  refine ⟨lines_ofText main t hbinary, ?_⟩
  rw [shown_label_iff hdefinition hshown hlabel, contains_iff_refers hlabel]
  simp only [hmarker, hcomment, hlabels, true_and, forall_const]
  have hdeclaration := refers_iff_of_declares hdeclares hsymbol
  constructor
  · rintro ⟨-, i, other, hother, houtside, hrefers⟩
    by_cases hij : i = j
    · subst hij
      obtain rfl := Option.some.inj (hline.symm.trans hother)
      exact (hdeclaration.mp hrefers).imp_right Or.inl
    · exact Or.inr (Or.inr ⟨i, other, hij, hother, houtside, hrefers⟩)
  · intro hread
    refine ⟨by simp, ?_⟩
    rw [← or_assoc, ← hdeclaration] at hread
    rcases hread with hrefers | ⟨i, other, -, hother, houtside, hrefers⟩
    · exact ⟨j, line, hline, hout, hrefers⟩
    · exact ⟨i, other, hother, houtside, hrefers⟩

lemma blank_space : ∀ c ∈ [' '], isBlank c = true := by
  simpa using (by decide : isBlank ' ' = true)

lemma spells_tab : (Part.many isBlank).Spells ['\t'] :=
  ⟨by simp, by simpa using (by decide : isBlank '\t' = true)⟩

/-- A function with a parameter, declared behind another one. -/
theorem listed_label_shown_for_parameters :
    let t := "\t.weak\tmain , f(int) # both\nf(int):\n\tret\n".toList
    Declares "\t.weak\tmain , f(int) # both".toList ["main".toList, "f(int)".toList] ∧
      DefinesLabel "f(int):".toList "f(int)".toList ∧
      ∃ shown, (fates {} none (Text.splitLines t))[1]? = some (some shown) := by
  intro t
  have hname : IsEntry "main".toList := ⟨'m', "ain".toList, rfl, by decide⟩
  have hparameters : IsEntry "f(int)".toList := ⟨'f', "(int)".toList, rfl, by decide⟩
  have hlast : Lists ["f(int)".toList] ("f(int)".toList ++ ' ' :: "# both".toList) :=
    .last hparameters (by simpa using blank_space)
  have hlists : Lists ["main".toList, "f(int)".toList]
      ("main".toList ++ ([' '] ++ ',' :: [' '] ++ ("f(int)".toList ++ ' ' :: "# both".toList))) :=
    .more hname blank_space blank_space hlast
  have hdeclares : Declares "\t.weak\tmain , f(int) # both".toList
      ["main".toList, "f(int)".toList] :=
    ⟨['\t'], "weak".toList, ['\t'], _, spells_tab.2, by decide, spells_tab, hlists, rfl⟩
  have hdefines : DefinesLabel "f(int):".toList "f(int)".toList := by decide +kernel
  obtain ⟨-, hshown⟩ := listed_label_shown_iff {} rfl rfl none t 0 _ _ (by decide +kernel)
    (by decide +kernel) hdeclares "f(int)".toList (by simp) 1 _ (by decide +kernel)
    (by decide +kernel) hdefines
  exact ⟨hdeclares, hdefines, hshown.mpr (Or.inl (by decide))⟩

/-- Two functions declared together. -/
def pairText : Text :=
  "\t.globl\tfirst, second\nfirst:\n\tret\nsecond:\n\tret\n".toList

/-- The label of the first one is shown, and that of the second one is not. -/
theorem second_listed_label_lost :
    Declares "\t.globl\tfirst, second".toList ["first".toList, "second".toList] ∧
      (Text.splitLines pairText)[0]? = some "\t.globl\tfirst, second".toList ∧
      OutsideDebug (Text.splitLines pairText) 0 ∧
      (Text.splitLines pairText)[1]? = some "first:".toList ∧
      (fates {} none (Text.splitLines pairText))[1]? = some (some { text := "first:".toList }) ∧
      (Text.splitLines pairText)[3]? = some "second:".toList ∧
      OutsideDebug (Text.splitLines pairText) 3 ∧
      DefinesLabel "second:".toList "second".toList ∧
      (fates {} none (Text.splitLines pairText))[3]? = some none := by
  have hfirst : IsEntry "first".toList := ⟨'f', "irst".toList, rfl, by decide⟩
  have hsecond : IsEntry "second".toList := ⟨'s', "econd".toList, rfl, by decide⟩
  have hlast : Lists ["second".toList] ("second".toList ++ []) := .last hsecond (by simp)
  have hlists : Lists ["first".toList, "second".toList]
      ("first".toList ++ ([] ++ ',' :: [' '] ++ ("second".toList ++ []))) :=
    .more hfirst (by simp) blank_space hlast
  refine ⟨⟨['\t'], "globl".toList, ['\t'], _, spells_tab.2, by decide, spells_tab, hlists, rfl⟩, ?_⟩
  decide +kernel

end AsmExplorer.Proofs
