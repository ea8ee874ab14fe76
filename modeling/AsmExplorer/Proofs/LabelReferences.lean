import AsmExplorer.Proofs.Instructions
import AsmExplorer.Proofs.Symbols

/-!
# References to labels

Outside debug sections a label is shown wherever it is defined, exactly if something refers to it:
code, data or a declaration outside debug sections. A plain name has to stand in code as a symbol.
Since the dollar sign begins a symbol, the operand of an immediate does not, and its label is lost.
Any other label is looked for as a piece of the line.
-/

namespace AsmExplorer.Proofs
open AsmExplorer.Assembly

/-- A line defines a label: it is neither a marker nor a comment. -/
def DefinesLabel (line label : Text) : Prop :=
  Marker.ofLine? line = none ∧ isComment line = false ∧ label? line = some label

instance (line label : Text) : Decidable (DefinesLabel line label) :=
  inferInstanceAs (Decidable (_ ∧ _ ∧ _))

/-- A line is an instruction or a data definition and defines no label. -/
def IsCodeOrData (line : Text) : Prop :=
  isComment line = false ∧ label? line = none ∧
    (isDirective line = true → isDataDefinition line = true)

instance (line : Text) : Decidable (IsCodeOrData line) :=
  inferInstanceAs (Decidable (_ ∧ _ ∧ _))

/-- A label stands in a line: a plain name as a symbol, any other label as a piece. -/
def StandsIn (label line : Text) : Prop :=
  if isPlainName label then HoldsSymbol line label else label <:+: line

/-- A line refers to a label: it is code or data in which the label stands, or a declaration of the
label. A label that is no plain name may stand anywhere in the declaration. -/
def Refers (line label : Text) : Prop :=
  (IsCodeOrData line ∧ StandsIn label line) ∨
    ∃ name, declaredSymbol? line = some name ∧
      (label = name ∨ isPlainName label = false ∧ label <:+: line)

/-! ### Lines that refer to something -/

section

variable {line label name : Text} {d : Directive}

lemma directive_of_data (h : isDataDefinition line = true) :
    ∃ d, Directive.ofLine? line = some d ∧ d.name ∈ dataNames := by
  rw [isDataDefinition] at h
  split at h
  · next d hd => exact ⟨d, hd, List.contains_iff_mem.mp h⟩
  · exact absurd h Bool.false_ne_true

lemma directive_of_declared (h : declaredSymbol? line = some name) :
    ∃ d, Directive.ofLine? line = some d ∧ d.name ∈ declarationNames := by
  rw [declaredSymbol?] at h
  cases hd : Directive.ofLine? line with
  | none =>
    rw [hd] at h
    exact absurd h (by simp)
  | some d =>
    refine ⟨d, rfl, ?_⟩
    rw [hd] at h
    simp only [Option.bind_eq_bind, Option.bind_some] at h
    split at h
    · next hname => exact List.contains_iff_mem.mp hname
    · exact absurd h (by simp)

/-- The directives that define data or declare symbols are no others. -/
lemma sectionSwitch_of_name (hd : Directive.ofLine? line = some d)
    (hname : d.name ∈ dataNames ++ declarationNames) : sectionSwitch? line = none := by
  have hapart : ∀ name ∈ dataNames ++ declarationNames,
      ["text".toList, "data".toList, "bss".toList].contains name = false ∧
        ["section".toList, "pushsection".toList].contains name = false ∧
        ["popsection".toList, "previous".toList].contains name = false := by decide
  obtain ⟨hplain, hnamed, hback⟩ := hapart d.name hname
  rw [sectionSwitch?, hd]
  simp only [Option.bind_eq_bind, Option.bind_some, hplain, hnamed, hback, Bool.false_eq_true,
    if_false]

lemma declaredSymbol_of_data (h : isDataDefinition line = true) : declaredSymbol? line = none := by
  have hapart : ∀ name ∈ dataNames, declarationNames.contains name = false := by decide
  obtain ⟨d, hd, hname⟩ := directive_of_data h
  rw [declaredSymbol?, hd]
  simp only [Option.bind_eq_bind, Option.bind_some, hapart d.name hname, Bool.false_eq_true,
    if_false]

lemma mentions_of_code (h : IsCodeOrData line) :
    mentions? line = some (symbols (Scan.blanks line)) := by
  obtain ⟨hcomment, hlabel, hdata⟩ := h
  cases hdirective : isDirective line with
  | true =>
    have hdefines := hdata hdirective
    simp [mentions?, hcomment, hlabel, declaredSymbol_of_data hdefines, hdefines]
  | false =>
    have hdeclared : declaredSymbol? line = none := by
      refine Option.eq_none_iff_forall_ne_some.mpr fun name hname => ?_
      obtain ⟨d, hd, -⟩ := directive_of_declared hname
      rw [isDirective, hd] at hdirective
      exact Bool.noConfusion hdirective
    simp [mentions?, hcomment, hlabel, hdeclared, hdirective]

lemma mentions_of_declared (h : declaredSymbol? line = some name) :
    mentions? line = some [name] := by
  obtain ⟨d, hd, -⟩ := directive_of_declared h
  simp [mentions?, isComment_of_directive hd, h]

lemma code_or_declared_of_mentions {names : List Text} (h : mentions? line = some names) :
    IsCodeOrData line ∨ ∃ name, declaredSymbol? line = some name := by
  cases hdeclared : declaredSymbol? line with
  | some name => exact Or.inr ⟨name, rfl⟩
  | none =>
    left
    rw [mentions?, hdeclared] at h
    split at h
    · exact absurd h (by simp)
    · next hcomment =>
      dsimp only at h
      split at h
      · exact absurd h (by simp)
      · next hlabel =>
        split at h
        · exact absurd h (by simp)
        · next hdata =>
          refine ⟨by simpa using hcomment, by simpa using hlabel, fun hdirective => ?_⟩
          simpa [hdirective] using hdata

lemma sectionSwitch_of_refers (h : Refers line label) : sectionSwitch? line = none := by
  rcases h with ⟨⟨-, -, hdata⟩, -⟩ | ⟨name, hname, -⟩
  · cases hd : Directive.ofLine? line with
    | none => rw [sectionSwitch?, hd]; rfl
    | some d =>
      obtain ⟨d', hd', hname⟩ := directive_of_data (hdata (by rw [isDirective, hd]; rfl))
      exact sectionSwitch_of_name hd' (List.mem_append_left _ hname)
  · obtain ⟨d, hd, hdeclares⟩ := directive_of_declared hname
    exact sectionSwitch_of_name hd (List.mem_append_right _ hdeclares)

lemma head_of_label (h : label? line = some label) :
    ∃ c rest, label = c :: rest ∧ isBlank c = false := by
  rw [label?, Option.or_eq_some_iff] at h
  rcases h with hplain | ⟨-, hfree⟩
  · obtain ⟨c, rest, -, -, hstart, hlabel, -⟩ := of_plainLabel hplain
    exact ⟨c, _, hlabel, isBlank_of_symbolStart hstart⟩
  · cases line with
    | nil => exact absurd hfree (by simp [freeLabel?])
    | cons c rest =>
      rw [freeLabel?] at hfree
      split at hfree
      · exact absurd hfree (by simp)
      · next hstart =>
        obtain ⟨label, -, rfl⟩ := Option.map_eq_some_iff.mp hfree
        rw [Bool.not_eq_true, Bool.or_eq_false_iff] at hstart
        exact ⟨c, label, rfl, hstart.1⟩

lemma standsIn_iff :
    StandsIn label line ↔ HoldsSymbol line label ∨ isPlainName label = false ∧ label <:+: line := by
  unfold StandsIn
  split
  · next hplain => simp [hplain]
  · next hpiece =>
    constructor
    · intro hinfix
      exact Or.inr ⟨by simpa using hpiece, hinfix⟩
    · rintro (hsymbol | ⟨-, hinfix⟩)
      · exact infix_of_holds hsymbol
      · exact hinfix

/-- What the collection of references takes from a line is what the line refers to. -/
lemma refers_iff {definition : Text} (hlabel : label? definition = some label) :
    Refers line label ↔ ∃ names, mentions? line = some names ∧ (label ∈ names ∨
      isPlainName label = false ∧ Text.occursIn label (Scan.blanks line) = true) := by
  obtain ⟨c, rest, rfl, hblank⟩ := head_of_label hlabel
  rw [occursIn_iff, infix_blanks_iff hblank]
  constructor
  · rintro (⟨hcode, hstands⟩ | ⟨name, hname, hdeclares⟩)
    · refine ⟨_, mentions_of_code hcode, ?_⟩
      rwa [symbols_blanks, mem_symbols_iff, ← standsIn_iff]
    · refine ⟨_, mentions_of_declared hname, ?_⟩
      rwa [List.mem_singleton]
  · rintro ⟨names, hnames, hread⟩
    rcases code_or_declared_of_mentions hnames with hcode | ⟨name, hname⟩
    · left
      obtain rfl := Option.some.inj ((mentions_of_code hcode).symm.trans hnames)
      rw [symbols_blanks, mem_symbols_iff, ← standsIn_iff] at hread
      exact ⟨hcode, hread⟩
    · right
      obtain rfl := Option.some.inj ((mentions_of_declared hname).symm.trans hnames)
      rw [List.mem_singleton] at hread
      exact ⟨name, hname, hread⟩

end

lemma contains_iff {lines : List Text} {label : Text} :
    (References.ofLines lines).contains label = true ↔
      ∃ line ∈ outsideDebug false lines, ∃ names, mentions? line = some names ∧ (label ∈ names ∨
        isPlainName label = false ∧ Text.occursIn label (Scan.blanks line) = true) := by
  let referring := (outsideDebug false lines).filter fun line => (mentions? line).isSome
  have hreferring : ∀ line, line ∈ referring ↔
      line ∈ outsideDebug false lines ∧ ∃ names, mentions? line = some names := by
    intro line
    rw [List.mem_filter, Option.isSome_iff_exists]
  rw [References.contains, Bool.or_eq_true, List.contains_iff_mem, Bool.and_eq_true,
    Bool.not_eq_true', List.any_eq_true]
  constructor
  · rintro (hsymbol | ⟨hpiece, t, ht, hoccurs⟩)
    · obtain ⟨line, hline, hmem⟩ := List.mem_flatMap.mp hsymbol
      obtain ⟨hout, names, hnames⟩ := (hreferring line).mp hline
      rw [hnames] at hmem
      exact ⟨line, hout, names, hnames, Or.inl hmem⟩
    · obtain ⟨line, hline, rfl⟩ := List.mem_map.mp ht
      obtain ⟨hout, names, hnames⟩ := (hreferring line).mp hline
      exact ⟨line, hout, names, hnames, Or.inr ⟨hpiece, hoccurs⟩⟩
  · rintro ⟨line, hout, names, hnames, hread⟩
    have hline : line ∈ referring := (hreferring line).mpr ⟨hout, names, hnames⟩
    rcases hread with hmem | ⟨hpiece, hoccurs⟩
    · refine Or.inl (List.mem_flatMap.mpr ⟨line, hline, ?_⟩)
      rw [hnames]
      exact hmem
    · exact Or.inr ⟨hpiece, _, List.mem_map_of_mem hline, hoccurs⟩

/-- The references of a text hold a label exactly if a line outside debug sections refers to it. -/
lemma contains_iff_refers {lines : List Text} {definition label : Text}
    (hlabel : label? definition = some label) :
    (References.ofLines lines).contains label = true ↔
      ∃ j line, lines[j]? = some line ∧ OutsideDebug lines j ∧ Refers line label := by
  rw [contains_iff]
  constructor
  · rintro ⟨line, hmem, hnames⟩
    obtain ⟨j, hline, -, hout⟩ := mem_outsideDebug_iff.mp hmem
    exact ⟨j, line, hline, hout, (refers_iff hlabel).mpr hnames⟩
  · rintro ⟨j, line, hline, hout, hrefers⟩
    have hmem := mem_outsideDebug_iff.mpr ⟨j, hline, sectionSwitch_of_refers hrefers, hout⟩
    exact ⟨line, hmem, (refers_iff hlabel).mp hrefers⟩

/-- Outside debug sections the definition of a label is shown exactly if some line outside debug
sections refers to the label, or if the filter keeps all labels. So a label that is referred to is
shown wherever it is defined. -/
theorem label_shown_iff (filter : Filter) (hbinary : filter.binary = false) (main : Option Text)
    (t : Text) (k : Nat) (definition label : Text)
    (hdefinition : (Text.splitLines t)[k]? = some definition)
    (hout : OutsideDebug (Text.splitLines t) k) (hdefines : DefinesLabel definition label) :
    (Listing.ofText filter main t).lines = (fates filter main (Text.splitLines t)).reduceOption ∧
      ((∃ shown, (fates filter main (Text.splitLines t))[k]? = some (some shown)) ↔
        (filter.labels = true → ∃ j line, (Text.splitLines t)[j]? = some line ∧
          OutsideDebug (Text.splitLines t) j ∧ Refers line label)) := by
  obtain ⟨hmarker, hcomment, hlabel⟩ := hdefines
  refine ⟨lines_ofText main t hbinary, ?_⟩
  rw [shown_label_iff hdefinition hout hlabel, hcomment, contains_iff_refers hlabel]
  simp [hmarker]

/-- A string whose address is taken relative to the code. -/
theorem label_shown_for_address :
    let t := ".LC0:\n\t.string \"hi\"\nmain:\n\tleaq\t.LC0(%rip), %rdi\n".toList
    DefinesLabel ".LC0:".toList ".LC0".toList ∧
      Refers "\tleaq\t.LC0(%rip), %rdi".toList ".LC0".toList ∧
      ∃ shown, (fates {} none (Text.splitLines t))[0]? = some (some shown) := by
  intro t
  have hdefines : DefinesLabel ".LC0:".toList ".LC0".toList := by decide +kernel
  have hcode : IsCodeOrData "\tleaq\t.LC0(%rip), %rdi".toList := by decide +kernel
  have hread : ".LC0".toList ∈ symbols "\tleaq\t.LC0(%rip), %rdi".toList := by decide +kernel
  have hrefers : Refers "\tleaq\t.LC0(%rip), %rdi".toList ".LC0".toList :=
    Or.inl ⟨hcode, standsIn_iff.mpr (Or.inl (mem_symbols_iff.mp hread))⟩
  obtain ⟨-, hshown⟩ := label_shown_iff {} rfl none t 0 ".LC0:".toList ".LC0".toList
    (by decide +kernel) (by decide +kernel) hdefines
  refine ⟨hdefines, hrefers, hshown.mpr fun _ => ?_⟩
  exact ⟨3, _, by decide +kernel, by decide +kernel, hrefers⟩

/-- A string whose address is an immediate operand. -/
def immediateText : Text :=
  ".LC0:\n\t.string \"hi\"\nmain:\n\tmovl\t$.LC0, %edi\n\tcall\tputs\n\t.globl\tmain\n".toList

/-- The operand stands behind a dollar sign: the instruction is shown, and the label is not. -/
theorem label_of_immediate_lost :
    (Text.splitLines immediateText)[3]? =
        some ("\tmovl\t$".toList ++ ".LC0".toList ++ ", %edi".toList) ∧
      OutsideDebug (Text.splitLines immediateText) 3 ∧
      IsCodeOrData "\tmovl\t$.LC0, %edi".toList ∧
      (fates {} none (Text.splitLines immediateText))[3]? =
        some (some { text := "        movl    $.LC0, %edi".toList }) ∧
      (Text.splitLines immediateText)[0]? = some ".LC0:".toList ∧
      OutsideDebug (Text.splitLines immediateText) 0 ∧
      DefinesLabel ".LC0:".toList ".LC0".toList ∧
      (fates {} none (Text.splitLines immediateText))[0]? = some none := by
  decide +kernel

end AsmExplorer.Proofs
