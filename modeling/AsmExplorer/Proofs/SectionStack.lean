import AsmExplorer.Proofs.Instructions

/-!
# The section stack

An assembler keeps its sections on a stack: a section is entered or pushed by its name, and one goes
back to an earlier section without naming it. A listing does not keep the stack. It takes every way
back for one into the code, so it leaves out a debug section exactly as long as that was entered by
its name.
-/

namespace AsmExplorer.Proofs
open AsmExplorer.Assembly

/-- What a line asks of the sections of the assembler. -/
inductive SectionRequest where
  | enter (name : Text)
  | push (name : Text)
  | pop
  | swap
  deriving DecidableEq

/-- The current section, the one before it, and the sections that were saved, the latest first, each
with the one before it. -/
structure Sections where
  current : Text := ".text".toList
  previous : Option Text := none
  saved : List (Text × Option Text) := []

namespace SectionRequest

def ofLine? (line : Text) : Option SectionRequest := do
  let d ← Directive.ofLine? line
  if ["text".toList, "data".toList, "bss".toList].contains d.name then some (.enter ('.' :: d.name))
  else if d.name = "section".toList then (namedSection? d.operands).map .enter
  else if d.name = "pushsection".toList then (namedSection? d.operands).map .push
  else if d.name = "popsection".toList then some .pop
  else if d.name = "previous".toList then some .swap
  else none

def goesBack : SectionRequest → Bool
  | .enter _ => false
  | .push _ => false
  | .pop => true
  | .swap => true

/-- The section that a listing takes a request to lead to. -/
def taken : SectionRequest → Text
  | .enter name => name
  | .push name => name
  | .pop => ".text".toList
  | .swap => ".text".toList

end SectionRequest

namespace Sections

/-- The sections after a request. Where there is nothing to go back to, they stay. -/
def serve (s : Sections) : SectionRequest → Sections
  | .enter name => { s with current := name, previous := some s.current }
  | .push name =>
    { current := name, previous := some s.current, saved := (s.current, s.previous) :: s.saved }
  | .pop =>
    match s.saved with
    | (name, before) :: rest => { current := name, previous := before, saved := rest }
    | [] => s
  | .swap =>
    match s.previous with
    | some name => { s with current := name, previous := some s.current }
    | none => s

def behind (lines : List Text) : Sections :=
  (lines.filterMap SectionRequest.ofLine?).foldl serve {}

end Sections

/-- The section of a line. A line that switches the section stands in the new one. -/
def sectionAt (lines : List Text) (j : Nat) : Text :=
  (Sections.behind (lines.take (j + 1))).current

/-- Whether the last request in some lines leads back to an earlier section. -/
def endsGoingBack (lines : List Text) : Bool :=
  (lines.filterMap SectionRequest.ofLine?).getLast?.any SectionRequest.goesBack

/-- A line stands in a debug section that was entered by its name. -/
def InNamedDebug (lines : List Text) (j : Nat) : Prop :=
  isDebugSection (sectionAt lines j) = true ∧ endsGoingBack (lines.take (j + 1)) = false

instance (lines : List Text) (j : Nat) : Decidable (InNamedDebug lines j) :=
  inferInstanceAs (Decidable (_ ∧ _))

/-- A line holds an instruction and no label, comment or directive in front of it. -/
def IsBareInstruction (line : Text) : Prop :=
  startsWithCode (Scan.blanks line) = true ∧ label? line = none

instance (line : Text) : Decidable (IsBareInstruction line) :=
  inferInstanceAs (Decidable (_ ∧ _))

/-! ### Debug sections -/

lemma sectionSwitch_eq (line : Text) :
    sectionSwitch? line = (SectionRequest.ofLine? line).map SectionRequest.taken := by
  unfold sectionSwitch? SectionRequest.ofLine?
  cases Directive.ofLine? line with
  | none => rfl
  | some d =>
    simp only [Option.bind_eq_bind, Option.bind_some, List.contains_cons, List.contains_nil,
      Bool.or_false, Bool.or_eq_true, beq_iff_eq]
    split_ifs with hplain hnamed hsection hpush hback hpop hprevious
    all_goals simp_all [SectionRequest.taken, Function.comp_def]

lemma behind_append_singleton (lines : List Text) (line : Text) :
    Sections.behind (lines ++ [line]) =
      match SectionRequest.ofLine? line with
      | some r => (Sections.behind lines).serve r
      | none => Sections.behind lines := by
  unfold Sections.behind
  rw [List.filterMap_append, List.foldl_append]
  cases h : SectionRequest.ofLine? line <;> simp [h]

lemma endsGoingBack_append_singleton (lines : List Text) (line : Text) :
    endsGoingBack (lines ++ [line]) =
      match SectionRequest.ofLine? line with
      | some r => r.goesBack
      | none => endsGoingBack lines := by
  unfold endsGoingBack
  rw [List.filterMap_append]
  cases h : SectionRequest.ofLine? line <;> simp [h]

/-- A listing is in a debug section where the assembler is in one and has entered it by its name. -/
lemma debugBehind_iff (lines : List Text) :
    debugBehind false lines = true ↔
      isDebugSection (Sections.behind lines).current = true ∧ endsGoingBack lines = false := by
  induction lines using List.reverseRecOn with
  | nil => decide
  | append_singleton lines line ih =>
    rw [debugBehind_append_singleton, behind_append_singleton, endsGoingBack_append_singleton,
      debugOn, sectionSwitch_eq]
    cases SectionRequest.ofLine? line with
    | none => exact ih
    | some r =>
      cases r with
      | enter name => simp [SectionRequest.taken, SectionRequest.goesBack, Sections.serve]
      | push name => simp [SectionRequest.taken, SectionRequest.goesBack, Sections.serve]
      | pop => simp [SectionRequest.taken, SectionRequest.goesBack]; decide
      | swap => simp [SectionRequest.taken, SectionRequest.goesBack]; decide

lemma outsideDebug_iff (lines : List Text) (j : Nat) :
    OutsideDebug lines j ↔ ¬InNamedDebug lines j := by
  rw [OutsideDebug, ← Bool.not_eq_true, debugBehind_iff]
  rfl

/-! ### Instructions -/

lemma carries_of_bare {line : Text} (h : IsBareInstruction line) : CarriesInstruction line := by
  obtain ⟨hcode, hlabel⟩ := h
  rw [label?, Option.or_eq_none_iff] at hlabel
  exact .code (by simp [labelsNothing, hlabel]) hcode

lemma isComment_of_bare {line : Text} (h : IsBareInstruction line) : isComment line = false := by
  refine Bool.eq_false_iff.mpr fun hcomment => ?_
  obtain ⟨middle, hframed⟩ := framed_of_carries (carries_of_bare h) hcomment
  have hcode := h.1
  rw [hframed] at hcode
  exact Bool.false_ne_true hcode

/-- While directives are left out, nothing is shown of a debug section that was entered by its name,
and a bare instruction is shown everywhere else: outside debug sections, and also in a debug section
that the assembler went back to. -/
theorem shown_outside_named_debug (filter : Filter) (hbinary : filter.binary = false)
    (hdirectives : filter.directives = true) (main : Option Text) (t : Text) (j : Nat) (line : Text)
    (hline : (Text.splitLines t)[j]? = some line) :
    (Listing.ofText filter main t).lines = (fates filter main (Text.splitLines t)).reduceOption ∧
      (InNamedDebug (Text.splitLines t) j →
        (fates filter main (Text.splitLines t))[j]? = some none) ∧
      (IsBareInstruction line →
        ((∃ shown, (fates filter main (Text.splitLines t))[j]? = some (some shown)) ↔
          ¬InNamedDebug (Text.splitLines t) j)) := by
  have hout (hshown : ∃ shown, (fates filter main (Text.splitLines t))[j]? = some (some shown)) :
      ¬InNamedDebug (Text.splitLines t) j := by
    rw [← outsideDebug_iff]
    exact ((shown_iff main hline).mp hshown).2.1 hdirectives
  refine ⟨lines_ofText main t hbinary, fun hdebug => ?_, fun hbare => ⟨hout, fun hnot => ?_⟩⟩
  · have hfate := getElem?_outcomes hline filter (referencesFor filter (Text.splitLines t))
      { files := .start main }
    rw [fates, hfate, Option.some.injEq, Option.eq_none_iff_forall_ne_some]
    intro shown hshown
    exact hout ⟨shown, hfate.trans (congrArg some hshown)⟩ hdebug
  · have hcode := isDirective_of_head_ne (head_of_startsWithCode hbare.1)
    rw [shown_code_iff hline ((outsideDebug_iff _ j).mpr hnot) hbare.2 hcode,
      isComment_of_bare hbare]
    simp

/-- A debug section with code pushed in between. The assembler goes back to it twice. -/
def nestedText : Text :=
  "\t.section\t.debug_str\n\t.pushsection\t.text\n\tnop\n\t.popsection\n\thlt\n".toList ++
    "\t.text\n\t.previous\n\tud2\n".toList

/-- The code in between is shown, and the debug section before it is not. -/
theorem shown_outside_named_debug_nested :
    InNamedDebug (Text.splitLines nestedText) 0 ∧ IsBareInstruction "\tnop".toList ∧
      (fates {} none (Text.splitLines nestedText))[0]? = some none ∧
      ∃ shown, (fates {} none (Text.splitLines nestedText))[2]? = some (some shown) := by
  have hdebug : InNamedDebug (Text.splitLines nestedText) 0 := by decide +kernel
  have hcode : ¬InNamedDebug (Text.splitLines nestedText) 2 := by decide +kernel
  have hbare : IsBareInstruction "\tnop".toList := by decide +kernel
  obtain ⟨-, hhidden, -⟩ := shown_outside_named_debug {} rfl rfl none nestedText 0
    "\t.section\t.debug_str".toList (by decide +kernel)
  obtain ⟨-, -, hshown⟩ := shown_outside_named_debug {} rfl rfl none nestedText 2 "\tnop".toList
    (by decide +kernel)
  exact ⟨hdebug, hbare, hhidden hdebug, (hshown hbare).mpr hcode⟩

/-- Behind each of the two ways back, the assembler is in the debug section, and the instruction that
stands there is shown. -/
theorem debug_section_shown_on_return :
    sectionAt (Text.splitLines nestedText) 4 = ".debug_str".toList ∧
      (fates {} none (Text.splitLines nestedText))[4]? =
        some (some { text := "        hlt".toList }) ∧
      sectionAt (Text.splitLines nestedText) 7 = ".debug_str".toList ∧
      (fates {} none (Text.splitLines nestedText))[7]? =
        some (some { text := "        ud2".toList }) := by
  decide +kernel

end AsmExplorer.Proofs
