import AsmExplorer.Path.Template
import AsmExplorer.Proofs.FirstOccurrences
import Mathlib.Data.List.Forall2

/-!
# Expanded templates

A template is written as literals and placeholders, and it may end in an opening that nothing
closes. Reading it finds exactly these placeholders: a literal may end in a dollar sign, a name may
hold another opening, and placeholders may stand side by side. What it stands for is put together
from the literals and the values, and is not read again.
-/

namespace AsmExplorer.Proofs
open Template

/-! ### Writing templates -/

def writePiece : Piece → Text
  | .literal t => t
  | .placeholder name => opening ++ name ++ closing

/-- A template as literals and placeholders, and what follows an opening at its end that is not
closed. Literals that stand side by side are read as one, so it is their stretch that holds no
opening. -/
structure WrittenTemplate where
  parts : List Piece
  unclosed : Option Text
  literals_plain : ∀ stretch : List Text, stretch.map Piece.literal <:+: parts →
    ¬opening <:+: stretch.flatten
  names_plain : ∀ name, Piece.placeholder name ∈ parts → ¬closing <:+: name
  unclosed_plain : ∀ t ∈ unclosed, ¬closing <:+: t

namespace WrittenTemplate

/-- The end of the template, as it is written. -/
def ending (w : WrittenTemplate) : Text :=
  (w.unclosed.map (opening ++ ·)).getD []

def write (w : WrittenTemplate) : Text :=
  w.parts.flatMap writePiece ++ w.ending

end WrittenTemplate

/-- What a part of a template stands for. -/
inductive StandsFor (source workspace : Path) : Piece → Text → Prop
  | literal (t : Text) : StandsFor source workspace (.literal t) t
  | value {name value : Text} {v : Variable} : named.lookup name = some v →
    v.value? source workspace = some value → StandsFor source workspace (.placeholder name) value
  /-- A name that is no variable, or one without a value. -/
  | itself {name : Text} : (∀ v, named.lookup name = some v → v.value? source workspace = none) →
    StandsFor source workspace (.placeholder name) (opening ++ name ++ closing)

/-! ### Reading templates -/

lemma standsFor_expand (source workspace : Path) (piece : Piece) :
    StandsFor source workspace piece (piece.expand source workspace) := by
  cases piece with
  | literal t => exact .literal t
  | placeholder name =>
    rw [Piece.expand]
    cases hname : named.lookup name with
    | none =>
      refine .itself fun v hv => ?_
      rw [hname] at hv
      cases hv
    | some v =>
      cases hvalue : v.value? source workspace with
      | some value =>
        rw [Option.bind_some, hvalue]
        exact .value hname hvalue
      | none =>
        rw [Option.bind_some, hvalue]
        refine .itself fun v' hv' => ?_
        rw [hname] at hv'
        cases hv'
        exact hvalue

lemma standsFor_iff {source workspace : Path} {piece : Piece} {t : Text} :
    StandsFor source workspace piece t ↔ t = piece.expand source workspace := by
  refine ⟨fun h => ?_, fun h => h ▸ standsFor_expand source workspace piece⟩
  cases h with
  | literal => rfl
  | value hname hvalue => simp [Piece.expand, hname, hvalue]
  | itself hnone =>
    rw [Piece.expand, Option.bind_eq_none_iff.mpr hnone]
    rfl

/-- What the parts of a template stand for is determined by them. -/
lemma forall₂_standsFor_iff {source workspace : Path} {parts : List Piece} {texts : List Text} :
    List.Forall₂ (StandsFor source workspace) parts texts ↔
      texts = parts.map (Piece.expand source workspace) := by
  induction parts generalizing texts with
  | nil => simp
  | cons piece parts ih =>
    simp only [List.forall₂_cons_left_iff, standsFor_iff, ih, exists_and_left, exists_eq_left,
      List.map_cons]

variable {before name rest t : Text}

lemma firstAt_opening (h : ¬opening <:+: before) :
    FirstAt opening (before ++ opening ++ rest) before rest := by
  refine firstAt_append fun hin => ?_
  rcases List.infix_concat_iff.mp hin with hlast | hbefore
  · -- the piece before the opening ends in its dollar sign, and the opening does not
    have hchar : opening.getLast? = (before ++ ['$']).getLast? := by
      obtain ⟨front, hfront⟩ := hlast
      rw [← hfront, List.getLast?_append_of_ne_nil _ (by decide)]
    rw [List.getLast?_concat] at hchar
    revert hchar
    decide
  · exact h hbefore

lemma firstAt_closing (h : ¬closing <:+: name) :
    FirstAt closing (name ++ closing ++ rest) name rest :=
  firstAt_append (by simpa [closing] using h)

lemma pieces_plain (h : ¬opening <:+: t) : pieces t = [.literal t] := by
  rw [pieces]
  split
  · rfl
  · next hopen =>
    rw [splitAtFirst?_eq_none_iff.mpr h] at hopen
    cases hopen

lemma pieces_unclosed (hbefore : ¬opening <:+: before) (ht : ¬closing <:+: t) :
    pieces (before ++ opening ++ t) = [.literal (before ++ opening ++ t)] := by
  rw [pieces]
  split
  · rfl
  · next hopen =>
    rw [splitAtFirst?_eq_some_iff.mpr (firstAt_opening hbefore)] at hopen
    cases hopen
    split
    · rfl
    · next hclose =>
      rw [splitAtFirst?_eq_none_iff.mpr ht] at hclose
      cases hclose

lemma pieces_placeholder (hbefore : ¬opening <:+: before) (hname : ¬closing <:+: name) :
    pieces (before ++ opening ++ (name ++ closing ++ rest)) =
      .literal before :: .placeholder name :: pieces rest := by
  rw [pieces]
  split
  · next hopen =>
    rw [splitAtFirst?_eq_some_iff.mpr (firstAt_opening hbefore)] at hopen
    cases hopen
  · next hopen =>
    rw [splitAtFirst?_eq_some_iff.mpr (firstAt_opening hbefore)] at hopen
    cases hopen
    split
    · next hclose =>
      rw [splitAtFirst?_eq_some_iff.mpr (firstAt_closing hname)] at hclose
      cases hclose
    · next hclose =>
      rw [splitAtFirst?_eq_some_iff.mpr (firstAt_closing hname)] at hclose
      cases hclose
      rfl

/-! ### Every text is a template -/

lemma eq_nil_of_begins {name : Text} {parts : List Piece} {stretch : List Text}
    (h : stretch.map Piece.literal <+: .placeholder name :: parts) : stretch = [] := by
  cases stretch with
  | nil => rfl
  | cons t stretch => exact absurd (List.cons_prefix_cons.mp h).1 Piece.noConfusion

/-- A template that begins with a literal and a placeholder. -/
def WrittenTemplate.cons (before name : Text) (w : WrittenTemplate)
    (hbefore : ¬opening <:+: before) (hname : ¬closing <:+: name) : WrittenTemplate where
  parts := .literal before :: .placeholder name :: w.parts
  unclosed := w.unclosed
  literals_plain := by
    intro stretch hstretch
    rcases List.infix_cons_iff.mp hstretch with hfirst | hlater
    · cases stretch with
      | nil => simp [opening]
      | cons t stretch =>
        obtain ⟨hliteral, hrest⟩ := List.cons_prefix_cons.mp hfirst
        obtain rfl := Piece.literal.inj hliteral
        simpa [eq_nil_of_begins hrest] using hbefore
    · rcases List.infix_cons_iff.mp hlater with hfirst | hlater
      · simp [eq_nil_of_begins hfirst, opening]
      · exact w.literals_plain stretch hlater
  names_plain := by
    intro n hn
    rcases List.mem_cons.mp hn with hliteral | hn
    · exact Piece.noConfusion hliteral
    · rcases List.mem_cons.mp hn with hname' | hn
      · rwa [Piece.placeholder.inj hname']
      · exact w.names_plain n hn
  unclosed_plain := w.unclosed_plain

/-- A template without placeholders. -/
def WrittenTemplate.ofLiteral (before : Text) (unclosed : Option Text)
    (hbefore : ¬opening <:+: before) (hunclosed : ∀ t ∈ unclosed, ¬closing <:+: t) :
    WrittenTemplate where
  parts := [.literal before]
  unclosed := unclosed
  literals_plain := by
    intro stretch hstretch
    cases stretch with
    | nil => simp [opening]
    | cons t stretch =>
      have hone := hstretch.length_le
      obtain rfl : stretch = [] := by simpa using hone
      obtain ⟨rfl⟩ : t = before := by simpa using hstretch
      simpa using hbefore
  names_plain := by simp
  unclosed_plain := hunclosed

/-- Every text can be written as a template. -/
theorem exists_written (t : Text) : ∃ w : WrittenTemplate, w.write = t := by
  induction t using pieces.induct with
  | case1 t hopen =>
    refine ⟨.ofLiteral t none (splitAtFirst?_eq_none_iff.mp hopen) (by simp), ?_⟩
    simp [WrittenTemplate.write, WrittenTemplate.ending, WrittenTemplate.ofLiteral, writePiece]
  | case2 t before after hopen hclose =>
    have hfirst := splitAtFirst?_eq_some_iff.mp hopen
    refine ⟨.ofLiteral before (some after) (not_infix_of_firstAt (by decide) hfirst)
      (by simpa using splitAtFirst?_eq_none_iff.mp hclose), ?_⟩
    simp [WrittenTemplate.write, WrittenTemplate.ending, WrittenTemplate.ofLiteral, writePiece,
      hfirst.split]
  | case3 t before after hopen name rest hclose ih =>
    have hfirst := splitAtFirst?_eq_some_iff.mp hopen
    have hname := splitAtFirst?_eq_some_iff.mp hclose
    have hplain := not_infix_of_firstAt (by decide) hfirst
    have hinside := not_infix_of_firstAt (by decide) hname
    obtain ⟨w, rfl⟩ := ih
    refine ⟨w.cons before name hplain hinside, ?_⟩
    calc (w.cons before name hplain hinside).write
        = before ++ opening ++ (name ++ closing ++ w.write) := by
          simp [WrittenTemplate.write, WrittenTemplate.ending, WrittenTemplate.cons, writePiece]
      _ = t := by rw [← hname.split, ← hfirst.split]

/-! ### The text that a template stands for -/

/-- Whether no opening begins in a text before parts of a template. -/
def LeadsUpTo (before : Text) (parts : List Piece) : Prop :=
  ∀ stretch : List Text, stretch.map Piece.literal <+: parts →
    ¬opening <:+: before ++ stretch.flatten

lemma not_infix_of_leads {parts : List Piece} (h : LeadsUpTo before parts) :
    ¬opening <:+: before := by
  simpa using h [] List.nil_prefix

lemma leads_of_literal {parts : List Piece} (h : LeadsUpTo before (.literal t :: parts)) :
    LeadsUpTo (before ++ t) parts := by
  intro stretch hstretch
  have hlonger := h (t :: stretch) (List.cons_prefix_cons.mpr ⟨rfl, hstretch⟩)
  simpa using hlonger

section

variable (source workspace : Path)

lemma expand_plain (h : ¬opening <:+: t) : expand t source workspace = t := by
  simp [expand, pieces_plain h, Piece.expand]

lemma expand_unclosed (hbefore : ¬opening <:+: before) (ht : ¬closing <:+: t) :
    expand (before ++ (opening ++ t)) source workspace = before ++ (opening ++ t) := by
  rw [← List.append_assoc, expand, pieces_unclosed hbefore ht]
  simp [Piece.expand]

lemma expand_placeholder (hbefore : ¬opening <:+: before) (hname : ¬closing <:+: name) :
    expand (before ++ (writePiece (.placeholder name) ++ rest)) source workspace =
      before ++ (Piece.expand source workspace (.placeholder name) ++
        expand rest source workspace) := by
  have hwrite : before ++ (writePiece (.placeholder name) ++ rest) =
      before ++ opening ++ (name ++ closing ++ rest) := by
    simp [writePiece]
  rw [hwrite, expand, pieces_placeholder hbefore hname, List.flatMap_cons, List.flatMap_cons]
  rfl

lemma expand_parts {parts : List Piece} {unclosed : Option Text} (hbefore : LeadsUpTo before parts)
    (hliterals : ∀ stretch : List Text, stretch.map Piece.literal <:+: parts →
      ¬opening <:+: stretch.flatten)
    (hnames : ∀ name, Piece.placeholder name ∈ parts → ¬closing <:+: name)
    (hunclosed : ∀ t ∈ unclosed, ¬closing <:+: t) :
    expand (before ++ (parts.flatMap writePiece ++ (unclosed.map (opening ++ ·)).getD []))
        source workspace =
      before ++ (parts.flatMap (Piece.expand source workspace) ++
        (unclosed.map (opening ++ ·)).getD []) := by
  -- the literals that have been passed since the last placeholder stand in front
  induction parts generalizing before with
  | nil =>
    have hplain := not_infix_of_leads hbefore
    cases unclosed with
    | none => simpa using expand_plain source workspace hplain
    | some t => exact expand_unclosed source workspace hplain (hunclosed t rfl)
  | cons piece parts ih =>
    have hbehind : ∀ stretch : List Text, stretch.map Piece.literal <:+: parts →
        ¬opening <:+: stretch.flatten :=
      fun stretch h => hliterals stretch (h.trans (List.suffix_cons piece parts).isInfix)
    have hrest : ∀ name, Piece.placeholder name ∈ parts → ¬closing <:+: name :=
      fun name h => hnames name (List.mem_cons_of_mem piece h)
    rw [List.flatMap_cons, List.flatMap_cons, List.append_assoc, List.append_assoc]
    cases piece with
    | literal t =>
      have hread := ih (leads_of_literal hbefore) hbehind hrest
      rwa [List.append_assoc, List.append_assoc] at hread
    | placeholder name =>
      have hstart : LeadsUpTo [] parts := fun stretch h => hbehind stretch h.isInfix
      have hread := ih hstart hbehind hrest
      rw [List.nil_append, List.nil_append] at hread
      rw [expand_placeholder source workspace (not_infix_of_leads hbefore)
        (hnames name List.mem_cons_self), hread]

end

/-- The path of a template is the normal form of its literals as they are, the values of its
placeholders, each placeholder without a value as it is, and its end. -/
theorem resolve_written (w : WrittenTemplate) (source workspace : Path) :
    ∃ texts : List Text, List.Forall₂ (StandsFor source workspace) w.parts texts ∧
      Template.resolve w.write source workspace = Path.normalize ⟨texts.flatten ++ w.ending⟩ := by
  refine ⟨w.parts.map (Piece.expand source workspace), forall₂_standsFor_iff.mpr rfl, ?_⟩
  · have hstart : LeadsUpTo [] w.parts := fun stretch h => w.literals_plain stretch h.isInfix
    have hread := expand_parts source workspace hstart w.literals_plain w.names_plain
      w.unclosed_plain
    rw [List.nil_append, List.nil_append] at hread
    rw [Template.resolve, WrittenTemplate.write, WrittenTemplate.ending, hread, List.flatMap_def]

/-- A template with a variable behind a dollar sign, a name that is no variable, and an opening that
is not closed. -/
def mixedTemplate : WrittenTemplate :=
  .cons "$".toList "file".toList
    (.cons "/".toList "nope".toList
      (.ofLiteral "/".toList (some "x".toList) (by decide) (by decide))
      (by decide) (by decide))
    (by decide) (by decide)

/-- The name of the source file looks like a placeholder itself. -/
theorem resolve_mixedTemplate :
    Template.resolve "$$\x7bfile\x7d/$\x7bnope\x7d/$\x7bx".toList (.ofString "$\x7bpathSeparator\x7d")
        (.ofString "w") =
      .ofString "$$\x7bpathSeparator\x7d/$\x7bnope\x7d/$\x7bx" := by
  have hwritten : mixedTemplate.write = "$$\x7bfile\x7d/$\x7bnope\x7d/$\x7bx".toList := rfl
  obtain ⟨texts, htexts, hresolve⟩ :=
    resolve_written mixedTemplate (.ofString "$\x7bpathSeparator\x7d") (.ofString "w")
  obtain rfl := forall₂_standsFor_iff.mp htexts
  rw [← hwritten, hresolve]
  decide +kernel

end AsmExplorer.Proofs
