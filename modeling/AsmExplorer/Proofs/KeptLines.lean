import AsmExplorer.Proofs.ShownLines
import Mathlib.Data.List.TakeWhile

/-!
# Lines that are kept

A listing invents nothing. Its texts are some of the lines of the assembly text, in their order and
each in its display form. The markers that relate code to source lines are never among them, whatever
follows them on their line, and the filter that leaves nothing out keeps all other lines. Which lines
are markers is said by two patterns.
-/

namespace AsmExplorer.Proofs
open AsmExplorer.Assembly

/-! ### Patterns -/

/-- A part of a pattern: a text as it stands, or a run of characters of a class, which may be empty
only if any number of them will do. -/
inductive Part where
  | text (t : Text)
  | many (inClass : Char → Bool)
  | any (inClass : Char → Bool)

def Part.Spells : Part → Text → Prop
  | .text t, piece => piece = t
  | .many inClass, piece => piece ≠ [] ∧ ∀ c ∈ piece, inClass c = true
  | .any inClass, piece => ∀ c ∈ piece, inClass c = true

/-- A line begins with a pattern: with pieces that its parts spell, one after the other. -/
def Begins : List Part → Text → Prop
  | [], _ => True
  | part :: parts, line => ∃ piece rest, line = piece ++ rest ∧ part.Spells piece ∧ Begins parts rest

/-- The operands of a marker for a file and a line, as far as they count. -/
def locationOperands : List Part :=
  [.many isBlank, .many isDigit, .many isBlank, .many isDigit]

/-- The operands of a marker in the table of stabs, as far as they count. -/
def stabOperands : List Part :=
  [.many isBlank, .many isDigit, .any isBlank, .text [','], .any isBlank, .text ['0'], .any isBlank,
    .text [','], .any isBlank, .many isDigit, .any isBlank, .text [',']]

def IsMarker (line : Text) : Prop :=
  Begins (.any isBlank :: .text ".loc".toList :: locationOperands) line ∨
    Begins (.any isBlank :: .text ".stabn".toList :: stabOperands) line

/-- No line that begins with a pattern begins with a character of a class. A run of such characters
in front of the pattern then ends where the pattern begins. -/
def Apart (inClass : Char → Bool) (parts : List Part) : Prop :=
  ∀ line, Begins parts line → ∀ c ∈ line.head?, inClass c = false

section

variable {inClass other : Char → Bool} {parts : List Part} {line t : Text} {c : Char}

lemma apart_text (hc : inClass c = false) : Apart inClass (.text (c :: t) :: parts) := by
  rintro line ⟨piece, rest, rfl, rfl, -⟩ d hd
  obtain rfl : c = d := by simpa using hd
  exact hc

lemma apart_many (h : ∀ c, other c = true → inClass c = false) :
    Apart inClass (.many other :: parts) := by
  rintro line ⟨piece, rest, rfl, ⟨hne, hpiece⟩, -⟩ d hd
  obtain ⟨c, piece, rfl⟩ := List.exists_cons_of_ne_nil hne
  obtain rfl : c = d := by simpa using hd
  exact h c (hpiece c List.mem_cons_self)

lemma apart_any (h : ∀ c, other c = true → inClass c = false) (hparts : Apart inClass parts) :
    Apart inClass (.any other :: parts) := by
  rintro line ⟨piece, rest, rfl, hpiece, hrest⟩ d hd
  cases piece with
  | nil => exact hparts rest hrest d hd
  | cons c piece =>
    obtain rfl : c = d := by simpa using hd
    exact h c (hpiece c List.mem_cons_self)

lemma dropWhile_eq_self (h : ∀ c ∈ t.head?, inClass c = false) : t.dropWhile inClass = t := by
  cases t with
  | nil => rfl
  | cons c t =>
    apply List.dropWhile_cons_of_neg
    simp [h c rfl]

/-- A run is not longer for what stands behind a character that is in no such run. -/
lemma takeWhile_append_border (h : ∀ c ∈ t.head?, inClass c = false) (front : Text) :
    (front ++ t).takeWhile inClass = front.takeWhile inClass := by
  have hstop : t.takeWhile inClass = [] := by
    cases t with
    | nil => rfl
    | cons c t => simp [h c rfl]
  rw [List.takeWhile_append, hstop, List.append_nil]
  split
  · next hall => exact ((List.takeWhile_prefix _).eq_of_length hall).symm
  · rfl

lemma begins_any (h : Apart inClass parts) :
    Begins (.any inClass :: parts) line ↔ Begins parts (line.dropWhile inClass) := by
  constructor
  · rintro ⟨piece, rest, rfl, hpiece, hrest⟩
    rw [List.dropWhile_append_of_pos hpiece, dropWhile_eq_self (h rest hrest)]
    exact hrest
  · intro hrest
    exact ⟨_, _, List.takeWhile_append_dropWhile.symm, fun c hc => List.mem_takeWhile_imp hc, hrest⟩

lemma begins_many (h : Apart inClass parts) :
    Begins (.many inClass :: parts) line ↔
      line.takeWhile inClass ≠ [] ∧ Begins parts (line.dropWhile inClass) := by
  constructor
  · rintro ⟨piece, rest, rfl, ⟨hne, hpiece⟩, hrest⟩
    rw [List.dropWhile_append_of_pos hpiece, dropWhile_eq_self (h rest hrest),
      List.takeWhile_append_of_pos hpiece]
    exact ⟨by simp [hne], hrest⟩
  · rintro ⟨hne, hrest⟩
    exact ⟨_, _, List.takeWhile_append_dropWhile.symm,
      ⟨hne, fun c hc => List.mem_takeWhile_imp hc⟩, hrest⟩

/-- At the end of a pattern a run need not be read to its end. -/
lemma begins_many_last : Begins [.many inClass] line ↔ line.takeWhile inClass ≠ [] := by
  constructor
  · rintro ⟨piece, rest, rfl, ⟨hne, hpiece⟩, -⟩
    rw [List.takeWhile_append_of_pos hpiece]
    simp [hne]
  · intro hne
    exact ⟨_, _, List.takeWhile_append_dropWhile.symm,
      ⟨hne, fun c hc => List.mem_takeWhile_imp hc⟩, trivial⟩

/-! ### Patterns and readers -/

lemma begins_char :
    Begins (.text [c] :: parts) t ↔ ∃ rest, Scan.char? c t = some rest ∧ Begins parts rest := by
  constructor
  · rintro ⟨piece, rest, rfl, rfl, hrest⟩
    exact ⟨rest, by simp [Scan.char?], hrest⟩
  · rintro ⟨rest, hchar, hrest⟩
    cases t with
    | nil => simp [Scan.char?] at hchar
    | cons d t =>
      rw [Scan.char?] at hchar
      split at hchar
      · next hd =>
        obtain rfl := Option.some.inj hchar
        exact ⟨[c], t, by simp [hd], rfl, hrest⟩
      · cases hchar

lemma run1?_eq_some_iff {taken rest : Text} :
    Scan.run1? inClass t = some (taken, rest) ↔
      t.takeWhile inClass ≠ [] ∧ taken = t.takeWhile inClass ∧ rest = t.dropWhile inClass := by
  unfold Scan.run1?
  split
  · next hnil => simp [hnil]
  · next hne =>
    simp only [Option.some.injEq, Prod.mk.injEq, ne_eq]
    constructor
    · rintro ⟨rfl, rfl⟩
      exact ⟨hne, rfl, rfl⟩
    · rintro ⟨-, rfl, rfl⟩
      exact ⟨rfl, rfl⟩

lemma run1?_append {piece rest : Text} (hne : piece ≠ []) (hpiece : ∀ c ∈ piece, inClass c = true)
    (h : ∀ c ∈ rest.head?, inClass c = false) :
    Scan.run1? inClass (piece ++ rest) = some (piece, rest) := by
  have htake : (piece ++ rest).takeWhile inClass = piece := by
    rw [takeWhile_append_border h, List.takeWhile_eq_self_iff.mpr hpiece]
  rw [run1?_eq_some_iff, htake, List.dropWhile_append_of_pos hpiece, dropWhile_eq_self h]
  exact ⟨hne, rfl, rfl⟩

lemma begins_digits (h : Apart isDigit parts) :
    Begins (.many isDigit :: parts) t ↔
      ∃ p, Scan.digits? t = some p ∧ Begins parts p.2 := by
  rw [begins_many h]
  constructor
  · rintro ⟨hne, hrest⟩
    exact ⟨(_, _), run1?_eq_some_iff.mpr ⟨hne, rfl, rfl⟩, hrest⟩
  · rintro ⟨⟨taken, rest⟩, hdigits, hrest⟩
    obtain ⟨hne, -, rfl⟩ := run1?_eq_some_iff.mp hdigits
    exact ⟨hne, hrest⟩

lemma begins_digits_last :
    Begins [.many isDigit] t ↔ ∃ p, Scan.digits? t = some p := by
  rw [begins_many_last]
  constructor
  · intro hne
    exact ⟨(_, _), run1?_eq_some_iff.mpr ⟨hne, rfl, rfl⟩⟩
  · rintro ⟨⟨taken, rest⟩, hdigits⟩
    exact (run1?_eq_some_iff.mp hdigits).1

lemma begins_blanks1 (h : Apart isBlank parts) :
    Begins (.many isBlank :: parts) t ↔
      ∃ rest, Scan.blanks1? t = some rest ∧ Begins parts rest := by
  rw [begins_many h]
  cases t with
  | nil => simp [Scan.blanks1?]
  | cons c t =>
    by_cases hc : isBlank c = true
    · simp [Scan.blanks1?, Scan.blanks, hc]
    · simp [Scan.blanks1?, hc]

lemma blanks1?_append {gap : Text} (hgap : (Part.many isBlank).Spells gap)
    (h : ∀ c ∈ t.head?, isBlank c = false) : Scan.blanks1? (gap ++ t) = some t := by
  obtain ⟨hne, hblank⟩ := hgap
  obtain ⟨c, gap, rfl⟩ := List.exists_cons_of_ne_nil hne
  have hgap : ∀ d ∈ gap, isBlank d = true := fun d hd => hblank d (List.mem_cons_of_mem c hd)
  rw [List.cons_append, Scan.blanks1?, if_pos (hblank c List.mem_cons_self), Scan.blanks,
    List.dropWhile_append_of_pos hgap, dropWhile_eq_self h]

/-- Behind a dot, the word of a directive ends where its operands begin. -/
lemma directive_of_blanks {name operands : Text} (hblanks : Scan.blanks line = '.' :: (name ++ operands))
    (hname : ∀ c ∈ name, isWord c = true) (hoperands : ∀ c ∈ operands.head?, isWord c = false) :
    Directive.ofLine? line = some ⟨name, operands⟩ := by
  have hword : (name ++ operands).takeWhile isWord = name := by
    rw [takeWhile_append_border hoperands, List.takeWhile_eq_self_iff.mpr hname]
  have hbehind : (name ++ operands).dropWhile isWord = operands := by
    rw [List.dropWhile_append_of_pos hname, dropWhile_eq_self hoperands]
  rw [Directive.ofLine?, hblanks]
  simp [hword, hbehind]

lemma begins_directive {name : Text} (hname : ∀ c ∈ name, isWord c = true)
    (h : Apart isWord parts) :
    Begins (.any isBlank :: .text ('.' :: name) :: parts) line ↔
      ∃ d, Directive.ofLine? line = some d ∧ d.name = name ∧ Begins parts d.operands := by
  rw [begins_any (apart_text (by decide))]
  constructor
  · rintro ⟨piece, rest, hblanks, rfl, hrest⟩
    exact ⟨⟨name, rest⟩, directive_of_blanks hblanks hname (h rest hrest), rfl, hrest⟩
  · rintro ⟨d, hd, rfl, hrest⟩
    unfold Directive.ofLine? at hd
    split at hd
    · next t hblanks =>
      obtain rfl := Option.some.inj hd
      refine ⟨_, _, ?_, rfl, hrest⟩
      rw [List.cons_append, List.takeWhile_append_dropWhile]
      exact hblanks
    · cases hd

end

/-! ### Markers -/

lemma isDigit_of_blank {c : Char} (h : isBlank c = true) : isDigit c = false := by
  have hapart : ∀ x ∈ blankRanges, ∀ y ∈ (0x30, 0x39) :: digitRanges, x.2 < y.1 ∨ y.2 < x.1 := by
    decide +kernel
  have hranges := inRanges_eq_false_of_apart h hapart
  simp only [inRanges, List.any_cons, Bool.or_eq_false_iff] at hranges
  obtain ⟨hascii, hother⟩ := hranges
  unfold isDigit isAsciiDigit
  split
  · simp only [Char.le_def, UInt32.le_iff_toNat_le, Bool.and_eq_false_iff, decide_eq_false_iff_not,
      ← Char.toNat_val] at hascii ⊢
    simpa using hascii
  · exact hother

lemma isBlank_of_digit {c : Char} (h : isDigit c = true) : isBlank c = false := by
  by_contra hblank
  rw [isDigit_of_blank (by simpa using hblank)] at h
  cases h

lemma apart_digits {parts : List Part} : Apart isBlank (.many isDigit :: parts) :=
  apart_many fun _ => isBlank_of_digit

lemma apart_blanks {parts : List Part} : Apart isDigit (.many isBlank :: parts) :=
  apart_many fun _ => isDigit_of_blank

lemma isSome_bind_iff {α β : Type} {o : Option α} {f : α → Option β} :
    (o.bind f).isSome ↔ ∃ a, o = some a ∧ (f a).isSome := by
  cases o <;> simp

lemma location_isSome_iff {operands : Text} :
    (Marker.location? operands).isSome ↔ Begins locationOperands operands := by
  simp only [Marker.location?, locationOperands, Option.bind_eq_bind, isSome_bind_iff, begins_digits_last,
    begins_blanks1 apart_digits, begins_digits apart_blanks]
  simp

lemma stab_isSome_iff {operands : Text} :
    (Marker.stab? operands).isSome ↔ Begins stabOperands operands := by
  have hcomma : isBlank ',' = false := by decide
  have hzero : isBlank '0' = false := by decide
  have hborder {parts : List Part} :
      Apart isDigit (.any isBlank :: .text [','] :: parts) :=
    apart_any (fun _ => isDigit_of_blank) (apart_text (by decide))
  simp only [Marker.stab?, stabOperands, Option.bind_eq_bind, isSome_bind_iff, begins_blanks1 apart_digits,
    begins_digits hborder, begins_any (apart_text hcomma), begins_any (apart_text hzero),
    begins_any apart_digits, begins_char]
  simp [Begins, Scan.blanks]

/-- The reader of markers finds one exactly on the lines that begin with one of the patterns. -/
lemma marker_isSome_iff {line : Text} : (Marker.ofLine? line).isSome ↔ IsMarker line := by
  have hlocation : ∀ c ∈ "loc".toList, isWord c = true := List.all_eq_true.mp (by decide)
  have hstab : ∀ c ∈ "stabn".toList, isWord c = true := List.all_eq_true.mp (by decide)
  have hgap {parts : List Part} : Apart isWord (.many isBlank :: parts) :=
    apart_many fun _ => isWord_eq_false_of_isBlank
  have hread (d : Directive) :
      (if d.name = "loc".toList then Marker.location? d.operands
        else if d.name = "stabn".toList then Marker.stab? d.operands else none).isSome ↔
        (d.name = "loc".toList ∧ (Marker.location? d.operands).isSome) ∨
          (d.name = "stabn".toList ∧ (Marker.stab? d.operands).isSome) := by
    by_cases hloc : d.name = "loc".toList
    · simp [hloc]
    · rw [if_neg hloc]
      by_cases hstabn : d.name = "stabn".toList
      · simp [hstabn]
      · rw [if_neg hstabn]
        exact iff_of_false (by simp) fun h => h.elim (fun h => hloc h.1) fun h => hstabn h.1
  have hlocations : Begins (.any isBlank :: .text ".loc".toList :: locationOperands) line ↔ _ :=
    begins_directive hlocation hgap
  have hstabs : Begins (.any isBlank :: .text ".stabn".toList :: stabOperands) line ↔ _ :=
    begins_directive hstab hgap
  rw [Marker.ofLine?, Option.bind_eq_bind, isSome_bind_iff]
  unfold IsMarker
  simp only [hread, location_isSome_iff, stab_isSome_iff, and_or_left, exists_or]
  exact or_congr hlocations.symm hstabs.symm

lemma marker_eq_none_iff {line : Text} : Marker.ofLine? line = none ↔ ¬IsMarker line := by
  rw [← marker_isSome_iff]
  simp

instance : DecidablePred IsMarker := fun _ => decidable_of_iff _ marker_isSome_iff

/-! ### The lines of a listing -/

lemma step_passthrough (s : Cursor) (line : Text) :
    (s.step .passthrough none line).2 =
      if IsMarker line then none else some (stamped (enter s line) line) := by
  by_cases hmarker : IsMarker line
  · obtain ⟨marker, hm⟩ := Option.isSome_iff_exists.mp (marker_isSome_iff.mpr hmarker)
    rw [step_of_marker hm, if_pos hmarker]
  · have hshows : (enter s line).shows .passthrough none line = true := by
      unfold Cursor.shows Cursor.showsLabel Filter.passthrough
      split
      · rfl
      · simp
    rw [step_of_reads (marker_eq_none_iff.mpr hmarker) rfl, if_neg hmarker, hshows]
    rfl

/-- What is shown of some lines comes from lines that are no markers, in their order. -/
lemma exists_kept (filter : Filter) (refs : Option References) (s : Cursor) (lines : List Text) :
    ∃ kept : List Text, kept.Sublist lines ∧ (∀ line ∈ kept, ¬IsMarker line) ∧
      (outcomes filter refs s lines).reduceOption.map Line.text = kept.map Text.displayForm := by
  induction lines generalizing s with
  | nil => exact ⟨[], .slnil, by simp, rfl⟩
  | cons line rest ih =>
    obtain ⟨kept, hsublist, hmarkers, htexts⟩ := ih (s.step filter refs line).1
    unfold outcomes
    cases hstep : (s.step filter refs line).2 with
    | none => exact ⟨kept, hsublist.cons line, hmarkers, htexts⟩
    | some shown =>
      -- the line that is shown comes in front of those kept behind it
      obtain ⟨hmarker, -, rfl⟩ := of_step_shown hstep
      refine ⟨line :: kept, hsublist.cons_cons line, ?_, ?_⟩
      · simpa using ⟨marker_eq_none_iff.mp hmarker, hmarkers⟩
      · rw [List.reduceOption_cons_of_some, List.map_cons, List.map_cons, htexts]
        rfl

lemma texts_passthrough (s : Cursor) (lines : List Text) :
    (outcomes .passthrough none s lines).reduceOption.map Line.text =
      (lines.filter fun line => ¬IsMarker line).map Text.displayForm := by
  induction lines generalizing s with
  | nil => rfl
  | cons line rest ih =>
    unfold outcomes
    rw [step_passthrough]
    by_cases hmarker : IsMarker line
    · rw [if_pos hmarker, List.reduceOption_cons_of_none, ih, List.filter_cons_of_neg (by simpa)]
    · rw [if_neg hmarker, List.reduceOption_cons_of_some, List.map_cons, ih,
        List.filter_cons_of_pos (by simpa), List.map_cons]
      rfl

/-- The texts of a listing are the display forms of some lines of its text, in order, none of them a
marker. Without anything left out they are those of all lines that are no markers. -/
theorem shown_texts_of_kept_lines (filter : Filter) (hbinary : filter.binary = false)
    (main : Option Text) (t : Text) :
    ∃ kept : List Text, kept.Sublist (Text.splitLines t) ∧ (∀ line ∈ kept, ¬IsMarker line) ∧
      (Listing.ofText filter main t).lines.map Line.text = kept.map Text.displayForm ∧
      (filter = .passthrough → kept = (Text.splitLines t).filter fun line => ¬IsMarker line) := by
  rw [lines_ofText main t hbinary, fates]
  by_cases hfilter : filter = .passthrough
  · subst hfilter
    refine ⟨_, List.filter_sublist, fun line hline => ?_, texts_passthrough _ _, fun _ => rfl⟩
    simpa using (List.mem_filter.mp hline).2
  · obtain ⟨kept, hsublist, hmarkers, htexts⟩ := exists_kept filter
      (referencesFor filter (Text.splitLines t)) { files := .start main } (Text.splitLines t)
    exact ⟨kept, hsublist, hmarkers, htexts, fun h => absurd h hfilter⟩

/-- A marker with a comment behind it, a marker that is none for want of a line, and blanks. -/
theorem shown_texts_of_kept_lines_without_filter :
    Filter.passthrough.binary = false ∧
      (Listing.ofText .passthrough none
          "\t.loc 1 2 # x\n\t.loc 1\n \tret \t\n\t.stabn 68,0,2,.L\n\n".toList).lines.map Line.text =
        ["        .loc 1".toList, "        ret".toList, []] := by
  obtain ⟨kept, -, -, htexts, hall⟩ := shown_texts_of_kept_lines .passthrough rfl none
    "\t.loc 1 2 # x\n\t.loc 1\n \tret \t\n\t.stabn 68,0,2,.L\n\n".toList
  refine ⟨rfl, ?_⟩
  rw [htexts, hall rfl]
  decide +kernel

end AsmExplorer.Proofs
