import AsmExplorer.Proofs.FileNames
import AsmExplorer.Proofs.SourceDirectives
import Mathlib.Order.Bounds.Basic

/-!
# Stamped lines

A line that is shown under two filters has the same stamp under both, whatever either of them leaves
out. The stamp is told here by what is written in the text and where: by the last event that counts on
the line, by the first entry that names the main file, and by the latest entry for a file.
-/

namespace AsmExplorer.Proofs
open AsmExplorer.Assembly

/-! ### The stamp of a line -/

/-- Something is written on the line with an index. -/
def At (lines : List Text) (i : Nat) (Writes : Text → Prop) : Prop :=
  ∃ line, lines[i]? = some line ∧ Writes line

/-- A line names the main file by an entry without a number. -/
def NamesMain (line name : Text) : Prop :=
  ∃ path, EntersFile line none path ∧ NamesFile path name

/-- The name of the main file on a line: the given one, or else the one in the first entry further up
that has any. -/
inductive MainName (main : Option Text) (lines : List Text) (k : Nat) (name : Text) : Prop
  | given : main = some name → MainName main lines k name
  | entered {i : Nat} : main = none →
    IsLeast {i | i < k ∧ At lines i fun line => ∃ name, NamesMain line name} i →
    At lines i (NamesMain · name) → MainName main lines k name

/-- The path of a file on a line: the one in the latest entry further up. -/
def LatestPath (lines : List Text) (k file : Nat) (path : Text) : Prop :=
  ∃ i, IsGreatest {i | i < k ∧ At lines i fun line => ∃ path, EntersFile line (some file) path} i ∧
    At lines i (EntersFile · (some file) path)

/-- A file is the main one on a line: its path has the name of the main file. Without a path or
without such a name the first file is. -/
def IsMain (main : Option Text) (lines : List Text) (k file : Nat) : Prop :=
  (∃ name path, MainName main lines k name ∧ LatestPath lines k file path ∧
      NamesFile path name) ∨
    (((∀ name, ¬MainName main lines k name) ∨ ∀ path, ¬LatestPath lines k file path) ∧ file = 1)

/-- An event counts on a line: it is written there or further up. The end of a function counts only on
the lines below it. -/
def Counts (lines : List Text) (j i : Nat) (event : CorrelationEvent) : Prop :=
  At lines i (Says · event) ∧ (i < j ∨ i = j ∧ event ≠ .functionEnd)

/-- The last event that counts on a line. -/
def LastEvent (lines : List Text) (j i : Nat) (event : CorrelationEvent) : Prop :=
  IsGreatest {i | ∃ event, Counts lines j i event} i ∧ Counts lines j i event

/-- A line is stamped with a source line: the last event is a stab with that line, or a location with
that line in the file that is the main one there. The line zero is none. -/
def Stamped (main : Option Text) (lines : List Text) (j n : Nat) : Prop :=
  0 < n ∧ ∃ i, LastEvent lines j i (.stab n) ∨
    ∃ file, LastEvent lines j i (.location file n) ∧ IsMain main lines i file

/-! ### Lines above an index -/

section

variable {α : Type} {f : Text → Option α} {Writes : Text → Prop} {lines : List Text} {line : Text}
  {i k : Nat} {a : α}

lemma at_of_line (hline : lines[i]? = some line) : At lines i Writes ↔ Writes line := by
  constructor
  · rintro ⟨other, hother, h⟩
    obtain rfl := Option.some.inj (hline.symm.trans hother)
    exact h
  · exact fun h => ⟨line, hline, h⟩

lemma not_at_of_none (hline : lines[i]? = none) : ¬At lines i Writes := by
  rintro ⟨line, h, -⟩
  rw [hline] at h
  cases h

lemma isGreatest_succ_of_not (h : ¬At lines k Writes) :
    IsGreatest {i | i < k + 1 ∧ At lines i Writes} i ↔
      IsGreatest {i | i < k ∧ At lines i Writes} i := by
  have hset : {i | i < k + 1 ∧ At lines i Writes} = {i | i < k ∧ At lines i Writes} := by
    ext j
    refine ⟨fun hj => ⟨?_, hj.2⟩, fun hj => ⟨Nat.lt_succ_of_lt hj.1, hj.2⟩⟩
    have hne : j ≠ k := fun heq => h (heq ▸ hj.2)
    have := hj.1
    omega
  rw [hset]

lemma isGreatest_succ_of (h : At lines k Writes) :
    IsGreatest {i | i < k + 1 ∧ At lines i Writes} i ↔ i = k := by
  have hk : IsGreatest {i | i < k + 1 ∧ At lines i Writes} k :=
    ⟨⟨Nat.lt_succ_self k, h⟩, fun j hj => Nat.lt_succ_iff.mp hj.1⟩
  exact ⟨fun hi => hi.unique hk, fun hi => hi ▸ hk⟩

/-- What is found first above an index, read upwards. -/
lemma findSome?_reverse_take_iff : (lines.take k).reverse.findSome? f = some a ↔
    ∃ i, IsGreatest {i | i < k ∧ At lines i fun line => ∃ a, f line = some a} i ∧
      At lines i (f · = some a) := by
  induction k with
  | zero => simp [IsGreatest]
  | succ k ih =>
    cases hline : lines[k]? with
    | none =>
      have htake : lines.take (k + 1) = lines.take k := by
        rw [List.take_add_one, hline]
        exact List.append_nil _
      simp only [htake, ih, isGreatest_succ_of_not (not_at_of_none hline)]
    | some line =>
      rw [take_succ_of_line hline, List.reverse_append, List.reverse_singleton,
        List.singleton_append, List.findSome?_cons]
      cases hf : f line with
      | none =>
        have hnot : ¬At lines k fun line => ∃ a, f line = some a := by
          rw [at_of_line hline]
          simp [hf]
        simp only [ih, isGreatest_succ_of_not hnot]
      | some b =>
        have hat : At lines k fun line => ∃ a, f line = some a := (at_of_line hline).mpr ⟨b, hf⟩
        simp only [isGreatest_succ_of hat, exists_eq_left, at_of_line hline, hf]

lemma exists_isLeast_of_findSome? (h : (lines.take k).findSome? f = some a) :
    ∃ i, IsLeast {i | i < k ∧ At lines i fun line => ∃ a, f line = some a} i ∧
      At lines i (f · = some a) := by
  obtain ⟨front, line, behind, htake, hf, hfront⟩ := List.findSome?_eq_some_iff.mp h
  have hread : ∀ j < k, lines[j]? = (front ++ line :: behind)[j]? := by
    intro j hj
    rw [← htake, List.getElem?_take, if_pos hj]
  have hlt : front.length < k := by
    have hlength := congrArg List.length htake
    rw [List.length_take, List.length_append, List.length_cons] at hlength
    omega
  have hline : lines[front.length]? = some line := by
    rw [hread _ hlt, List.getElem?_append_right (Nat.le_refl _), Nat.sub_self]
    rfl
  refine ⟨front.length, ⟨⟨hlt, line, hline, a, hf⟩, ?_⟩, line, hline, hf⟩
  rintro j ⟨hj, other, hother, b, hb⟩
  by_contra hbefore
  rw [hread j hj, List.getElem?_append_left (Nat.lt_of_not_le hbefore)] at hother
  rw [hfront other (List.mem_of_getElem? hother)] at hb
  cases hb

/-- What is found first above an index, read downwards. -/
lemma findSome?_take_iff : (lines.take k).findSome? f = some a ↔
    ∃ i, IsLeast {i | i < k ∧ At lines i fun line => ∃ a, f line = some a} i ∧
      At lines i (f · = some a) := by
  refine ⟨exists_isLeast_of_findSome?, ?_⟩
  rintro ⟨i, hleast, line, hline, hf⟩
  cases hfound : (lines.take k).findSome? f with
  | none =>
    have hmem : line ∈ lines.take k := by
      apply List.mem_of_getElem?
      rw [List.getElem?_take, if_pos hleast.1.1, hline]
    rw [List.findSome?_eq_none_iff.mp hfound line hmem] at hf
    cases hf
  | some b =>
    obtain ⟨i', hleast', line', hline', hf'⟩ := exists_isLeast_of_findSome? hfound
    obtain rfl := hleast.unique hleast'
    obtain rfl := Option.some.inj (hline.symm.trans hline')
    exact hf'.symm.trans hf

end

/-! ### The reference and the readers -/

section

variable {main : Option Text} {lines : List Text} {line name path : Text} {i j k n file : Nat}

lemma namesMain_iff : NamesMain line name ↔ namedMain? line = some name := by
  unfold NamesMain namedMain?
  simp only [← fileEntry_iff, ← fileName?_iff]
  rcases FileEntry.ofLine? line with _ | ⟨_ | index, path⟩
  · simp
  · simp
  · simp

lemma entersFile_iff : EntersFile line (some file) path ↔ pathOf? file line = some path := by
  rw [← fileEntry_iff, pathOf?]
  rcases FileEntry.ofLine? line with _ | ⟨_ | index, other⟩
  · simp
  · simp
  · by_cases hindex : index = file
    · simp [hindex]
    · simp [hindex]

lemma mainName_iff : MainName main lines k name ↔
    mainName main (lines.take k).reverse = some name := by
  rw [mainName, List.reverse_reverse]
  cases main with
  | some given =>
    rw [Option.some_or]
    refine ⟨?_, .given⟩
    rintro (h | ⟨hnone, -, -⟩)
    · exact h
    · cases hnone
  | none =>
    rw [Option.none_or, findSome?_take_iff]
    simp only [← namesMain_iff]
    constructor
    · rintro (h | ⟨-, hleast, hat⟩)
      · cases h
      · exact ⟨_, hleast, hat⟩
    · rintro ⟨i, hleast, hat⟩
      exact .entered rfl hleast hat

lemma latestPath_iff : LatestPath lines k file path ↔
    (lines.take k).reverse.findSome? (pathOf? file) = some path := by
  rw [findSome?_reverse_take_iff]
  simp only [← entersFile_iff]
  rfl

lemma isMain_iff : IsMain main lines k file ↔
    isMainFile main (lines.take k).reverse file = true := by
  unfold IsMain isMainFile
  simp only [mainName_iff, latestPath_iff, ← fileName?_iff]
  cases mainName main (lines.take k).reverse with
  | none => simp
  | some name =>
    cases (lines.take k).reverse.findSome? (pathOf? file) with
    | none => simp
    | some path => simp

/-- The last event above an index decides what is read there. -/
lemma stampBehind_iff : stampBehind main (lines.take k).reverse = some n ↔
    0 < n ∧ ∃ i, IsGreatest {i | i < k ∧ At lines i fun line => ∃ event, Says line event} i ∧
      (At lines i (Says · (.stab n)) ∨
        ∃ file, At lines i (Says · (.location file n)) ∧ IsMain main lines i file) := by
  induction k with
  | zero => simp [IsGreatest, stampBehind]
  | succ k ih =>
    cases hline : lines[k]? with
    | none =>
      have htake : lines.take (k + 1) = lines.take k := by
        rw [List.take_add_one, hline]
        exact List.append_nil _
      simp only [htake, ih, isGreatest_succ_of_not (not_at_of_none hline)]
    | some line =>
      rw [take_succ_of_line hline, List.reverse_append, List.reverse_singleton,
        List.singleton_append, stampBehind]
      cases hevent : eventOf? line with
      | none =>
        have hnot : ¬At lines k fun line => ∃ event, Says line event := by
          rw [at_of_line hline]
          simp [says_iff, hevent]
        simp only [ih, isGreatest_succ_of_not hnot]
      | some event =>
        have hat : At lines k fun line => ∃ event, Says line event :=
          (at_of_line hline).mpr ⟨event, says_iff.mpr hevent⟩
        simp only [isGreatest_succ_of hat, exists_eq_left, at_of_line hline]
        simp only [says_iff, hevent, isMain_iff]
        cases event with
        | location file m =>
          simp only [Option.some.injEq, reduceCtorEq, false_or, CorrelationEvent.location.injEq,
            Option.ite_none_right_eq_some]
          constructor
          · rintro ⟨⟨hm, hmain⟩, rfl⟩
            exact ⟨hm, file, ⟨rfl, rfl⟩, hmain⟩
          · rintro ⟨hn, _, ⟨rfl, rfl⟩, hmain⟩
            exact ⟨⟨hn, hmain⟩, rfl⟩
        | stab m =>
          simp only [Option.some.injEq, reduceCtorEq, CorrelationEvent.stab.injEq, false_and,
            exists_false, or_false, Option.ite_none_right_eq_some]
          constructor
          · rintro ⟨hm, rfl⟩
            exact ⟨hm, rfl⟩
          · rintro ⟨hn, rfl⟩
            exact ⟨hn, rfl⟩
        | sectionSwitch => simp
        | functionEnd => simp

/-- The events that count on a line are those above the next line, or above the line itself if that
ends a function. -/
lemma counts_iff {event : CorrelationEvent} (hline : lines[j]? = some line) :
    Counts lines j i event ↔
      i < (if isFunctionEnd line then j else j + 1) ∧ At lines i (Says · event) := by
  rw [Counts, and_comm]
  refine and_congr_left fun hat => ?_
  have hown : i = j → (isFunctionEnd line = true ↔ event = .functionEnd) := by
    rintro rfl
    have hevent := says_iff.mp ((at_of_line hline).mp hat)
    rw [functionEnd_iff, says_iff, hevent, Option.some.injEq]
  split
  · next hend =>
    refine ⟨fun h => h.elim id fun h => absurd ((hown h.1).mp hend) h.2, .inl⟩
  · next hend =>
    constructor
    · rintro (h | ⟨rfl, -⟩)
      · exact Nat.lt_succ_of_lt h
      · exact Nat.lt_succ_self i
    · intro h
      rcases Nat.lt_succ_iff_lt_or_eq.mp h with h | h
      · exact .inl h
      · exact .inr ⟨h, fun hevent => hend ((hown h).mpr hevent)⟩

/-- The reference is what is read off the text. -/
lemma stamped_iff (hline : lines[j]? = some line) :
    Stamped main lines j n ↔ stampAt main lines j = some n := by
  have hbound : stampAt main lines j =
      stampBehind main (lines.take (if isFunctionEnd line then j else j + 1)).reverse := by
    rw [stampAt, hline]
    dsimp only
    split
    · rfl
    · rfl
  have hset : {i | ∃ event, Counts lines j i event} =
      {i | i < (if isFunctionEnd line then j else j + 1) ∧
        At lines i fun line => ∃ event, Says line event} := by
    ext i
    simp only [Set.mem_ofPred_eq, counts_iff hline, exists_and_left, At]
    exact and_congr_right fun _ => by tauto
  rw [hbound, stampBehind_iff, Stamped]
  refine and_congr_right fun _ => exists_congr fun i => ?_
  simp only [LastEvent, hset]
  simp only [counts_iff hline]
  constructor
  · rintro (⟨hi, -, hat⟩ | ⟨file, ⟨hi, -, hat⟩, hmain⟩)
    · exact ⟨hi, .inl hat⟩
    · exact ⟨hi, .inr ⟨file, hat, hmain⟩⟩
  · rintro ⟨hi, hat | ⟨file, hat, hmain⟩⟩
    · exact .inl ⟨hi, hi.1.1, hat⟩
    · exact .inr ⟨file, ⟨hi, hi.1.1, hat⟩, hmain⟩

/-- A line that is shown under two filters has the same stamp under both, and that is the one told by
the text, whatever either filter leaves out. -/
theorem shown_stamps_agree (f g : Filter) (hf : f.binary = false) (hg : g.binary = false)
    (main : Option Text) (t : Text) (j : Nat) (a b : Line)
    (ha : (fates f main (Text.splitLines t))[j]? = some (some a))
    (hb : (fates g main (Text.splitLines t))[j]? = some (some b)) :
    (Listing.ofText f main t).lines = (fates f main (Text.splitLines t)).reduceOption ∧
      (Listing.ofText g main t).lines = (fates g main (Text.splitLines t)).reduceOption ∧
      a.sourceLine = b.sourceLine ∧
      ∀ n, a.sourceLine = some n ↔ Stamped main (Text.splitLines t) j n := by
  obtain ⟨line, hline, -⟩ := outcomes_getElem? ha
  have hstamp := stamp_of_fate ha
  refine ⟨lines_ofText main t hf, lines_ofText main t hg, ?_, fun n => ?_⟩
  · rw [hstamp, stamp_of_fate hb]
  · rw [hstamp, stamped_iff hline]

end

/-- The text of a listing whose first file has another name than the main one at first. -/
def renumberedText : Text :=
  ("\t.file\t\"src/main.c\"\n\t.file 1 \"lib\" \"other.c\"\n\t.loc 1 5\n\tnop\n" ++
    "\t.file 1 \"main.c\"\n\t.loc 1 6\n\tnop\n\t.stabn 68,0,9,.L\n\tret\n\t.cfi_endproc\n" ++
    "\tnop\n\t.loc 1 7\n\t.text\n\tnop\n").toList

/-- The stamp that a line has under a filter, if it is shown. -/
def shownStamp? (filter : Filter) (j : Nat) : Option (Option Nat) :=
  ((fates filter none (Text.splitLines renumberedText))[j]?).join.map Line.sourceLine

/-- Lines of the text, each with a filter under which it is shown and with its stamp. -/
def renumberedStamps : List (Filter × Nat × Option Nat) :=
  [({}, 3, none), ({}, 6, some 6), ({}, 8, some 9), ({ directives := false }, 9, some 9),
    ({}, 10, none), ({}, 12, none), ({}, 13, none)]

/-- The same line has no stamp as long as the first file is another one, the line of a location or of
a stab from there on, and none behind the end of the function and from the next section on. -/
theorem shown_stamps_agree_across_files :
    renumberedStamps.Forall fun (filter, j, stamp) =>
      filter.binary = false ∧ shownStamp? filter j = some stamp ∧
        shownStamp? .passthrough j = some stamp ∧
        ∀ n, stamp = some n ↔ Stamped none (Text.splitLines renumberedText) j n := by
  have hshown : ∀ p ∈ renumberedStamps, p.1.binary = false ∧
      shownStamp? p.1 p.2.1 = some p.2.2 ∧ shownStamp? .passthrough p.2.1 = some p.2.2 := by
    decide +kernel
  refine List.forall_iff_forall_mem.mpr fun (filter, j, stamp) hmem => ?_
  obtain ⟨hbinary, hleft, hright⟩ := hshown _ hmem
  refine ⟨hbinary, hleft, hright, ?_⟩
  obtain ⟨a, ha, hstamp⟩ := Option.map_eq_some_iff.mp hleft
  obtain ⟨b, hb, -⟩ := Option.map_eq_some_iff.mp hright
  obtain rfl : a.sourceLine = stamp := hstamp
  exact (shown_stamps_agree filter .passthrough hbinary rfl none renumberedText j a b
    (Option.join_eq_some_iff.mp ha) (Option.join_eq_some_iff.mp hb)).2.2.2

end AsmExplorer.Proofs
