import AsmExplorer.Assembly.References
import AsmExplorer.Proofs.FirstOccurrences
import Mathlib.Data.List.Basic
import Mathlib.Data.List.Infix
import Mathlib.Data.List.TakeWhile
import Mathlib.Tactic.Lemma

/-!
# The symbols of a text

Symbols are read from left to right, each as long as it can be. Which names are read is said here
without reading: a name is a symbol of a text if it stands there spelled as one, if no character
goes on with it, and if no symbol is open in front of it.
-/

namespace AsmExplorer.Proofs
open AsmExplorer.Assembly

/-- A name is spelled as a symbol in code. -/
def IsSymbol (name : Text) : Prop :=
  ∃ c rest, name = c :: rest ∧ isSymbolStart c = true ∧ ∀ d ∈ rest, isSymbolChar d = true

/-- No symbol is open at the end of a text: behind some character that is in no symbol, or else in
the whole text, no symbol begins. -/
def IsClosed (before : Text) : Prop :=
  ∃ front idle, before = front ++ idle ∧ (∀ c ∈ front.getLast?, isSymbolChar c = false) ∧
    ∀ c ∈ idle, isSymbolStart c = false

/-- A name stands in a text as a symbol. -/
def HoldsSymbol (t name : Text) : Prop :=
  IsSymbol name ∧ ∃ before after, t = before ++ name ++ after ∧ IsClosed before ∧
    ∀ c ∈ after.head?, isSymbolChar c = false

/-! ### Characters of symbols -/

lemma isWord_of_ascii {c : Char} (h : isAsciiLetter c = true ∨ isAsciiDigit c = true) :
    isWord c = true := by
  have hlow : c.toNat < 0x80 := by
    simp only [isAsciiLetter, isAsciiDigit, Bool.or_eq_true, Bool.and_eq_true, decide_eq_true_eq,
      Char.le_def, UInt32.le_iff_toNat_le] at h
    have hz : 'z'.val.toNat = 122 := rfl
    have hZ : 'Z'.val.toNat = 90 := rfl
    have h9 : '9'.val.toNat = 57 := rfl
    show c.val.toNat < 0x80
    omega
  rw [isWord, if_pos hlow]
  rcases h with h | h
  · simp [h]
  · simp [h]

lemma isSymbolChar_of_start {c : Char} (h : isSymbolStart c = true) : isSymbolChar c = true := by
  simp only [isSymbolStart, Bool.or_eq_true, beq_iff_eq] at h
  rcases h with ((h | rfl) | rfl) | rfl
  · simp [isSymbolChar, isWord_of_ascii (Or.inl h)]
  · decide
  · decide
  · decide

lemma isSymbolStart_of_border {c : Char} (h : isSymbolChar c = false) :
    isSymbolStart c = false := by
  refine Bool.eq_false_iff.mpr fun hstart => ?_
  rw [isSymbolChar_of_start hstart] at h
  exact Bool.noConfusion h

lemma isBlank_of_symbolStart {c : Char} (h : isSymbolStart c = true) : isBlank c = false := by
  refine Bool.eq_false_iff.mpr fun hblank => ?_
  have hchar := isSymbolChar_of_start h
  simp only [isSymbolChar, isWord_eq_false_of_isBlank hblank, Bool.false_or, Bool.or_eq_true,
    beq_iff_eq] at hchar
  rcases hchar with rfl | rfl
  · exact absurd hblank (by decide)
  · exact absurd hblank (by decide)

/-! ### Closed texts -/

lemma isClosed_nil : IsClosed [] :=
  ⟨[], [], rfl, by simp, by simp⟩

lemma isClosed_cons {c : Char} {before : Text} (hc : isSymbolStart c = false)
    (h : IsClosed before) : IsClosed (c :: before) := by
  obtain ⟨front, idle, rfl, hfront, hidle⟩ := h
  cases front with
  | nil => exact ⟨[], c :: idle, rfl, by simp, by simpa using ⟨hc, hidle⟩⟩
  | cons d front => exact ⟨c :: d :: front, idle, rfl, hfront, hidle⟩

lemma isClosed_append {c : Char} {rest : Text} (hc : isSymbolChar c = false)
    (h : IsClosed (c :: rest)) (front : Text) : IsClosed (front ++ c :: rest) := by
  obtain ⟨head, idle, hsplit, hhead, hidle⟩ := h
  cases head with
  | nil =>
    have hrest : ∀ d ∈ rest, isSymbolStart d = false := by
      intro d hd
      exact hidle d (by rw [List.nil_append] at hsplit; rw [← hsplit]; simp [hd])
    exact ⟨front ++ [c], rest, by simp, by simpa using hc, hrest⟩
  | cons d head =>
    refine ⟨front ++ d :: head, idle, by rw [hsplit, List.append_assoc], ?_, hidle⟩
    rw [List.getLast?_append_of_ne_nil _ (List.cons_ne_nil d head)]
    exact hhead

/-! ### Reading symbols -/

lemma symbols_cons_idle {c : Char} (hc : isSymbolStart c = false) (t : Text) :
    symbols (c :: t) = symbols t := by
  have hnot : ¬isSymbolStart c = true := by simp [hc]
  rw [symbols, if_neg hnot]

lemma symbols_append_idle {idle : Text} (h : ∀ c ∈ idle, isSymbolStart c = false) (t : Text) :
    symbols (idle ++ t) = symbols t := by
  induction idle with
  | nil => rfl
  | cons c idle ih =>
    rw [List.cons_append, symbols_cons_idle (h c List.mem_cons_self)]
    exact ih fun d hd => h d (List.mem_cons_of_mem c hd)

/-- Symbols on both sides of a character that is in none of them are read apart. -/
lemma symbols_append_border {border : Char} (hborder : isSymbolChar border = false)
    (front rest : Text) : symbols (front ++ border :: rest) = symbols front ++ symbols rest := by
  have hstop : (border :: rest).takeWhile isSymbolChar = [] := by simp [hborder]
  have hkeep : (border :: rest).dropWhile isSymbolChar = border :: rest := by simp [hborder]
  induction front using symbols.induct with
  | case1 =>
    rw [List.nil_append, symbols_cons_idle (isSymbolStart_of_border hborder), symbols,
      List.nil_append]
  | case2 c front hstart ih =>
    have htake : (front ++ border :: rest).takeWhile isSymbolChar =
        front.takeWhile isSymbolChar := by
      rw [List.takeWhile_append, hstop, List.append_nil]
      split
      · next hall => exact ((List.takeWhile_prefix _).eq_of_length hall).symm
      · rfl
    have hdrop : (front ++ border :: rest).dropWhile isSymbolChar =
        front.dropWhile isSymbolChar ++ border :: rest := by
      rw [List.dropWhile_append, hkeep]
      split
      · next hall => rw [List.isEmpty_iff.mp hall, List.nil_append]
      · rfl
    rw [List.cons_append, symbols, if_pos hstart, htake, hdrop, ih, symbols, if_pos hstart,
      List.cons_append]
  | case3 c front hstart ih =>
    rw [List.cons_append, symbols, if_neg hstart, ih, symbols, if_neg hstart]

lemma mem_symbols_of_holds {t name : Text} (h : HoldsSymbol t name) : name ∈ symbols t := by
  obtain ⟨⟨c, rest, rfl, hstart, hrest⟩, before, after, rfl, hclosed, hafter⟩ := h
  have hstop : after.takeWhile isSymbolChar = [] := by
    cases after with
    | nil => rfl
    | cons d after => simp [hafter d rfl]
  have htake : (rest ++ after).takeWhile isSymbolChar = rest := by
    rw [List.takeWhile_append_of_pos hrest, hstop, List.append_nil]
  have hfront : c :: rest ∈ symbols (c :: rest ++ after) := by
    rw [List.cons_append, symbols, if_pos hstart, htake]
    exact List.mem_cons_self
  obtain ⟨front, idle, rfl, hlast, hidle⟩ := hclosed
  have hskip : c :: rest ∈ symbols (idle ++ (c :: rest ++ after)) := by
    rw [symbols_append_idle hidle]
    exact hfront
  rw [List.append_assoc, List.append_assoc]
  rcases List.eq_nil_or_concat front with rfl | ⟨front, border, rfl⟩
  · exact hskip
  · have hborder := hlast border (by simp)
    rw [List.concat_eq_append, List.append_assoc, List.singleton_append,
      symbols_append_border hborder]
    exact List.mem_append_right _ hskip

/-- Only names that stand in a text as symbols are read. The induction is along the reading: a
symbol that is taken off ends at a border, so that the text up to there is closed. -/
lemma holds_of_mem_symbols {t name : Text} (h : name ∈ symbols t) : HoldsSymbol t name := by
  induction t using symbols.induct with
  | case1 =>
    rw [symbols] at h
    exact absurd h List.not_mem_nil
  | case2 c rest hstart ih =>
    have hhead : ∀ d ∈ (rest.dropWhile isSymbolChar).head?, isSymbolChar d = false := by
      intro d hd
      have hnot := List.head?_dropWhile_not isSymbolChar rest
      rw [Option.mem_def.mp hd] at hnot
      exact hnot
    have hsplit := List.takeWhile_append_dropWhile (p := isSymbolChar) (l := rest)
    rw [symbols, if_pos hstart] at h
    rcases List.mem_cons.mp h with rfl | h
    · refine ⟨⟨c, _, rfl, hstart, fun d hd => List.mem_takeWhile_imp hd⟩, [], _, ?_, isClosed_nil,
        hhead⟩
      rw [List.nil_append, List.cons_append, hsplit]
    · obtain ⟨hname, before, after, hrest, hclosed, hafter⟩ := ih h
      rw [hrest] at hhead hsplit
      cases before with
      | nil =>
        obtain ⟨d, tail, rfl, hd, -⟩ := hname
        have hborder := isSymbolStart_of_border (hhead d rfl)
        rw [hd] at hborder
        exact Bool.noConfusion hborder
      | cons d before =>
        refine ⟨hname, c :: rest.takeWhile isSymbolChar ++ d :: before, after, ?_,
          isClosed_append (hhead d rfl) hclosed _, hafter⟩
        rw [List.append_assoc, List.append_assoc, List.cons_append,
          ← List.append_assoc (d :: before), hsplit]
  | case3 c rest hstart ih =>
    rw [symbols, if_neg hstart] at h
    obtain ⟨hname, before, after, rfl, hclosed, hafter⟩ := ih h
    exact ⟨hname, c :: before, after, rfl, isClosed_cons (by simpa using hstart) hclosed, hafter⟩

lemma mem_symbols_iff {t name : Text} : name ∈ symbols t ↔ HoldsSymbol t name :=
  ⟨holds_of_mem_symbols, mem_symbols_of_holds⟩

lemma infix_of_holds {t name : Text} (h : HoldsSymbol t name) : name <:+: t := by
  obtain ⟨-, before, after, ht, -, -⟩ := h
  exact ⟨before, after, ht.symm⟩

/-- The dollar sign begins a symbol, so a name behind it is not read. -/
example : symbols "movl $.LC0, .LC1(%rip)".toList =
    ["movl", "$.LC0", ".LC1", "rip"].map String.toList := by
  decide +kernel

/-! ### Pieces and blanks -/

lemma symbols_blanks (t : Text) : symbols (Scan.blanks t) = symbols t := by
  induction t with
  | nil => rfl
  | cons c t ih =>
    by_cases hblank : isBlank c = true
    · have hidle : isSymbolStart c = false := by
        refine Bool.eq_false_iff.mpr fun hstart => ?_
        rw [isBlank_of_symbolStart hstart] at hblank
        exact Bool.noConfusion hblank
      rw [symbols_cons_idle hidle, Scan.blanks, List.dropWhile_cons_of_pos hblank]
      exact ih
    · rw [Scan.blanks, List.dropWhile_cons_of_neg hblank]

lemma infix_blanks_iff {c : Char} (hc : isBlank c = false) {rest t : Text} :
    c :: rest <:+: Scan.blanks t ↔ c :: rest <:+: t := by
  induction t with
  | nil => rfl
  | cons d t ih =>
    by_cases hblank : isBlank d = true
    · have hfirst : ¬c :: rest <+: d :: t := by
        intro hfirst
        obtain ⟨rfl, -⟩ := List.cons_prefix_cons.mp hfirst
        rw [hc] at hblank
        exact Bool.noConfusion hblank
      rw [Scan.blanks, List.dropWhile_cons_of_pos hblank, List.infix_cons_iff]
      exact ih.trans (by simp [hfirst])
    · rw [Scan.blanks, List.dropWhile_cons_of_neg hblank]

end AsmExplorer.Proofs
