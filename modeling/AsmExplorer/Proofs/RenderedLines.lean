import AsmExplorer.Assembly.Document
import AsmExplorer.Proofs.LineSplitting
import AsmExplorer.Proofs.ListingMap
import Mathlib.Data.List.DropRight
import Mathlib.Data.List.Forall2

/-!
# The text of a document

A document is shown as a text with one line for each line of its listing. No line of a listing holds
a line feed or ends in a carriage return, so that the text falls into the same lines again, and an
index of the source map counts lines of the text.
-/

namespace AsmExplorer.Proofs
open AsmExplorer.Assembly

/-- Digits that an address is shown as: at least eight of them, in lower case, and no more zeros in
front than that takes. -/
structure IsAddress (address : Nat) (digits : Text) : Prop where
  wide : 8 ≤ digits.length
  lower : ∀ c ∈ digits, c ∈ "0123456789abcdef".toList
  value : ofDigits 16 (digits.map hexDigitValue) = address
  shortest : 8 < digits.length → digits.head? ≠ some '0'

/-- Whether a line of a listing is shown as a text. -/
def ShownAs (line : Line) (text : Text) : Prop :=
  match line.address with
  | some address => ∃ digits, IsAddress address digits ∧
      text = ['<'] ++ digits ++ ['>', ' '] ++ line.text
  | none => text = line.text

/-! ### Numerals of addresses -/

lemma hexDigitValue_digitChar {d : Nat} (h : d < 16) : hexDigitValue d.digitChar = d := by
  revert d
  decide

lemma mem_lower_digitChar {d : Nat} (h : d < 16) :
    d.digitChar ∈ "0123456789abcdef".toList := by
  revert d
  decide

lemma ofDigits_concat (base : Nat) (digits : List Nat) (d : Nat) :
    ofDigits base (digits ++ [d]) = ofDigits base digits * base + d := by
  simp [ofDigits]

lemma ofDigits_zeros (base n : Nat) (digits : List Nat) :
    ofDigits base (List.replicate n 0 ++ digits) = ofDigits base digits := by
  induction n with
  | zero => rfl
  | succ n ih =>
    rw [← ih]
    simp [ofDigits, List.replicate_succ]

lemma lower_hexOfNat (n : Nat) : ∀ c ∈ Text.hexOfNat n, c ∈ "0123456789abcdef".toList := by
  induction n using Nat.strong_induction_on with
  | _ n ih =>
    intro c hc
    rw [Text.hexOfNat, Nat.toDigits_eq_if (by decide)] at hc
    split at hc
    · next hlt =>
      rw [List.mem_singleton.mp hc]
      exact mem_lower_digitChar hlt
    · next hge =>
      rcases List.mem_append.mp hc with hfront | hlast
      · exact ih (n / 16) (by omega) c hfront
      · rw [List.mem_singleton.mp hlast]
        exact mem_lower_digitChar (Nat.mod_lt n (by decide))

lemma value_toDigits {base : Nat} (hbase : 1 < base) (hle : base ≤ 16) (n : Nat) :
    ofDigits base ((Nat.toDigits base n).map hexDigitValue) = n := by
  induction n using Nat.strong_induction_on with
  | _ n ih =>
    rw [Nat.toDigits_eq_if hbase]
    split
    · next hlt => simp [ofDigits, hexDigitValue_digitChar (Nat.lt_of_lt_of_le hlt hle)]
    · next hge =>
      have hfront := ih (n / base) (Nat.div_lt_self (by omega) hbase)
      have hlast := hexDigitValue_digitChar
        (Nat.lt_of_lt_of_le (Nat.mod_lt n (by omega : 0 < base)) hle)
      rw [List.map_append, List.map_singleton, ofDigits_concat, hfront, hlast, Nat.div_add_mod']

lemma value_hexOfNat (n : Nat) : ofDigits 16 ((Text.hexOfNat n).map hexDigitValue) = n :=
  value_toDigits (by decide) (by decide) n

lemma head_hexOfNat {n : Nat} (h : n ≠ 0) : (Text.hexOfNat n).head? ≠ some '0' := by
  induction n using Nat.strong_induction_on with
  | _ n ih =>
    rw [Text.hexOfNat, Nat.toDigits_eq_if (by decide)]
    split
    · next hlt =>
      have hdigit : ∀ d : Nat, d < 16 → d ≠ 0 → [d.digitChar].head? ≠ some '0' := by decide
      exact hdigit n hlt h
    · next hge =>
      have hne : Nat.toDigits 16 (n / 16) ≠ [] := Nat.toDigits_ne_nil
      rw [List.head?_append_of_ne_nil _ hne]
      exact ih (n / 16) (by omega) (by omega)

lemma isAddress_padded (address : Nat) :
    IsAddress address (Text.padLeft 8 '0' (Text.hexOfNat address)) := by
  refine ⟨?_, ?_, ?_, ?_⟩
  · simp only [Text.padLeft, List.length_append, List.length_replicate]
    omega
  · intro c hc
    rcases List.mem_append.mp hc with hzero | hdigit
    · rw [List.eq_of_mem_replicate hzero]
      decide
    · exact lower_hexOfNat address c hdigit
  · have hzero : hexDigitValue '0' = 0 := by decide
    rw [Text.padLeft, List.map_append, List.map_replicate, hzero, ofDigits_zeros, value_hexOfNat]
  · intro hlong
    have hwidth : 8 < (Text.hexOfNat address).length := by
      simp only [Text.padLeft, List.length_append, List.length_replicate] at hlong
      omega
    have hnone : 8 - (Text.hexOfNat address).length = 0 := by omega
    have hne : address ≠ 0 := by
      rintro rfl
      revert hwidth
      decide
    rw [Text.padLeft, hnone]
    exact head_hexOfNat hne

lemma shownAs_render (line : Line) : ShownAs line line.render := by
  unfold ShownAs Line.render
  cases line.address with
  | none => rfl
  | some address => exact ⟨_, isAddress_padded address, rfl⟩

/-! ### Texts of lines -/

/-- A text that is a line by itself and not changed by being read as one. -/
structure IsLine (t : Text) : Prop where
  no_newline : '\n' ∉ t
  no_return : t.getLast? ≠ some '\r'

lemma isBlank_return : isBlank '\r' = true := by decide

lemma trimEnd_eq_rdropWhile (inClass : Char → Bool) (t : Text) :
    Text.trimEnd inClass t = t.rdropWhile inClass :=
  rfl

lemma mem_of_mem_expandTabsFrom {column : Nat} {line : Text} {c : Char}
    (h : c ∈ Text.expandTabsFrom column line) : c = ' ' ∨ c ∈ line := by
  induction line generalizing column with
  | nil => simp [Text.expandTabsFrom] at h
  | cons d rest ih =>
    rw [Text.expandTabsFrom] at h
    split at h
    · rcases List.mem_append.mp h with hspace | hrest
      · exact .inl (List.eq_of_mem_replicate hspace)
      · exact (ih hrest).imp_right (List.mem_cons_of_mem d)
    · rcases List.mem_cons.mp h with rfl | hrest
      · exact .inr List.mem_cons_self
      · exact (ih hrest).imp_right (List.mem_cons_of_mem d)

lemma mem_of_mem_expandTabs {line : Text} {c : Char} (h : c ∈ Text.expandTabs line) :
    c = ' ' ∨ c ∈ line := by
  unfold Text.expandTabs at h
  split at h
  · exact mem_of_mem_expandTabsFrom h
  · exact .inr h

lemma isLine_displayForm {line : Text} (h : '\n' ∉ line) : IsLine (Text.displayForm line) := by
  unfold Text.displayForm
  rw [trimEnd_eq_rdropWhile]
  refine ⟨fun hmem => ?_, fun hlast => ?_⟩
  · rcases mem_of_mem_expandTabs ((List.rdropWhile_prefix isBlank _).subset hmem) with hspace | hline
    · exact absurd hspace (by decide)
    · exact h hline
  · obtain ⟨hne, hreturn⟩ := List.mem_getLast?_eq_getLast hlast
    exact List.rdropWhile_last_not isBlank _ hne (hreturn ▸ isBlank_return)

lemma isLine_render {line : Line} (h : IsLine line.text) : IsLine line.render := by
  unfold Line.render
  cases line.address with
  | none => exact h
  | some address =>
    have hdigits := (isAddress_padded address).lower
    refine ⟨fun hmem => ?_, fun hlast => ?_⟩
    · have hnewline : '\n' ∉ Text.padLeft 8 '0' (Text.hexOfNat address) := fun hmem =>
        absurd (hdigits _ hmem) (by decide)
      simp [hnewline, h.no_newline] at hmem
    · rw [List.getLast?_append, List.getLast?_append] at hlast
      cases hend : line.text.getLast? with
      | none =>
        rw [hend] at hlast
        simp at hlast
      | some c =>
        rw [hend] at hlast
        exact h.no_return (hend.trans hlast)

/-! ### Lines of listings -/

lemma run1?_subset {inClass : Char → Bool} {t taken rest : Text}
    (h : Scan.run1? inClass t = some (taken, rest)) : rest ⊆ t := by
  unfold Scan.run1? at h
  split at h
  · cases h
  · obtain ⟨-, rfl⟩ := Prod.mk.inj (Option.some.inj h)
    exact (List.dropWhile_suffix inClass).subset

lemma char?_subset {c : Char} {t rest : Text} (h : Scan.char? c t = some rest) : rest ⊆ t := by
  cases t with
  | nil => cases h
  | cons d t =>
    rw [Scan.char?] at h
    split at h
    · obtain rfl := Option.some.inj h
      exact List.subset_cons_self d t
    · cases h

lemma blanks_subset (t : Text) : Scan.blanks t ⊆ t :=
  (List.dropWhile_suffix isBlank).subset

lemma blanks1?_subset {t rest : Text} (h : Scan.blanks1? t = some rest) : rest ⊆ t := by
  cases t with
  | nil => cases h
  | cons c t =>
    rw [Scan.blanks1?] at h
    split at h
    · obtain rfl := Option.some.inj h
      exact List.subset_cons_of_subset c (blanks_subset t)
    · cases h

lemma dropCodeBytes_subset (t : Text) : dropCodeBytes t ⊆ t := by
  fun_induction dropCodeBytes t with
  | case1 a b c rest _ ih =>
    exact fun x hx => List.mem_cons_of_mem a (List.mem_cons_of_mem b (List.mem_cons_of_mem c (ih hx)))
  | case2 => exact List.Subset.refl _
  | case3 => exact List.Subset.refl _

lemma labelRecord?_subset {line digits name : Text} (h : labelRecord? line = some (digits, name)) :
    name ⊆ line := by
  simp only [labelRecord?, Option.bind_eq_bind, Option.bind_eq_some_iff] at h
  obtain ⟨⟨_, t⟩, hrun, t', hblanks, t'', hangle, h⟩ := h
  split at h
  · obtain ⟨-, rfl⟩ := Prod.mk.inj (Option.some.inj h)
    intro c hc
    have htrimmed := (List.rdropWhile_prefix isBlank t'').subset (List.mem_of_mem_take hc)
    exact run1?_subset hrun (blanks1?_subset hblanks (char?_subset hangle htrimmed))
  · cases h

lemma instructionRecord?_subset {line digits text : Text}
    (h : instructionRecord? line = some (digits, text)) : text ⊆ line := by
  simp only [instructionRecord?, Option.bind_eq_bind, Option.bind_eq_some_iff] at h
  obtain ⟨⟨_, t⟩, hrun, t', hcolon, h⟩ := h
  obtain ⟨-, rfl⟩ := Prod.mk.inj (Option.some.inj h)
  intro c hc
  have hcode := dropCodeBytes_subset _ (blanks_subset _ hc)
  exact blanks_subset line (run1?_subset hrun (char?_subset hcolon (blanks_subset t' hcode)))

lemma isLine_recordLine? {filter : Filter} {line : Text} {shown : Line} (hline : '\n' ∉ line)
    (h : recordLine? filter line = some shown) : IsLine shown.text := by
  unfold recordLine? at h
  split at h
  · next digits name hlabel =>
    obtain rfl := Option.some.inj h
    have hname : '\n' ∉ name := fun hmem => hline (labelRecord?_subset hlabel hmem)
    exact ⟨by simp [hname], by simp⟩
  · split at h
    · next digits text hinstruction =>
      obtain rfl := Option.some.inj h
      exact isLine_displayForm fun hmem => hline (instructionRecord?_subset hinstruction hmem)
    · split at h
      · cases h
      · obtain rfl := Option.some.inj h
        exact isLine_displayForm hline

lemma text_of_outcome {filter : Filter} {refs : Option References} {s : Cursor} {lines : List Text}
    {shown : Line} (h : some shown ∈ outcomes filter refs s lines) :
    ∃ line ∈ lines, shown.text = Text.displayForm line := by
  induction lines generalizing s with
  | nil => exact absurd h List.not_mem_nil
  | cons line rest ih =>
    rcases List.mem_cons.mp h with hline | hrest
    · obtain ⟨-, -, rfl⟩ := of_step_shown hline.symm
      exact ⟨line, List.mem_cons_self, rfl⟩
    · obtain ⟨other, hother, htext⟩ := ih hrest
      exact ⟨other, List.mem_cons_of_mem line hother, htext⟩

/-- Every line of a listing is a line. -/
lemma isLine_ofText {filter : Filter} {main : Option Text} {t : Text} {shown : Line}
    (h : shown ∈ (Listing.ofText filter main t).lines) : IsLine shown.text := by
  unfold Listing.ofText at h
  cases hbinary : filter.binary with
  | true =>
    rw [hbinary] at h
    obtain ⟨line, hline, hshown⟩ := List.mem_filterMap.mp h
    exact isLine_recordLine? (not_mem_of_mem_splitLines hline) hshown
  | false =>
    rw [hbinary] at h
    simp only [Bool.false_eq_true, if_false] at h
    rw [lines_ofAssembly, List.reduceOption_mem_iff] at h
    obtain ⟨line, hline, htext⟩ := text_of_outcome h
    rw [htext]
    exact isLine_displayForm (not_mem_of_mem_splitLines hline)

lemma splitLines_render {d : Document} (h : ∀ line ∈ d.listing.lines, IsLine line.text) :
    Text.splitLines d.render = d.listing.lines.map Line.render := by
  have hline : ∀ text ∈ d.listing.lines.map Line.render, IsLine text := by
    intro text htext
    obtain ⟨line, hline, rfl⟩ := List.mem_map.mp htext
    exact isLine_render (h line hline)
  have hterminated : d.render =
      (d.listing.lines.map Line.render).flatMap fun text => text ++ ['\n'] := by
    rw [Document.render, List.flatMap_map]
  rw [hterminated, splitLines_terminated fun text htext => (hline text htext).no_newline]
  have hkept : ∀ text ∈ d.listing.lines.map Line.render, Text.dropReturn text = text :=
    fun text htext => dropReturn_eq_self_iff.mpr (hline text htext).no_return
  simpa using List.map_congr_left hkept

/-- The text of a document has exactly the lines of its listing, in order and each as it is shown, so
that every index in the source map denotes the line of the text that was made from the source line. -/
theorem rendered_lines (filter : Filter) (main : Option Text) (source : Path) (t : Text) :
    List.Forall₂ ShownAs (Listing.ofText filter main t).lines
        (Text.splitLines (Document.render ⟨source, Listing.ofText filter main t⟩)) ∧
      ∀ n, ∀ i ∈ (Listing.ofText filter main t).map.indicesOf n, ∃ line text,
        (Listing.ofText filter main t).lines[i]? = some line ∧ line.sourceLine = some n ∧
          (Text.splitLines (Document.render ⟨source, Listing.ofText filter main t⟩))[i]? =
            some text ∧ ShownAs line text := by
  rw [splitLines_render fun line hline => isLine_ofText hline]
  refine ⟨?_, fun n i hi => ?_⟩
  · rw [List.forall₂_map_right_iff]
    exact List.forall₂_same.mpr fun line _ => shownAs_render line
  · obtain ⟨hlt, hstamp⟩ := ((invertsStamps_ofText filter main t).mem_iff n i).mp hi
    refine ⟨_, _, List.getElem?_eq_getElem hlt, hstamp, ?_, shownAs_render _⟩
    rw [List.getElem?_map, List.getElem?_eq_getElem hlt]
    rfl

/-- A record without a text behind its address is a line of its own, also at the end. -/
example : Text.splitLines (Document.render
      ⟨.ofString "/main.c", .ofText { binary := true } none "1139 <main>:\n 1139:\n".toList⟩) =
    ["<00001139> main:".toList, "<00001139> ".toList] := by decide

end AsmExplorer.Proofs
