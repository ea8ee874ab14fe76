import AsmExplorer.Proofs.RenderedLines

/-!
# Lines and their endings

A text is written from lines by putting a line feed behind each of them, with or without a carriage
return before it; the last line may go without, if it is not empty. The lines are found again,
whichever endings were chosen, and no other text falls into them, unless it ends in a carriage
return.
-/

namespace AsmExplorer.Proofs

/-- What ends a line. -/
inductive LineEnding where
  | feed
  | returnFeed
  deriving DecidableEq

def LineEnding.text : LineEnding → Text
  | .feed => ['\n']
  | .returnFeed => ['\r', '\n']

/-- A text is written from lines, each with an ending of its own. -/
inductive WrittenFrom : List Text → Text → Prop
  | nil : WrittenFrom [] []
  | unended {line : Text} : line ≠ [] → WrittenFrom [line] line
  | ended (line : Text) (ending : LineEnding) {lines : List Text} {t : Text} :
      WrittenFrom lines t → WrittenFrom (line :: lines) (line ++ ending.text ++ t)

variable {line t : Text} {lines : List Text}

/-! ### One line of a text -/

lemma dropReturn_concat (line : Text) : Text.dropReturn (line ++ ['\r']) = line := by
  rw [Text.dropReturn, if_pos (by simp), List.dropLast_concat]

/-- What is split off at a line feed is the line and perhaps a carriage return. -/
lemma exists_ending (line : Text) :
    ∃ ending : LineEnding, line ++ ['\n'] = Text.dropReturn line ++ ending.text := by
  unfold Text.dropReturn
  split
  · next hlast =>
    refine ⟨.returnFeed, ?_⟩
    have hline := List.dropLast_append_getLast? '\r' hlast
    nth_rewrite 1 [← hline]
    simp [LineEnding.text]
  · exact ⟨.feed, rfl⟩

/-- The lines behind the first one are those of the text behind its line feed. -/
lemma splitLines_cons (h : '\n' ∉ line) (t : Text) :
    Text.splitLines (line ++ '\n' :: t) = Text.dropReturn line :: Text.splitLines t := by
  have hrest : (t.splitOn '\n').map Text.dropReturn ≠ [] := by simp
  obtain ⟨first, rest, hsplit⟩ := List.exists_cons_of_ne_nil hrest
  rw [Text.splitLines, Text.splitLines, List.splitOn_append_cons_self_of_not_mem h, List.map_cons,
    hsplit]
  simp only [Text.dropFinalEmpty, List.getLast?_cons_cons, List.dropLast_cons_cons]
  split <;> rfl

lemma splitLines_ended (h : IsLine line) (ending : LineEnding) (t : Text) :
    Text.splitLines (line ++ ending.text ++ t) = line :: Text.splitLines t := by
  cases ending with
  | feed =>
    have hfeed := splitLines_cons h.no_newline t
    rw [dropReturn_eq_self_iff.mpr h.no_return] at hfeed
    simpa [LineEnding.text] using hfeed
  | returnFeed =>
    have hmem : '\n' ∉ line ++ ['\r'] := by simpa using h.no_newline
    have hreturn := splitLines_cons hmem t
    rw [dropReturn_concat] at hreturn
    simpa [LineEnding.text] using hreturn

lemma splitLines_unended (h : IsLine line) (hne : line ≠ []) : Text.splitLines line = [line] := by
  rw [Text.splitLines, List.splitOn_eq_singleton h.no_newline, List.map_singleton,
    dropReturn_eq_self_iff.mpr h.no_return]
  exact dropFinalEmpty_eq_self_iff.mpr (by simpa using hne)

/-! ### All lines of a text -/

lemma splitLines_of_written (h : WrittenFrom lines t) (hlines : ∀ line ∈ lines, IsLine line) :
    Text.splitLines t = lines := by
  induction h with
  | nil => rfl
  | unended hne => exact splitLines_unended (hlines _ List.mem_cons_self) hne
  | ended line ending _ ih =>
    rw [splitLines_ended (hlines line List.mem_cons_self),
      ih fun other hother => hlines other (List.mem_cons_of_mem line hother)]

lemma no_return_of_written (h : WrittenFrom lines t) (hlines : ∀ line ∈ lines, IsLine line) :
    t.getLast? ≠ some '\r' := by
  induction h with
  | nil => simp
  | unended _ => exact (hlines _ List.mem_cons_self).no_return
  | @ended line ending lines t _ ih =>
    have hrest := ih fun other hother => hlines other (List.mem_cons_of_mem line hother)
    have hending : ending.text.getLast? = some '\n' := by cases ending <;> rfl
    rw [List.getLast?_append, List.getLast?_append, hending]
    cases hlast : t.getLast? with
    | none => simp
    | some c => simpa [hlast] using hrest

/-- A text is written from its lines, unless a carriage return at its end is lost. -/
lemma written_splitLines (h : t.getLast? ≠ some '\r') : WrittenFrom (Text.splitLines t) t := by
  -- the text behind the first line feed is shorter
  induction hlength : t.length using Nat.strong_induction_on generalizing t with
  | _ n ih =>
    by_cases hmem : '\n' ∈ t
    · obtain ⟨line, rest, rfl, hline⟩ := List.eq_append_cons_of_mem hmem
      obtain ⟨ending, hending⟩ := exists_ending line
      have hshort : rest.length < n := by
        rw [← hlength]
        simp only [List.length_append, List.length_cons]
        omega
      have hrest : rest.getLast? ≠ some '\r' := by
        intro hlast
        apply h
        simp [List.getLast?_append, List.getLast?_cons, hlast]
      have hwritten := WrittenFrom.ended (Text.dropReturn line) ending (ih _ hshort hrest rfl)
      rwa [← hending, List.append_assoc, List.singleton_append, ← splitLines_cons hline rest]
        at hwritten
    · by_cases hne : t = []
      · rw [hne]
        exact .nil
      · rw [splitLines_unended ⟨hmem, h⟩ hne]
        exact .unended hne

/-- The lines that a text was written from are found again, and a text that falls into lines was
written from them, unless it ends in a carriage return. -/
theorem writtenFrom_iff_splitLines (hlines : ∀ line ∈ lines, IsLine line) :
    WrittenFrom lines t ↔ Text.splitLines t = lines ∧ t.getLast? ≠ some '\r' := by
  constructor
  · intro h
    exact ⟨splitLines_of_written h hlines, no_return_of_written h hlines⟩
  · rintro ⟨rfl, hlast⟩
    exact written_splitLines hlast

/-- Empty lines are lines too, also at the end. -/
theorem writtenFrom_mixed_endings :
    (∀ line ∈ ["ret".toList, [], ".text".toList, [], []], IsLine line) ∧
      WrittenFrom ["ret".toList, [], ".text".toList, [], []] "ret\r\n\n.text\n\r\n\n".toList ∧
      Text.splitLines "ret\r\n\n.text\n\r\n\n".toList =
        ["ret".toList, [], ".text".toList, [], []] := by
  have hlines : ∀ line ∈ ["ret".toList, [], ".text".toList, [], []], IsLine line := by
    have hplain : ∀ line ∈ ["ret".toList, [], ".text".toList, [], []],
        '\n' ∉ line ∧ line.getLast? ≠ some '\r' := by decide
    exact fun line hline => ⟨(hplain line hline).1, (hplain line hline).2⟩
  have hwritten : WrittenFrom ["ret".toList, [], ".text".toList, [], []]
      "ret\r\n\n.text\n\r\n\n".toList :=
    .ended _ .returnFeed (.ended _ .feed (.ended _ .feed (.ended _ .returnFeed
      (.ended _ .feed .nil))))
  exact ⟨hlines, hwritten, ((writtenFrom_iff_splitLines hlines).mp hwritten).1⟩

end AsmExplorer.Proofs
