import AsmExplorer.Compile.Markers
import AsmExplorer.Proofs.LineSplitting

/-!
# Texts without marker lines

The lines that are no markers are joined again without a terminator behind the last one. Reading the
result once more takes an empty line at its end for the end of the line before, and takes a carriage
return at the end of a line for a part of the terminator.
-/

namespace AsmExplorer.Proofs

/-- The lines of a text that are no markers. -/
def unmarkedLines (t : Text) : List Text :=
  (Text.splitLines t).filter fun line => !isMarkerLine line

lemma splitLines_stripMarkerLines (t : Text) :
    Text.splitLines (stripMarkerLines t) =
      Text.dropFinalEmpty ((unmarkedLines t).map Text.dropReturn) :=
  splitLines_join fun _ hline => not_mem_of_mem_splitLines (List.mem_filter.mp hline).1

/-- Reading the text without its marker lines gives its other lines back, but for an empty line at the
end and for carriage returns at the ends of lines. They are all as they were exactly if there are no
such returns and the last one is not empty. -/
theorem lines_of_stripped_text (t : Text) :
    Text.splitLines (stripMarkerLines t) =
        Text.dropFinalEmpty ((unmarkedLines t).map Text.dropReturn) ∧
      (Text.splitLines (stripMarkerLines t) = unmarkedLines t ↔
        (∀ line ∈ unmarkedLines t, line.getLast? ≠ some '\r') ∧
          (unmarkedLines t).getLast? ≠ some []) := by
  refine ⟨splitLines_stripMarkerLines t, ?_⟩
  rw [splitLines_stripMarkerLines]
  generalize unmarkedLines t = lines
  constructor
  · intro h
    -- a line that is lost is missed in the number of lines
    have hall : Text.dropFinalEmpty (lines.map Text.dropReturn) = lines.map Text.dropReturn := by
      rw [dropFinalEmpty_eq_self_iff]
      intro hlast
      have hlength := congrArg List.length h
      rw [Text.dropFinalEmpty, if_pos hlast, List.length_dropLast, List.length_map] at hlength
      have hnil : lines = [] := List.eq_nil_of_length_eq_zero (by omega)
      simp [hnil] at hlast
    rw [hall] at h
    refine ⟨fun line hline => ?_, ?_⟩
    · rw [← dropReturn_eq_self_iff]
      have hsame := List.map_eq_map_iff.mp (h.trans (List.map_id lines).symm)
      exact hsame line hline
    · rw [h] at hall
      exact dropFinalEmpty_eq_self_iff.mp hall
  · rintro ⟨hreturn, hlast⟩
    rw [map_dropReturn hreturn]
    exact dropFinalEmpty_eq_self_iff.mpr hlast

/-- An empty line at the end and a carriage return that is not part of a terminator, which no marker
has to do with. -/
theorem unmarked_line_lost :
    (unmarkedLines "main:\n\n".toList = ["main:".toList, []] ∧
        Text.splitLines (stripMarkerLines "main:\n\n".toList) = ["main:".toList]) ∧
      (unmarkedLines "main:\r\r\nret\n".toList = ["main:\r".toList, "ret".toList] ∧
        Text.splitLines (stripMarkerLines "main:\r\r\nret\n".toList) =
          ["main:".toList, "ret".toList]) := by
  decide

end AsmExplorer.Proofs
