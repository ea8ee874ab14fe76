import AsmExplorer.Proofs.CanonicalPaths
import AsmExplorer.Text.Line
import Mathlib.Tactic.Lemma
import Mathlib.Data.List.Infix

/-!
# Joined lines

What the lines are of a text that was put together from lines. Two things are lost on the way: an
empty line at the end, unless each line has a terminator, and a carriage return at the end of a line.
-/

namespace AsmExplorer.Proofs

section

variable {α : Type} [DecidableEq α] {l : List α} {a b : α}

/-- A carriage return is dropped from a line as an empty line is from a list of them. -/
lemma dropped_eq_self_iff :
    (if l.getLast? = some a then l.dropLast else l) = l ↔ l.getLast? ≠ some a := by
  split
  · next hlast =>
    have hpos : 0 < l.length := by
      cases l with
      | nil => simp at hlast
      | cons _ _ => simp
    refine ⟨fun h => ?_, fun h => absurd hlast h⟩
    have hlength := congrArg List.length h
    rw [List.length_dropLast] at hlength
    omega
  · next hlast => exact ⟨fun _ => hlast, fun _ => rfl⟩

lemma mem_of_mem_dropped (h : b ∈ if l.getLast? = some a then l.dropLast else l) : b ∈ l := by
  split at h
  · exact List.mem_of_mem_dropLast h
  · exact h

end

lemma dropReturn_eq_self_iff {line : Text} :
    Text.dropReturn line = line ↔ line.getLast? ≠ some '\r' :=
  dropped_eq_self_iff

lemma map_dropReturn {lines : List Text}
    (h : ∀ line ∈ lines, line.getLast? ≠ some '\r') : lines.map Text.dropReturn = lines := by
  have hself : ∀ line ∈ lines, Text.dropReturn line = line := fun line hline =>
    dropReturn_eq_self_iff.mpr (h line hline)
  simpa using List.map_congr_left hself

lemma dropFinalEmpty_eq_self_iff {lines : List Text} :
    Text.dropFinalEmpty lines = lines ↔ lines.getLast? ≠ some [] :=
  dropped_eq_self_iff

lemma not_mem_of_mem_splitLines {t line : Text} (h : line ∈ Text.splitLines t) : '\n' ∉ line := by
  obtain ⟨piece, hpiece, rfl⟩ := List.mem_map.mp (mem_of_mem_dropped h)
  exact fun hmem => not_mem_of_mem_splitOn hpiece (mem_of_mem_dropped hmem)

/-- A terminator behind each line is one between them and an empty line at the end. -/
lemma flatMap_terminated (lines : List Text) :
    lines.flatMap (fun line => line ++ ['\n']) = Text.join ['\n'] (lines ++ [[]]) := by
  induction lines with
  | nil => rfl
  | cons first rest ih =>
    rw [List.flatMap_cons, ih, List.cons_append]
    cases rest <;> simp [Text.join, List.intercalate_cons_cons]

section

variable {lines : List Text} (h : ∀ line ∈ lines, '\n' ∉ line)

include h

/-- Lines with terminators between them. -/
lemma splitLines_join :
    Text.splitLines (Text.join ['\n'] lines) =
      Text.dropFinalEmpty (lines.map Text.dropReturn) := by
  cases lines with
  | nil => rfl
  | cons first rest =>
    have hsplit : (Text.join ['\n'] (first :: rest)).splitOn '\n' = first :: rest :=
      List.splitOn_intercalate '\n' h (List.cons_ne_nil first rest)
    rw [Text.splitLines, hsplit]

/-- Lines with a terminator behind each of them. -/
lemma splitLines_terminated :
    Text.splitLines (lines.flatMap fun line => line ++ ['\n']) = lines.map Text.dropReturn := by
  have hempty : ∀ line ∈ lines ++ [[]], '\n' ∉ line := by
    intro line hline
    rcases List.mem_append.mp hline with hmem | hmem
    · exact h line hmem
    · simp_all
  rw [flatMap_terminated, splitLines_join hempty, List.map_append]
  simp [Text.dropFinalEmpty, Text.dropReturn]

end

end AsmExplorer.Proofs
