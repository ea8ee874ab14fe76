import AsmExplorer.Proofs.SourceMapEntries
import Mathlib.Data.List.Induction
import Mathlib.Data.List.Nodup

/-!
# Indices in the order of insertion

A source map that was filled from the empty one holds what came in and nothing else. Two orders meet
in it: its source lines ascend, in whatever order they came, and the indices of a line stay in the
order in which each of them came in first.
-/

namespace AsmExplorer.Proofs
open AsmExplorer.Assembly AsmExplorer.Assembly.SourceMap

/-- An index that comes in for a source line. -/
structure Insertion where
  line : Nat
  index : Nat

/-- The source map after insertions into the empty one. -/
def filledMap (insertions : List Insertion) : SourceMap :=
  insertions.foldl (fun m i => m.insert i.line i.index) .empty

/-- The indices that came in for a source line, each as often as it did. -/
def indicesFor (n : Nat) (insertions : List Insertion) : List Nat :=
  (insertions.filter fun i => i.line = n).map Insertion.index

/-- What a source map shows of the insertions that filled it. -/
structure Collects (m : SourceMap) (insertions : List Insertion) : Prop where
  indices : ∀ n, m.indicesOf n = (indicesFor n insertions).eraseDups
  entries : m.entries = m.lines.map fun n => (n, m.indicesOf n)
  ascending : m.lines.Pairwise (· < ·)
  lines : ∀ n, n ∈ m.lines ↔ ∃ i ∈ insertions, i.line = n
  size : m.size = (insertions.map Insertion.line).eraseDups.length
  isEmpty : m.isEmpty = true ↔ insertions = []

/-! ### Lists without repetitions -/

section

variable {α : Type} [DecidableEq α]

/-- One more element comes last, unless it was there before. -/
lemma eraseDups_concat (l : List α) (a : α) :
    (l ++ [a]).eraseDups = if a ∈ l then l.eraseDups else l.eraseDups ++ [a] := by
  rw [List.eraseDups_append, List.removeAll]
  split
  · next h => simp [h]
  · next h => simp [h, List.eraseDups_cons]

lemma nodup_eraseDups (l : List α) : l.eraseDups.Nodup := by
  induction l using List.reverseRecOn with
  | nil => simp
  | append_singleton l a ih =>
    rw [eraseDups_concat]
    split
    · exact ih
    · next h =>
      rw [← List.concat_eq_append]
      exact List.Nodup.concat (fun ha => h (List.mem_eraseDups.mp ha)) ih

end

/-! ### One more insertion -/

variable (insertions : List Insertion)

lemma filledMap_concat (i : Insertion) :
    filledMap (insertions ++ [i]) = (filledMap insertions).insert i.line i.index :=
  List.foldl_concat _ _ i insertions

lemma indicesFor_concat (n : Nat) (i : Insertion) :
    indicesFor n (insertions ++ [i]) =
      if i.line = n then indicesFor n insertions ++ [i.index] else indicesFor n insertions := by
  unfold indicesFor
  rw [List.filter_append, List.map_append]
  by_cases h : i.line = n
  · simp [h]
  · simp [h]

lemma addIndex_eraseDups (index : Nat) (indices : List Nat) :
    addIndex index indices.eraseDups = (indices ++ [index]).eraseDups := by
  rw [eraseDups_concat, addIndex]
  simp only [List.mem_eraseDups]

/-! ### All insertions -/

lemma ordered_filledMap : Ordered (filledMap insertions) := by
  induction insertions using List.reverseRecOn with
  | nil => exact ordered_empty
  | append_singleton insertions i ih =>
    rw [filledMap_concat]
    exact ordered_insert ih i.line i.index

lemma indicesOf_filledMap (n : Nat) :
    (filledMap insertions).indicesOf n = (indicesFor n insertions).eraseDups := by
  induction insertions using List.reverseRecOn with
  | nil => rfl
  | append_singleton insertions i ih =>
    rw [filledMap_concat, indicesOf_insert (ordered_filledMap insertions), indicesFor_concat, ih]
    by_cases h : n = i.line
    · rw [if_pos h, if_pos h.symm, addIndex_eraseDups]
    · rw [if_neg h, if_neg (Ne.symm h)]

lemma mem_lines_filledMap (n : Nat) :
    n ∈ (filledMap insertions).lines ↔ n ∈ insertions.map Insertion.line := by
  induction insertions using List.reverseRecOn with
  | nil => rfl
  | append_singleton insertions i ih =>
    rw [filledMap_concat, List.map_append, List.mem_append, ← ih]
    unfold SourceMap.lines SourceMap.insert
    rw [mem_lines_insertEntry]
    simp [or_comm]

/-- A source map is told by its source lines and the indices of each. -/
lemma entries_eq_of_ordered {m : SourceMap} (h : Ordered m) :
    m.entries = m.lines.map fun n => (n, m.indicesOf n) := by
  have hself : ∀ e ∈ m.entries, (e.1, m.indicesOf e.1) = e := fun e he =>
    Prod.ext rfl (indicesOf_of_mem h he)
  calc m.entries = m.entries.map id := (List.map_id _).symm
    _ = m.entries.map fun e => (e.1, m.indicesOf e.1) :=
      List.map_congr_left fun e he => (hself e he).symm
    _ = m.lines.map fun n => (n, m.indicesOf n) := by
      rw [SourceMap.lines, List.map_map]
      rfl

/-- Both lists have each source line once, though in two orders. -/
lemma lines_filledMap_perm :
    (filledMap insertions).lines.Perm (insertions.map Insertion.line).eraseDups := by
  have hascending := (ordered_filledMap insertions).ascending
  rw [List.perm_ext_iff_of_nodup (hascending.imp Nat.ne_of_lt) (nodup_eraseDups _)]
  intro n
  rw [List.mem_eraseDups]
  exact mem_lines_filledMap insertions n

lemma isEmpty_filledMap : (filledMap insertions).isEmpty = true ↔ insertions = [] := by
  rw [isEmpty, List.isEmpty_iff]
  refine ⟨fun h => ?_, fun h => by rw [h]; rfl⟩
  apply List.eq_nil_iff_forall_not_mem.mpr
  intro i hi
  have hline := (mem_lines_filledMap insertions i.line).mpr (List.mem_map_of_mem hi)
  rw [SourceMap.lines, h] at hline
  exact List.not_mem_nil hline

/-- A source map filled from the empty one shows the indices of each line in the order of first
insertion, and the lines in ascending order. -/
theorem filledMap_collects : Collects (filledMap insertions) insertions := by
  have hordered := ordered_filledMap insertions
  have hlines : ∀ n, n ∈ (filledMap insertions).lines ↔ ∃ i ∈ insertions, i.line = n := by
    intro n
    rw [mem_lines_filledMap, List.mem_map]
  have hsize : (filledMap insertions).size = (insertions.map Insertion.line).eraseDups.length := by
    rw [← (lines_filledMap_perm insertions).length_eq]
    exact (List.length_map _).symm
  exact ⟨indicesOf_filledMap insertions, entries_eq_of_ordered hordered, hordered.ascending, hlines,
    hsize, isEmpty_filledMap insertions⟩

example : (filledMap [⟨4, 7⟩, ⟨4, 2⟩, ⟨4, 7⟩, ⟨1, 0⟩]).entries = [(1, [0]), (4, [7, 2])] := rfl

end AsmExplorer.Proofs
