import AsmExplorer.Assembly.SourceMap
import AsmExplorer.Data.Table
import Mathlib.Tactic.Lemma

/-!
# Entries of a source map

A source map keeps its entries as a list whose source lines ascend. Adding an index changes the
entry of one source line, keeps the source lines ascending and leaves no entry without indices.
-/

namespace AsmExplorer.Proofs
open AsmExplorer.Assembly AsmExplorer.Assembly.SourceMap

/-- The source lines of a map ascend, and each has an index. -/
structure Ordered (m : SourceMap) : Prop where
  ascending : m.lines.Pairwise (· < ·)
  inhabited : ∀ e ∈ m.entries, e.2 ≠ []

lemma ordered_empty : Ordered SourceMap.empty :=
  ⟨List.Pairwise.nil, fun _ h => absurd h List.not_mem_nil⟩

lemma mem_addIndex {i index : Nat} {indices : List Nat} :
    i ∈ addIndex index indices ↔ i ∈ indices ∨ i = index := by
  unfold addIndex
  by_cases h : index ∈ indices
  · rw [if_pos h]
    constructor
    · exact Or.inl
    · rintro (hi | rfl)
      · exact hi
      · exact h
  · rw [if_neg h, List.mem_append, List.mem_singleton]

lemma addIndex_ne_nil (index : Nat) (indices : List Nat) : addIndex index indices ≠ [] := by
  have h : index ∈ addIndex index indices := mem_addIndex.mpr (Or.inr rfl)
  exact List.ne_nil_of_mem h

/-- An index above those that are there goes to the end. -/
lemma addIndex_of_lt {index : Nat} {indices : List Nat} (h : ∀ i ∈ indices, i < index) :
    addIndex index indices = indices ++ [index] := by
  have hnot : index ∉ indices := fun hi => Nat.lt_irrefl index (h index hi)
  rw [addIndex, if_neg hnot]

lemma mem_lines_insertEntry {n line index : Nat} {entries : List (Nat × List Nat)} :
    n ∈ (insertEntry line index entries).map Prod.fst ↔ n = line ∨ n ∈ entries.map Prod.fst := by
  induction entries with
  | nil => simp [insertEntry]
  | cons e rest ih =>
    obtain ⟨l, indices⟩ := e
    simp only [insertEntry]
    split
    · simp
    · split
      · next heq => simp [heq]
      · simp only [List.map_cons, List.mem_cons, ih]
        exact or_left_comm

lemma ascending_insertEntry {entries : List (Nat × List Nat)}
    (h : (entries.map Prod.fst).Pairwise (· < ·)) (line index : Nat) :
    ((insertEntry line index entries).map Prod.fst).Pairwise (· < ·) := by
  induction entries with
  | nil => simp [insertEntry]
  | cons e rest ih =>
    obtain ⟨l, indices⟩ := e
    obtain ⟨hl, hrest⟩ := List.pairwise_cons.mp h
    simp only [insertEntry]
    split
    · next hlt =>
      refine List.pairwise_cons.mpr ⟨fun n hn => ?_, h⟩
      rcases List.mem_cons.mp hn with rfl | hn
      · exact hlt
      · exact Nat.lt_trans hlt (hl n hn)
    · next hnlt =>
      split
      · exact h
      · next hne =>
        refine List.pairwise_cons.mpr ⟨fun n hn => ?_, ih hrest⟩
        rcases mem_lines_insertEntry.mp hn with rfl | hn
        · show l < n
          omega
        · exact hl n hn

lemma inhabited_insertEntry {entries : List (Nat × List Nat)} (h : ∀ e ∈ entries, e.2 ≠ [])
    (line index : Nat) : ∀ e ∈ insertEntry line index entries, e.2 ≠ [] := by
  induction entries with
  | nil => simp [insertEntry]
  | cons e rest ih =>
    obtain ⟨l, indices⟩ := e
    have hrest : ∀ e ∈ rest, e.2 ≠ [] := fun e he => h e (List.mem_cons_of_mem _ he)
    simp only [insertEntry]
    split
    · intro e he
      rcases List.mem_cons.mp he with rfl | he
      · exact List.cons_ne_nil _ _
      · exact h e he
    · split
      · intro e he
        rcases List.mem_cons.mp he with rfl | he
        · exact addIndex_ne_nil _ _
        · exact hrest e he
      · intro e he
        rcases List.mem_cons.mp he with rfl | he
        · exact h _ List.mem_cons_self
        · exact ih hrest e he

lemma ordered_insert {m : SourceMap} (h : Ordered m) (line index : Nat) :
    Ordered (m.insert line index) :=
  ⟨ascending_insertEntry h.ascending line index, inhabited_insertEntry h.inhabited line index⟩

lemma lookup_eq_none_of_lt {entries : List (Nat × List Nat)} {n : Nat}
    (h : ∀ l ∈ entries.map Prod.fst, n < l) : entries.lookup n = none := by
  rw [List.lookup_eq_none_iff]
  intro e he
  have hlt : n < e.1 := h e.1 (List.mem_map_of_mem he)
  simp only [bne_iff_ne, ne_eq]
  omega

lemma lookup_insertEntry {entries : List (Nat × List Nat)}
    (h : (entries.map Prod.fst).Pairwise (· < ·)) (line index n : Nat) :
    (insertEntry line index entries).lookup n =
      if n = line then some (addIndex index ((entries.lookup n).getD []))
      else entries.lookup n := by
  induction entries with
  | nil =>
    by_cases hn : n = line
    · simp [insertEntry, hn, addIndex]
    · rw [if_neg hn, insertEntry, lookup_cons_of_ne hn]
  | cons e rest ih =>
    obtain ⟨l, indices⟩ := e
    obtain ⟨hl, hrest⟩ := List.pairwise_cons.mp h
    simp only [insertEntry]
    split
    · next hlt =>
      by_cases hn : n = line
      · have hnone : ((l, indices) :: rest).lookup line = none := by
          apply lookup_eq_none_of_lt
          intro k hk
          rcases List.mem_cons.mp hk with rfl | hk
          · exact hlt
          · exact Nat.lt_trans hlt (hl k hk)
        rw [hn, if_pos rfl, hnone, List.lookup_cons_self]
        rfl
      · rw [if_neg hn, lookup_cons_of_ne hn]
    · next hnlt =>
      split
      · next heq =>
        by_cases hn : n = line
        · simp [hn, heq]
        · rw [if_neg hn, lookup_cons_of_ne (heq ▸ hn), lookup_cons_of_ne (heq ▸ hn)]
      · next hne =>
        by_cases hnl : n = l
        · have hn : n ≠ line := fun h => hne (h ▸ hnl)
          rw [if_neg hn, hnl, List.lookup_cons_self, List.lookup_cons_self]
        · rw [lookup_cons_of_ne hnl, lookup_cons_of_ne hnl, ih hrest]

/-- Adding an index changes what is known of its source line only. -/
lemma indicesOf_insert {m : SourceMap} (h : Ordered m) (line index n : Nat) :
    (m.insert line index).indicesOf n =
      if n = line then addIndex index (m.indicesOf n) else m.indicesOf n := by
  simp only [indicesOf, SourceMap.insert, lookup_insertEntry h.ascending]
  by_cases hn : n = line
  · rw [if_pos hn, if_pos hn, Option.getD_some]
  · rw [if_neg hn, if_neg hn]

/-- The indices of an entry are the indices of its source line. -/
lemma indicesOf_of_mem {m : SourceMap} (h : Ordered m) {e : Nat × List Nat} (he : e ∈ m.entries) :
    m.indicesOf e.1 = e.2 := by
  have hnodup : (m.entries.map Prod.fst).Nodup := h.ascending.imp Nat.ne_of_lt
  rw [indicesOf, (lookup_eq_some_iff_mem hnodup).mpr he, Option.getD_some]

end AsmExplorer.Proofs
