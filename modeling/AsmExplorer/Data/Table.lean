/-!
# Finite tables

A table maps finitely many keys to values. No key occurs twice; the type carries that fact. Each
operation is pinned down by what looking a key up gives afterwards (`get?_insert`, `get?_erase`).
-/

namespace AsmExplorer

variable {κ ν : Type} [DecidableEq κ]

theorem lookup_cons_of_ne {k x : κ} (h : x ≠ k) (v : ν) (rest : List (κ × ν)) :
    ((k, v) :: rest).lookup x = rest.lookup x := by
  rw [List.lookup_cons, beq_eq_false_iff_ne.mpr h]

/-- Where no key occurs twice, looking a key up finds the pair that is there. -/
theorem lookup_eq_some_iff_mem {pairs : List (κ × ν)} (h : (pairs.map Prod.fst).Nodup) {k : κ}
    {v : ν} : pairs.lookup k = some v ↔ (k, v) ∈ pairs := by
  induction pairs with
  | nil => simp
  | cons p rest ih =>
    obtain ⟨k', v'⟩ := p
    obtain ⟨hk', hrest⟩ := List.nodup_cons.mp h
    by_cases hk : k = k'
    · subst hk
      have hnot : (k, v) ∉ rest := fun hm => hk' (List.mem_map.mpr ⟨(k, v), hm, rfl⟩)
      simp [hnot, eq_comm]
    · rw [lookup_cons_of_ne hk, ih hrest]
      simp [hk]

/-- A finite map: pairs of a key and a value, each key at most once, the newest first. -/
structure Table (κ ν : Type) where
  pairs : List (κ × ν)
  nodup : (pairs.map Prod.fst).Nodup

namespace Table

def empty : Table κ ν := ⟨[], by simp⟩

instance : Inhabited (Table κ ν) := ⟨empty⟩

def get? (t : Table κ ν) (k : κ) : Option ν :=
  t.pairs.lookup k

def erase (t : Table κ ν) (k : κ) : Table κ ν :=
  ⟨t.pairs.filter fun p => p.1 ≠ k, by
    have h : ((t.pairs.filter fun p => decide (p.1 ≠ k)).map Prod.fst).Sublist
        (t.pairs.map Prod.fst) := List.Sublist.map _ List.filter_sublist
    exact h.nodup t.nodup⟩

/-- The table with the value at the key, whatever was there before. -/
def insert (t : Table κ ν) (k : κ) (v : ν) : Table κ ν :=
  ⟨(k, v) :: (t.erase k).pairs, by
    rw [List.map_cons, List.nodup_cons]
    refine ⟨?_, (t.erase k).nodup⟩
    intro h
    obtain ⟨p, hp, hk⟩ := List.mem_map.mp h
    have hne : p.1 ≠ k := by simpa using (List.mem_filter.mp hp).2
    exact hne hk⟩

def size (t : Table κ ν) : Nat :=
  t.pairs.length

def keys (t : Table κ ν) : List κ :=
  t.pairs.map Prod.fst

def values (t : Table κ ν) : List ν :=
  t.pairs.map Prod.snd

def isEmpty (t : Table κ ν) : Bool :=
  t.pairs.isEmpty

@[simp] theorem get?_empty (k : κ) : (empty : Table κ ν).get? k = none := rfl

theorem get?_erase (t : Table κ ν) (k x : κ) :
    (t.erase k).get? x = if x = k then none else t.get? x := by
  obtain ⟨pairs, hnodup⟩ := t
  simp only [get?, erase]
  clear hnodup
  induction pairs with
  | nil => simp
  | cons p rest ih =>
    obtain ⟨k', v'⟩ := p
    by_cases hk : k' = k
    · subst hk
      rw [List.filter_cons_of_neg (by simp), ih, List.lookup_cons]
      by_cases hx : x = k'
      · simp [hx]
      · simp [hx, beq_eq_false_iff_ne.mpr hx]
    · rw [List.filter_cons_of_pos (by simp [hk]), List.lookup_cons, List.lookup_cons, ih]
      by_cases hx : x = k'
      · subst hx
        simp [hk]
      · simp [beq_eq_false_iff_ne.mpr hx]

theorem get?_insert (t : Table κ ν) (k x : κ) (v : ν) :
    (t.insert k v).get? x = if x = k then some v else t.get? x := by
  have h : (t.insert k v).get? x = if x = k then some v else (t.erase k).get? x := by
    simp only [get?, insert, List.lookup_cons]
    by_cases hx : x = k
    · simp [hx]
    · simp [hx, beq_eq_false_iff_ne.mpr hx]
  rw [h, get?_erase]
  by_cases hx : x = k
  · simp [hx]
  · simp [hx]

theorem mem_pairs_iff {t : Table κ ν} {k : κ} {v : ν} : (k, v) ∈ t.pairs ↔ t.get? k = some v :=
  (lookup_eq_some_iff_mem t.nodup).symm

theorem mem_values_iff {t : Table κ ν} {v : ν} : v ∈ t.values ↔ ∃ k, t.get? k = some v := by
  constructor
  · intro h
    obtain ⟨⟨k, v⟩, hp, rfl⟩ := List.mem_map.mp h
    exact ⟨k, mem_pairs_iff.mp hp⟩
  · rintro ⟨k, h⟩
    exact List.mem_map.mpr ⟨(k, v), mem_pairs_iff.mpr h, rfl⟩

end Table

end AsmExplorer
