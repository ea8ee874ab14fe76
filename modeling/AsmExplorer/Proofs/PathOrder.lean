import AsmExplorer.Path.Basic
import Mathlib.Data.List.Basic
import Mathlib.Tactic.Lemma

/-!
# The order of paths

Paths are compared component by component, components by their kind, and names by their characters.
Each of these orders is the order of lists of numbers that stand for what is compared, and has its
laws from there.
-/

namespace AsmExplorer.Proofs

/-- The numbers that the order of components goes by. -/
def componentCode : Component → List Nat
  | .name n => 3 :: n.map Char.toNat
  | c => [c.rank]

lemma componentCode_injective : Function.Injective componentCode := by
  have hname : Function.Injective (List.map Char.toNat) :=
    List.map_injective_iff.mpr fun _ _ h => Char.toNat_inj.mp h
  intro a b h
  cases a with
  | name m =>
    cases b with
    | name n => rw [hname (List.cons.inj h).2]
    | _ => simp [componentCode, Component.rank] at h
  | _ => cases b <;> simp [componentCode, Component.rank] at h ⊢

lemma compare_text (s t : Text) :
    Text.compare s t = Ord.compare (s.map Char.toNat) (t.map Char.toNat) := by
  induction s generalizing t with
  | nil => cases t <;> rfl
  | cons a s ih =>
    cases t with
    | nil => rfl
    | cons b t => rw [Text.compare, ih, List.map_cons, List.map_cons, List.compare_cons_cons]

lemma compare_component (a b : Component) :
    a.compare b = Ord.compare (componentCode a) (componentCode b) := by
  cases a with
  | name m =>
    cases b with
    | name n =>
      have hrank : Ord.compare 3 3 = Ordering.eq := rfl
      simp only [Component.compare, componentCode, compare_text, List.compare_cons_cons, hrank,
        Ordering.then]
    | _ => rfl
  | _ => cases b <;> rfl

lemma compareComponents_eq (s t : List Component) :
    compareComponents s t = Ord.compare (s.map componentCode) (t.map componentCode) := by
  induction s generalizing t with
  | nil => cases t <;> rfl
  | cons a s ih =>
    cases t with
    | nil => rfl
    | cons b t =>
      rw [compareComponents, ih, compare_component, List.map_cons, List.map_cons,
        List.compare_cons_cons]

lemma compare_path (p q : Path) :
    p.compare q = Ord.compare (p.key.map componentCode) (q.key.map componentCode) :=
  compareComponents_eq p.key q.key

instance transCmp_path : Std.TransCmp Path.compare where
  eq_swap := by
    intro p q
    rw [compare_path, compare_path]
    exact Std.OrientedCmp.eq_swap
  isLE_trans := by
    intro p q r hpq hqr
    rw [compare_path] at hpq hqr ⊢
    exact Std.TransCmp.isLE_trans hpq hqr

/-- Two paths are equal in the order if they have the same components, however they are spelled. -/
lemma compare_eq_iff {p q : Path} : p.compare q = .eq ↔ p.key = q.key := by
  rw [compare_path, Std.LawfulEqCmp.compare_eq_iff_eq]
  exact (List.map_injective_iff.mpr componentCode_injective).eq_iff

lemma compare_eq_lt {p q : Path} (hle : (p.compare q).isLE) (hne : p.key ≠ q.key) :
    p.compare q = .lt := by
  cases h : p.compare q with
  | lt => rfl
  | eq => exact absurd (compare_eq_iff.mp h) hne
  | gt => simp [h] at hle

/-- Different paths stand in strictly ascending order once they are sorted. -/
lemma ascending_mergeSort {ps : List Path} (h : (ps.map Path.key).Nodup) :
    (ps.mergeSort fun p q => (p.compare q).isLE).Pairwise fun p q => p.compare q = .lt := by
  have hsorted : (ps.mergeSort fun p q => (p.compare q).isLE).Pairwise
      fun p q => (p.compare q).isLE := by
    apply List.pairwise_mergeSort
    · intro p q r hpq hqr
      exact Std.TransCmp.isLE_trans hpq hqr
    · intro p q
      have hswap : q.compare p = (p.compare q).swap := Std.OrientedCmp.eq_swap
      rw [hswap]
      cases p.compare q <;> rfl
  have hdistinct : ((ps.mergeSort fun p q => (p.compare q).isLE).map Path.key).Nodup :=
    ((List.mergeSort_perm ps _).map Path.key).nodup_iff.mpr h
  exact hsorted.imp₂ (fun p q hle hne => compare_eq_lt hle hne) (List.pairwise_map.mp hdistinct)

end AsmExplorer.Proofs
