import AsmExplorer.Text.Basic
import Mathlib.Data.List.Infix
import Mathlib.Tactic.Lemma

/-!
# First occurrences

Cutting a text at a piece cuts it where the piece stands for the first time, if it stands there at
all. A piece that is set behind a text stands there for the first time, unless it begins earlier
with the end of the text.
-/

namespace AsmExplorer.Proofs

/-- What is before and behind a piece where it stands in a text for the first time. -/
structure FirstAt (needle t before after : Text) : Prop where
  split : t = before ++ needle ++ after
  first : ∀ b a, t = b ++ needle ++ a → before.length ≤ b.length

variable {needle t before after : Text}

lemma occursIn_iff : Text.occursIn needle t = true ↔ needle <:+: t := by
  induction t with
  | nil => simp [Text.occursIn]
  | cons c t ih =>
    rw [Text.occursIn, Bool.or_eq_true, ih, List.isPrefixOf_iff_prefix, List.infix_cons_iff]

lemma firstAt_unique {b a : Text} (h : FirstAt needle t before after) (h' : FirstAt needle t b a) :
    before = b ∧ after = a := by
  have hsplit : before ++ needle ++ after = b ++ needle ++ a := h.split.symm.trans h'.split
  have hlength : before.length = b.length :=
    Nat.le_antisymm (h.first b a h'.split) (h'.first before after h.split)
  rw [List.append_assoc, List.append_assoc] at hsplit
  obtain ⟨hbefore, hbehind⟩ := List.append_inj hsplit hlength
  exact ⟨hbefore, List.append_cancel_left hbehind⟩

lemma not_infix_of_firstAt (hne : needle ≠ []) (h : FirstAt needle t before after) :
    ¬needle <:+: before := by
  rintro ⟨b, a, hbefore⟩
  have hlength := h.first b (a ++ needle ++ after) (by rw [h.split, ← hbefore]; simp)
  have hpos := List.length_pos_iff.mpr hne
  have hsum := congrArg List.length hbefore
  simp only [List.length_append] at hsum
  omega

lemma not_prefix_of_isPrefixOf? (h : needle.isPrefixOf? t = none) : ¬needle <+: t := by
  rintro ⟨rest, hrest⟩
  rw [List.isPrefixOf?_eq_some_iff_append_eq.mpr hrest] at h
  exact absurd h (Option.some_ne_none rest)

lemma firstAt_of_splitAtFirst? (h : Text.splitAtFirst? needle t = some (before, after)) :
    FirstAt needle t before after := by
  refine ⟨Text.eq_append_of_splitAtFirst? h, ?_⟩
  induction t generalizing before with
  | nil =>
    intro b a hsplit
    have hwhole := Text.eq_append_of_splitAtFirst? h
    simp_all
  | cons c t ih =>
    rw [Text.splitAtFirst?] at h
    intro b a hsplit
    split at h
    · simp_all
    · next hfront =>
      obtain ⟨⟨front, behind⟩, hcut, heq⟩ := Option.map_eq_some_iff.mp h
      obtain ⟨rfl, rfl⟩ := Prod.mk.inj heq
      cases b with
      | nil => exact absurd ⟨a, hsplit.symm⟩ (not_prefix_of_isPrefixOf? hfront)
      | cons d b =>
        have hrest : t = b ++ needle ++ a := (List.cons.inj hsplit).2
        exact Nat.succ_le_succ (ih hcut b a hrest)

lemma splitAtFirst?_eq_none_iff : Text.splitAtFirst? needle t = none ↔ ¬needle <:+: t := by
  induction t with
  | nil => simp [Text.splitAtFirst?]
  | cons c t ih =>
    rw [Text.splitAtFirst?, List.infix_cons_iff, not_or]
    split
    · next rest hfront =>
      have hbegins : needle <+: c :: t :=
        ⟨rest, List.isPrefixOf?_eq_some_iff_append_eq.mp hfront⟩
      simp [hbegins]
    · next hfront =>
      rw [Option.map_eq_none_iff, ih]
      simp [not_prefix_of_isPrefixOf? hfront]

lemma splitAtFirst?_eq_some_iff :
    Text.splitAtFirst? needle t = some (before, after) ↔ FirstAt needle t before after := by
  refine ⟨firstAt_of_splitAtFirst?, fun h => ?_⟩
  cases hcut : Text.splitAtFirst? needle t with
  | none => exact absurd ⟨before, after, h.split.symm⟩ (splitAtFirst?_eq_none_iff.mp hcut)
  | some cut =>
    obtain ⟨rfl, rfl⟩ := firstAt_unique (firstAt_of_splitAtFirst? hcut) h
    rfl

/-- An earlier occurrence would end before the last character of the piece that was set. -/
lemma firstAt_append (h : ¬needle <:+: before ++ needle.dropLast) :
    FirstAt needle (before ++ needle ++ after) before after := by
  refine ⟨rfl, fun b a hsplit => ?_⟩
  by_contra hearlier
  have hne : needle ≠ [] := by
    rintro rfl
    exact h List.nil_infix
  have hlong : b ++ needle <+: before ++ needle ++ after := ⟨a, hsplit.symm⟩
  have hshort : before ++ needle.dropLast <+: before ++ needle ++ after :=
    ((List.prefix_append_right_inj before).mpr (List.dropLast_prefix needle)).trans
      (List.prefix_append _ after)
  have hpos := List.length_pos_iff.mpr hne
  have hlength : (b ++ needle).length ≤ (before ++ needle.dropLast).length := by
    simp only [List.length_append, List.length_dropLast]
    omega
  have hwithin := List.prefix_of_prefix_length_le hlong hshort hlength
  exact h ((List.suffix_append b needle).isInfix.trans hwithin.isInfix)

end AsmExplorer.Proofs
