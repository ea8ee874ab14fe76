import AsmExplorer.Proofs.TrailingBlanks

/-!
# Tab stops

Expanding the tabs of a line gives the columns that a device with a tab stop at every eighth column
shows. The column of a character is the number of characters written before it, and only its
remainder by eight counts for the width of a tab; hence what is behind a tab is expanded as at the
start of a line.
-/

namespace AsmExplorer.Proofs

/-- What stands in the columns when a line is typed. A tab is typed as blanks up to the next tab
stop, at least one, and any other character as itself. -/
inductive Typed : Text → Text → Prop
  | nil : Typed [] []
  | char {line out : Text} {c : Char} : c ≠ '\t' → Typed line out → Typed (line ++ [c]) (out ++ [c])
  | tab {line out : Text} {width : Nat} : 1 ≤ width → width ≤ 8 → 8 ∣ out.length + width →
      Typed line out → Typed (line ++ ['\t']) (out ++ List.replicate width ' ')

/-- What a function that expands tabs makes of lines. -/
structure ExpandsTabs (expand : Text → Text) : Prop where
  typed_iff : ∀ line out : Text, Typed line out ↔ out = expand line
  no_tab : ∀ line : Text, '\t' ∉ expand line
  others : ∀ line : Text, (line.filter (· ≠ '\t')).Sublist (expand line)
  tab : ∀ a : Text, ∃ width, 1 ≤ width ∧ width ≤ 8 ∧
    expand (a ++ ['\t']) = expand a ++ List.replicate width ' '
  next : ∀ (a b : Text) (c : Char), c ≠ '\t' →
    (expand (a ++ '\t' :: c :: b))[8 * ((expand a).length / 8 + 1)]? = some c
  behind : ∀ a b : Text, expand (a ++ '\t' :: b) = expand (a ++ ['\t']) ++ expand b
  idempotent : ∀ line : Text, expand (expand line) = expand line

variable {line out : Text}

/-! ### The column -/

/-- The width of a tab that begins in a column. -/
def tabWidth (column : Nat) : Nat :=
  Text.tabStop - column % Text.tabStop

lemma tabWidth_spec (column : Nat) :
    1 ≤ tabWidth column ∧ tabWidth column ≤ 8 ∧ 8 ∣ column + tabWidth column := by
  unfold tabWidth Text.tabStop
  omega

lemma tabWidth_unique {column width : Nat} (hpos : 1 ≤ width) (hle : width ≤ 8)
    (hstop : 8 ∣ column + width) : width = tabWidth column := by
  unfold tabWidth Text.tabStop
  omega

lemma expandTabsFrom_tab (column : Nat) (line : Text) :
    Text.expandTabsFrom column ('\t' :: line) =
      List.replicate (tabWidth column) ' ' ++ Text.expandTabsFrom (column + tabWidth column) line :=
  rfl

lemma expandTabsFrom_char {c : Char} (h : c ≠ '\t') (column : Nat) (line : Text) :
    Text.expandTabsFrom column (c :: line) = c :: Text.expandTabsFrom (column + 1) line :=
  if_neg h

/-- Only the remainder of the column counts. -/
lemma expandTabsFrom_congr {column column' : Nat} (h : column % 8 = column' % 8) (line : Text) :
    Text.expandTabsFrom column line = Text.expandTabsFrom column' line := by
  induction line generalizing column column' with
  | nil => rfl
  | cons c line ih =>
    by_cases hc : c = '\t'
    · have hwidth : tabWidth column = tabWidth column' := by
        unfold tabWidth Text.tabStop
        rw [h]
      have hnext : (column + tabWidth column') % 8 = (column' + tabWidth column') % 8 := by omega
      rw [hc, expandTabsFrom_tab, expandTabsFrom_tab, hwidth, ih hnext]
    · have hnext : (column + 1) % 8 = (column' + 1) % 8 := by omega
      rw [expandTabsFrom_char hc, expandTabsFrom_char hc, ih hnext]

/-- The column is the number of characters that were written. -/
lemma expandTabsFrom_append (column : Nat) (a b : Text) :
    Text.expandTabsFrom column (a ++ b) = Text.expandTabsFrom column a ++
      Text.expandTabsFrom (column + (Text.expandTabsFrom column a).length) b := by
  induction a generalizing column with
  | nil => rfl
  | cons c a ih =>
    rw [List.cons_append]
    by_cases hc : c = '\t'
    · rw [hc, expandTabsFrom_tab, expandTabsFrom_tab, ih, List.append_assoc, List.length_append,
        List.length_replicate, Nat.add_assoc]
    · rw [expandTabsFrom_char hc, expandTabsFrom_char hc, ih, List.cons_append, List.length_cons,
        Nat.add_assoc, Nat.add_comm 1]

/-! ### One more character -/

lemma expandTabs_concat_char {c : Char} (h : c ≠ '\t') (line : Text) :
    Text.expandTabs (line ++ [c]) = Text.expandTabs line ++ [c] := by
  rw [expandTabs_eq, expandTabs_eq, expandTabsFrom_append, expandTabsFrom_char h]
  rfl

lemma expandTabs_concat_tab (line : Text) :
    Text.expandTabs (line ++ ['\t']) = Text.expandTabs line ++
      List.replicate (tabWidth (Text.expandTabs line).length) ' ' := by
  rw [expandTabs_eq, expandTabs_eq, expandTabsFrom_append, expandTabsFrom_tab, Nat.zero_add]
  exact congrArg _ (List.append_nil _)

lemma length_concat_tab (line : Text) :
    (Text.expandTabs (line ++ ['\t'])).length = 8 * ((Text.expandTabs line).length / 8 + 1) := by
  rw [expandTabs_concat_tab, List.length_append, List.length_replicate]
  have hwidth := tabWidth_spec (Text.expandTabs line).length
  omega

/-- Behind a tab the columns count as from the start of a line. -/
lemma expandTabs_behind (a b : Text) :
    Text.expandTabs (a ++ '\t' :: b) = Text.expandTabs (a ++ ['\t']) ++ Text.expandTabs b := by
  -- the tab ends at a tab stop, whose remainder is that of the first column
  have hstop : (0 + (Text.expandTabsFrom 0 (a ++ ['\t'])).length) % 8 = 0 % 8 := by
    rw [← expandTabs_eq, length_concat_tab]
    omega
  rw [List.append_cons, expandTabs_eq, expandTabsFrom_append, expandTabsFrom_congr hstop,
    expandTabs_eq, expandTabs_eq]

lemma expandTabs_of_no_tab (h : '\t' ∉ line) : Text.expandTabs line = line :=
  if_neg h

/-! ### Typing -/

lemma typed_expandTabs (line : Text) : Typed line (Text.expandTabs line) := by
  induction line using List.reverseRecOn with
  | nil => exact .nil
  | append_singleton line c ih =>
    by_cases h : c = '\t'
    · obtain ⟨hpos, hle, hstop⟩ := tabWidth_spec (Text.expandTabs line).length
      rw [h, expandTabs_concat_tab]
      exact .tab hpos hle hstop ih
    · rw [expandTabs_concat_char h]
      exact .char h ih

/-- There is one way to type a line. -/
lemma eq_of_typed (h : Typed line out) : out = Text.expandTabs line := by
  induction h with
  | nil => rfl
  | char hc _ ih => rw [expandTabs_concat_char hc, ih]
  | tab hpos hle hstop _ ih => rw [expandTabs_concat_tab, ← ih, tabWidth_unique hpos hle hstop]

lemma no_tab_of_typed (h : Typed line out) : '\t' ∉ out := by
  induction h with
  | nil => exact List.not_mem_nil
  | char hc _ ih =>
    intro hmem
    rcases List.mem_append.mp hmem with hout | hlast
    · exact ih hout
    · exact hc (List.mem_singleton.mp hlast).symm
  | tab _ _ _ _ ih =>
    intro hmem
    rcases List.mem_append.mp hmem with hout | hblank
    · exact ih hout
    · exact absurd (List.eq_of_mem_replicate hblank) (by decide)

lemma others_of_typed (h : Typed line out) : (line.filter (· ≠ '\t')).Sublist out := by
  induction h with
  | nil => exact List.Sublist.refl []
  | char hc _ ih =>
    rw [List.filter_append, List.filter_singleton]
    simpa [hc] using ih
  | tab _ _ _ _ ih =>
    rw [List.filter_append, List.filter_singleton]
    simpa using ih.trans (List.sublist_append_left _ _)

lemma getElem?_behind {c : Char} (hc : c ≠ '\t') (a b : Text) :
    (Text.expandTabs (a ++ '\t' :: c :: b))[8 * ((Text.expandTabs a).length / 8 + 1)]? =
      some c := by
  rw [expandTabs_behind, ← length_concat_tab, List.getElem?_append_right (Nat.le_refl _),
    Nat.sub_self, expandTabs_eq (c :: b), expandTabsFrom_char hc]
  rfl

/-- Expanding tabs types the line, also by the way that is taken for lines without tabs; what was
typed once stays as it is. -/
theorem expandTabs_expandsTabs :
    ExpandsTabs Text.expandTabs ∧ ∀ line, Text.expandTabs line = Text.expandTabsFrom 0 line := by
  refine ⟨?_, expandTabs_eq⟩
  constructor
  case typed_iff =>
    intro line out
    refine ⟨eq_of_typed, ?_⟩
    rintro rfl
    exact typed_expandTabs line
  case no_tab => exact fun line => no_tab_of_typed (typed_expandTabs line)
  case others => exact fun line => others_of_typed (typed_expandTabs line)
  case tab =>
    intro a
    obtain ⟨hpos, hle, -⟩ := tabWidth_spec (Text.expandTabs a).length
    exact ⟨_, hpos, hle, expandTabs_concat_tab a⟩
  case next => exact fun a b c hc => getElem?_behind hc a b
  case behind => exact expandTabs_behind
  case idempotent =>
    intro line
    exact expandTabs_of_no_tab (no_tab_of_typed (typed_expandTabs line))

/-- A tab that begins at a tab stop takes all eight columns. -/
example : Text.expandTabs "abcdefgh\tx".toList = "abcdefgh        x".toList := by decide

end AsmExplorer.Proofs
