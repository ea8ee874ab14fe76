/-!
# Text

Text is a list of Unicode scalar values, so that reading it is recursion on a list. The operations
here are the ones that the core list library lacks: trimming at the end, searching for a piece and
replacing its first occurrence.
-/

namespace AsmExplorer

/-- Text, as a list of Unicode scalar values. -/
abbrev Text := List Char

namespace Text

/-- The text without the longest tail of characters in the class. -/
def trimEnd (inClass : Char → Bool) (t : Text) : Text :=
  (t.reverse.dropWhile inClass).reverse

/-- The text without the longest tail and the longest head of characters in the class. -/
def trim (inClass : Char → Bool) (t : Text) : Text :=
  trimEnd inClass (t.dropWhile inClass)

/-- Whether `needle` is a contiguous piece of the text. -/
def occursIn (needle : Text) : Text → Bool
  | [] => needle.isEmpty
  | c :: rest => needle.isPrefixOf (c :: rest) || occursIn needle rest

/-- The text before the first occurrence of `needle` and the text after it. -/
def splitAtFirst? (needle : Text) : Text → Option (Text × Text)
  | [] => if needle.isEmpty then some ([], []) else none
  | c :: rest =>
    match needle.isPrefixOf? (c :: rest) with
    | some after => some ([], after)
    | none => (splitAtFirst? needle rest).map fun (before, after) => (c :: before, after)

theorem eq_append_of_isPrefixOf? {needle t after : Text} (h : needle.isPrefixOf? t = some after) :
    t = needle ++ after := by
  induction needle generalizing t with
  | nil =>
    have h : some t = some after := h
    simpa using h
  | cons c needle ih =>
    cases t with
    | nil =>
      have h : none = some after := h
      simp at h
    | cons d t =>
      have h : (if c == d then needle.isPrefixOf? t else none) = some after := h
      split at h
      · next hc => simp [ih h, eq_of_beq hc]
      · simp at h

/-- The parts and the needle between them are the text. -/
theorem eq_append_of_splitAtFirst? {needle t before after : Text}
    (h : splitAtFirst? needle t = some (before, after)) : t = before ++ needle ++ after := by
  induction t generalizing before with
  | nil =>
    simp only [splitAtFirst?] at h
    split at h
    · next hn => simp_all
    · simp at h
  | cons c rest ih =>
    simp only [splitAtFirst?] at h
    split at h
    · next a ha =>
      obtain ⟨rfl, rfl⟩ : [] = before ∧ a = after := by simpa using h
      simpa using eq_append_of_isPrefixOf? ha
    · simp only [Option.map_eq_some_iff, Prod.mk.injEq] at h
      obtain ⟨⟨b, a⟩, hr, rfl, rfl⟩ := h
      simp [ih hr]

/-- The first occurrence of `needle` replaced; a text without one is unchanged. -/
def replaceFirst (needle replacement t : Text) : Text :=
  match splitAtFirst? needle t with
  | some (before, after) => before ++ replacement ++ after
  | none => t

def join (separator : Text) (pieces : List Text) : Text :=
  separator.intercalate pieces

/-- Order by code point, which is also the order of the UTF-8 bytes. -/
def compare : Text → Text → Ordering
  | [], [] => .eq
  | [], _ :: _ => .lt
  | _ :: _, [] => .gt
  | a :: s, b :: t => (Ord.compare a.toNat b.toNat).then (compare s t)

end Text

end AsmExplorer
