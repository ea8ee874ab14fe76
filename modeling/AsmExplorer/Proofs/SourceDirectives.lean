import AsmExplorer.Proofs.KeptLines
import Mathlib.Data.Nat.Digits.Defs

/-!
# Directives about source lines

What a line says about source lines is told here by how it is written, piece by piece: a location, an
entry of the table of stabs, a switch of the section, the end of a function, and an entry of the table
of source files. The readers of a listing find each of them exactly on the lines that are written so.
-/

namespace AsmExplorer.Proofs
open AsmExplorer.Assembly

/-! ### How the directives are written -/

/-- A line is a directive with a name and some operands: blanks, a dot and the name, which ends where
the operands begin. -/
def WritesDirective (line name operands : Text) : Prop :=
  ∃ lead, (Part.any isBlank).Spells lead ∧ line = lead ++ '.' :: (name ++ operands) ∧
    ∀ c ∈ operands.head?, isWord c = false

/-- The number that digits stand for: the one they write in the decimal system. Digits beyond ASCII
and numbers of more than 32 bits count as zero. -/
def numberOf (digits : Text) : Nat :=
  let n := Nat.ofDigits 10 (digits.reverse.map fun c => c.toNat - '0'.toNat)
  if (digits.all fun c => '0' ≤ c && c ≤ '9') ∧ n < Nat.pow 2 32 then n else 0

/-- The operands of `.loc`: the digits of a file and those of a line, whatever follows. -/
def WritesLocation (operands file number : Text) : Prop :=
  ∃ gap between rest, operands = gap ++ (file ++ (between ++ (number ++ rest))) ∧
    (Part.many isBlank).Spells gap ∧ (Part.many isDigit).Spells file ∧
    (Part.many isBlank).Spells between ∧ (Part.many isDigit).Spells number ∧
    ∀ c ∈ rest.head?, isDigit c = false

/-- The operands of `.stabn`: the digits of a code, a zero and the digits of a line, with a comma behind
each of them and blanks around the commas. -/
def WritesStab (operands code number : Text) : Prop :=
  ∃ gap b₁ b₂ b₃ b₄ b₅ rest,
    operands = gap ++ (code ++ (b₁ ++ ',' :: (b₂ ++ '0' :: (b₃ ++ ',' ::
      (b₄ ++ (number ++ (b₅ ++ ',' :: rest))))))) ∧
    (Part.many isBlank).Spells gap ∧ (Part.many isDigit).Spells code ∧
    (Part.many isDigit).Spells number ∧ ∀ b ∈ [b₁, b₂, b₃, b₄, b₅], (Part.any isBlank).Spells b

/-- The directives that switch to a section without naming it in their operands. -/
def knownSwitches : List Text :=
  ["text", "data", "bss", "popsection", "previous"].map String.toList

/-- The directives that switch to the section in their operands. -/
def namedSwitches : List Text :=
  ["section", "pushsection"].map String.toList

/-- The operands of a named switch: the name of a section, with or without a quote in front of it. -/
def NamesSection (operands : Text) : Prop :=
  ∃ gap quote c rest, operands = gap ++ (quote ++ c :: rest) ∧ (Part.many isBlank).Spells gap ∧
    (quote = [] ∨ quote = ['"']) ∧ isBlank c = false ∧ c ≠ '"' ∧ c ≠ ','

/-- A text begins with a name in quotes and goes on with the rest. -/
def BeginsQuoted (t name rest : Text) : Prop :=
  t = '"' :: (name ++ '"' :: rest) ∧ '"' ∉ name

/-- A text begins with blanks and a name in quotes. -/
def GoesOnQuoted (t name : Text) : Prop :=
  ∃ gap quoted rest, t = gap ++ quoted ∧ (Part.many isBlank).Spells gap ∧
    BeginsQuoted quoted name rest

/-- A text gives the path of a file: by itself, or behind a directory. -/
inductive WritesPath (t : Text) : Text → Prop
  | alone {path rest : Text} : BeginsQuoted t path rest → (∀ other, ¬GoesOnQuoted rest other) →
    WritesPath t path
  | behind {dir path rest : Text} : BeginsQuoted t dir rest → GoesOnQuoted rest path →
    WritesPath t path

/-- The number of a file in front of its path, or nothing. -/
inductive WritesIndex : Text → Option Nat → Prop
  | absent : WritesIndex [] none
  | present {digits gap : Text} : (Part.many isDigit).Spells digits → (Part.many isBlank).Spells gap →
    WritesIndex (digits ++ gap) (some (numberOf digits))

/-- The operands of `.file`: a number or none, and a path. -/
def WritesEntry (operands : Text) (index : Option Nat) (path : Text) : Prop :=
  ∃ gap number names, operands = gap ++ (number ++ names) ∧ (Part.many isBlank).Spells gap ∧
    WritesIndex number index ∧ WritesPath names path

/-- A line is an entry of the table of source files. -/
def EntersFile (line : Text) (index : Option Nat) (path : Text) : Prop :=
  ∃ operands, WritesDirective line "file".toList operands ∧ WritesEntry operands index path

/-- What a line says about the source lines of the code from there on. -/
inductive Says (line : Text) : CorrelationEvent → Prop
  | location {operands file number : Text} : WritesDirective line "loc".toList operands →
    WritesLocation operands file number → Says line (.location (numberOf file) (numberOf number))
  | stab {operands number : Text} : WritesDirective line "stabn".toList operands →
    WritesStab operands "68".toList number → Says line (.stab (numberOf number))
  | knownSection {name operands : Text} : name ∈ knownSwitches → WritesDirective line name operands →
    Says line .sectionSwitch
  | namedSection {name operands : Text} : name ∈ namedSwitches → WritesDirective line name operands →
    NamesSection operands → Says line .sectionSwitch
  | functionEnd {operands : Text} : WritesDirective line "cfi_endproc".toList operands →
    Says line .functionEnd

/-! ### Readers -/

section

variable {inClass : Char → Bool} {t taken rest : Text} {c : Char}

lemma head?_dropWhile (inClass : Char → Bool) (t : Text) :
    ∀ c ∈ (t.dropWhile inClass).head?, inClass c = false := by
  intro c hc
  have hstop := List.head?_dropWhile_not inClass t
  rw [hc] at hstop
  exact hstop

lemma run1?_iff : Scan.run1? inClass t = some (taken, rest) ↔
    t = taken ++ rest ∧ (Part.many inClass).Spells taken ∧ ∀ c ∈ rest.head?, inClass c = false := by
  constructor
  · intro h
    obtain ⟨hne, rfl, rfl⟩ := run1?_eq_some_iff.mp h
    exact ⟨List.takeWhile_append_dropWhile.symm, ⟨hne, fun c hc => List.mem_takeWhile_imp hc⟩,
      head?_dropWhile inClass t⟩
  · rintro ⟨rfl, ⟨hne, htaken⟩, hborder⟩
    exact run1?_append hne htaken hborder

lemma blanks_iff : Scan.blanks t = rest ↔
    ∃ gap, t = gap ++ rest ∧ (Part.any isBlank).Spells gap ∧ ∀ c ∈ rest.head?, isBlank c = false := by
  constructor
  · rintro rfl
    exact ⟨_, List.takeWhile_append_dropWhile.symm, fun c hc => List.mem_takeWhile_imp hc,
      head?_dropWhile isBlank t⟩
  · rintro ⟨gap, rfl, hgap, hborder⟩
    rw [Scan.blanks, List.dropWhile_append_of_pos hgap, dropWhile_eq_self hborder]

lemma blanks1?_iff : Scan.blanks1? t = some rest ↔
    ∃ gap, t = gap ++ rest ∧ (Part.many isBlank).Spells gap ∧
      ∀ c ∈ rest.head?, isBlank c = false := by
  constructor
  · intro h
    cases t with
    | nil => cases h
    | cons c t =>
      rw [Scan.blanks1?] at h
      split at h
      · next hc =>
        obtain ⟨gap, rfl, hgap, hborder⟩ := blanks_iff.mp (Option.some.inj h)
        refine ⟨c :: gap, rfl, ⟨List.cons_ne_nil c gap, fun d hd => ?_⟩, hborder⟩
        rcases List.mem_cons.mp hd with rfl | hd
        · exact hc
        · exact hgap d hd
      · cases h
  · rintro ⟨gap, rfl, hgap, hborder⟩
    exact blanks1?_append hgap hborder

lemma char?_iff : Scan.char? c t = some rest ↔ t = c :: rest := by
  cases t with
  | nil => simp [Scan.char?]
  | cons d t =>
    rw [Scan.char?, List.cons.injEq]
    split
    · next hd => simp [hd]
    · next hd => simp [hd]

lemma char?_blanks_iff (hc : isBlank c = false) : Scan.char? c (Scan.blanks t) = some rest ↔
    ∃ gap, t = gap ++ c :: rest ∧ (Part.any isBlank).Spells gap := by
  have hborder : ∀ d ∈ (c :: rest).head?, isBlank d = false := by simpa using hc
  rw [char?_iff, blanks_iff]
  exact exists_congr fun gap => and_congr_right fun _ => and_iff_left hborder

lemma quoted?_iff : Scan.quoted? t = some (taken, rest) ↔ BeginsQuoted t taken rest := by
  constructor
  · intro h
    obtain ⟨inner, hopen, behind, hclose, heq⟩ :
        ∃ inner, Scan.char? '"' t = some inner ∧ ∃ behind,
          Scan.char? '"' (inner.dropWhile (· ≠ '"')) = some behind ∧
            (inner.takeWhile (· ≠ '"'), behind) = (taken, rest) := by
      simpa [Scan.quoted?, Option.bind_eq_some_iff] using h
    obtain ⟨rfl, rfl⟩ := Prod.mk.inj heq
    refine ⟨?_, fun hmem => absurd (List.mem_takeWhile_imp hmem) (by decide)⟩
    rw [← char?_iff.mp hclose, List.takeWhile_append_dropWhile]
    exact char?_iff.mp hopen
  · rintro ⟨rfl, hname⟩
    have hborder : ∀ c ∈ ('"' :: rest).head?, decide (c ≠ '"') = false := by simp
    have htaken : ∀ c ∈ taken, decide (c ≠ '"') = true := by
      intro c hc
      exact decide_eq_true fun h => hname (h ▸ hc)
    have htake : (taken ++ '"' :: rest).takeWhile (· ≠ '"') = taken := by
      rw [takeWhile_append_border hborder, List.takeWhile_eq_self_iff.mpr htaken]
    have hdrop : (taken ++ '"' :: rest).dropWhile (· ≠ '"') = '"' :: rest := by
      rw [List.dropWhile_append_of_pos htaken, dropWhile_eq_self hborder]
    simp only [Scan.quoted?, Scan.char?, if_true, Option.bind_eq_bind, Option.bind_some, htake, hdrop]
    rfl

/-- Behind the dot of a directive stands its name, then its operands. -/
lemma directive_iff {line name operands : Text} (hname : ∀ c ∈ name, isWord c = true) :
    Directive.ofLine? line = some ⟨name, operands⟩ ↔ WritesDirective line name operands := by
  constructor
  · intro h
    unfold Directive.ofLine? at h
    split at h
    · next t hblanks =>
      injection h with h
      injection h with hfront hbehind
      obtain ⟨lead, rfl, hlead, -⟩ := blanks_iff.mp hblanks
      refine ⟨lead, hlead, ?_, hbehind ▸ head?_dropWhile isWord t⟩
      rw [← hfront, ← hbehind, List.takeWhile_append_dropWhile]
    · cases h
  · rintro ⟨lead, hlead, rfl, hborder⟩
    have hblanks : Scan.blanks (lead ++ '.' :: (name ++ operands)) = '.' :: (name ++ operands) :=
      blanks_iff.mpr ⟨lead, rfl, hlead, fun c hc => by
        obtain rfl : '.' = c := by simpa using hc
        decide⟩
    exact directive_of_blanks hblanks hname hborder

/-! ### Numerals -/

lemma ofDigits_eq (base : Nat) (digits : List Nat) :
    ofDigits base digits = Nat.ofDigits base digits.reverse := by
  rw [ofDigits, List.foldl_eq_foldr_reverse, Nat.ofDigits_eq_foldr]
  congr
  funext d n
  rw [Nat.cast_id, Nat.mul_comm, Nat.add_comm]

lemma lineNumeral_eq (digits : Text) : lineNumeral digits = numberOf digits := by
  have hascii : digits.all isAsciiDigit = digits.all fun c => '0' ≤ c && c ≤ '9' := rfl
  rw [lineNumeral, Text.decimal?, numberOf, ← hascii]
  by_cases h : digits.all isAsciiDigit = true
  · have hvalue : digits.map hexDigitValue = digits.map fun c => c.toNat - '0'.toNat := by
      apply List.map_congr_left
      intro c hc
      rw [hexDigitValue, if_pos (List.all_eq_true.mp h c hc)]
    rw [hvalue, ofDigits_eq, ← List.map_reverse]
    by_cases hnil : digits = []
    · subst hnil
      rfl
    · rw [if_pos ⟨hnil, h⟩]
      dsimp only
      by_cases hlt :
          Nat.ofDigits 10 (digits.reverse.map fun c => c.toNat - '0'.toNat) < Nat.pow 2 32
      · rw [if_pos hlt, if_pos ⟨h, hlt⟩]
        rfl
      · rw [if_neg hlt, if_neg fun hd => hlt hd.2]
        rfl
  · rw [if_neg fun hd => h hd.2, if_neg fun hd => h hd.1]
    rfl

/-! ### Operands -/

lemma isBlank_of_border {operands : Text} (h : (Part.many isDigit).Spells operands) (rest : Text) :
    ∀ c ∈ (operands ++ rest).head?, isBlank c = false := by
  obtain ⟨hne, hdigits⟩ := h
  obtain ⟨d, operands, rfl⟩ := List.exists_cons_of_ne_nil hne
  intro c hc
  obtain rfl : d = c := by simpa using hc
  exact isBlank_of_digit (hdigits d List.mem_cons_self)

lemma isDigit_of_border {gap : Text} (h : (Part.many isBlank).Spells gap) (rest : Text) :
    ∀ c ∈ (gap ++ rest).head?, isDigit c = false := by
  obtain ⟨hne, hblanks⟩ := h
  obtain ⟨d, gap, rfl⟩ := List.exists_cons_of_ne_nil hne
  intro c hc
  obtain rfl : d = c := by simpa using hc
  exact isDigit_of_blank (hblanks d List.mem_cons_self)

lemma isDigit_of_comma {gap : Text} (h : (Part.any isBlank).Spells gap) (rest : Text) :
    ∀ c ∈ (gap ++ ',' :: rest).head?, isDigit c = false := by
  cases gap with
  | nil =>
    intro c hc
    obtain rfl : ',' = c := by simpa using hc
    decide
  | cons d gap =>
    have hne : d :: gap ≠ [] := List.cons_ne_nil d gap
    exact isDigit_of_border ⟨hne, h⟩ _

lemma location?_iff {operands : Text} {marker : Marker} :
    Marker.location? operands = some marker ↔
      ∃ file number, WritesLocation operands file number ∧
        .location (numberOf file) (numberOf number) = marker := by
  simp only [Marker.location?, Option.bind_eq_bind, Option.bind_eq_some_iff, Scan.digits?, run1?_iff,
    blanks1?_iff, Prod.exists, lineNumeral_eq, Option.pure_def, Option.some.injEq]
  constructor
  · rintro ⟨_, ⟨gap, rfl, hgap, -⟩, file, _, ⟨rfl, hfile, -⟩, _, ⟨between, rfl, hbetween, -⟩,
      number, rest, ⟨rfl, hnumber, hrest⟩, hmarker⟩
    exact ⟨file, number, ⟨gap, between, rest, rfl, hgap, hfile, hbetween, hnumber, hrest⟩, hmarker⟩
  · rintro ⟨file, number, ⟨gap, between, rest, rfl, hgap, hfile, hbetween, hnumber, hrest⟩, hmarker⟩
    exact ⟨_, ⟨gap, rfl, hgap, isBlank_of_border hfile _⟩,
      file, _, ⟨rfl, hfile, isDigit_of_border hbetween _⟩,
      _, ⟨between, rfl, hbetween, isBlank_of_border hnumber _⟩,
      number, rest, ⟨rfl, hnumber, hrest⟩, hmarker⟩

lemma stab?_iff {operands : Text} {marker : Marker} :
    Marker.stab? operands = some marker ↔
      ∃ code number, WritesStab operands code number ∧
        (if code = "68".toList then .lineStab (numberOf number) else .otherStab) = marker := by
  have hcomma : isBlank ',' = false := by decide
  have hzero : isBlank '0' = false := by decide
  simp only [Marker.stab?, Option.bind_eq_bind, Option.bind_eq_some_iff, Scan.digits?, run1?_iff,
    blanks1?_iff, char?_blanks_iff hcomma, char?_blanks_iff hzero, blanks_iff, Prod.exists,
    lineNumeral_eq, Option.pure_def, Option.some.injEq]
  constructor
  · rintro ⟨_, ⟨gap, rfl, hgap, -⟩, code, _, ⟨rfl, hcode, -⟩, _, ⟨b₁, rfl, h₁⟩, _, ⟨b₂, rfl, h₂⟩, _,
      ⟨b₃, rfl, h₃⟩, number, _, ⟨⟨b₄, rfl, h₄, -⟩, hnumber, -⟩, rest, ⟨b₅, rfl, h₅⟩, hmarker⟩
    refine ⟨code, number, ⟨gap, b₁, b₂, b₃, b₄, b₅, rest, rfl, hgap, hcode, hnumber, ?_⟩, hmarker⟩
    simp [h₁, h₂, h₃, h₄, h₅]
  · rintro ⟨code, number, ⟨gap, b₁, b₂, b₃, b₄, b₅, rest, rfl, hgap, hcode, hnumber, hblank⟩, hmarker⟩
    obtain ⟨h₁, h₂, h₃, h₄, h₅⟩ : _ ∧ _ ∧ _ ∧ _ ∧ _ := by simpa using hblank
    exact ⟨_, ⟨gap, rfl, hgap, isBlank_of_border hcode _⟩,
      code, _, ⟨rfl, hcode, isDigit_of_comma h₁ _⟩,
      _, ⟨b₁, rfl, h₁⟩, _, ⟨b₂, rfl, h₂⟩, _, ⟨b₃, rfl, h₃⟩,
      number, _, ⟨⟨b₄, rfl, h₄, isBlank_of_border hnumber _⟩, hnumber, isDigit_of_comma h₅ _⟩,
      rest, ⟨b₅, rfl, h₅⟩, hmarker⟩

lemma isSectionChar_iff {c : Char} :
    isSectionChar c = true ↔ isBlank c = false ∧ c ≠ '"' ∧ c ≠ ',' := by
  simp [isSectionChar, and_assoc]

lemma namedSection?_iff {operands : Text} :
    (namedSection? operands).isSome ↔ NamesSection operands := by
  simp only [Option.isSome_iff_exists, namedSection?, Option.bind_eq_bind, Option.bind_eq_some_iff,
    run1?_iff, blanks1?_iff, Prod.exists, Option.pure_def, Option.some.injEq]
  constructor
  · rintro ⟨_, t, ⟨gap, rfl, hgap, -⟩, name, rest, ⟨hread, ⟨hne, hname⟩, -⟩, rfl⟩
    obtain ⟨c, name, rfl⟩ := List.exists_cons_of_ne_nil hne
    have hc := isSectionChar_iff.mp (hname c List.mem_cons_self)
    cases hquote : Scan.char? '"' t with
    | none =>
      rw [hquote, Option.getD_none] at hread
      exact ⟨gap, [], c, name ++ rest, congrArg (gap ++ ·) hread, hgap, .inl rfl, hc⟩
    | some behind =>
      rw [hquote, Option.getD_some] at hread
      refine ⟨gap, ['"'], c, name ++ rest, ?_, hgap, .inr rfl, hc⟩
      rw [char?_iff.mp hquote, hread]
      rfl
  · rintro ⟨gap, quote, c, rest, rfl, hgap, hquote, hc⟩
    have hread : (Scan.char? '"' (quote ++ c :: rest)).getD (quote ++ c :: rest) = c :: rest := by
      rcases hquote with rfl | rfl
      · simp [Scan.char?, hc.2.1]
      · simp [Scan.char?]
    have hborder : ∀ d ∈ (quote ++ c :: rest).head?, isBlank d = false := by
      rcases hquote with rfl | rfl
      · simpa using hc.1
      · simp; decide
    have hname : (c :: rest).takeWhile isSectionChar ≠ [] := by
      rw [List.takeWhile_cons_of_pos (isSectionChar_iff.mpr hc)]
      exact List.cons_ne_nil c _
    obtain ⟨⟨name, rest⟩, hrun⟩ :=
      Option.isSome_iff_exists.mp (Option.isSome_of_eq_some (run1?_eq_some_iff.mpr ⟨hname, rfl, rfl⟩))
    refine ⟨name, _, ⟨gap, rfl, hgap, hborder⟩, name, rest, ?_, rfl⟩
    rw [hread]
    exact run1?_iff.mp hrun

lemma quote_of_beginsQuoted {t name rest : Text} (h : BeginsQuoted t name rest) :
    ∀ c ∈ t.head?, c = '"' := by
  intro c hc
  rw [h.1] at hc
  exact (Option.some.inj hc).symm

lemma goesOnQuoted_iff {t name : Text} :
    (∃ rest, (Scan.blanks1? t).bind Scan.quoted? = some (name, rest)) ↔ GoesOnQuoted t name := by
  simp only [Option.bind_eq_some_iff, blanks1?_iff, quoted?_iff]
  constructor
  · rintro ⟨rest, quoted, ⟨gap, rfl, hgap, -⟩, hquoted⟩
    exact ⟨gap, quoted, rest, rfl, hgap, hquoted⟩
  · rintro ⟨gap, quoted, rest, rfl, hgap, hquoted⟩
    have hborder : ∀ c ∈ quoted.head?, isBlank c = false := by
      intro c hc
      rw [quote_of_beginsQuoted hquoted c hc]
      decide
    exact ⟨rest, quoted, ⟨gap, rfl, hgap, hborder⟩, hquoted⟩

/-- The path that is read behind a first name in quotes. -/
lemma writesPath_iff {t path : Text} :
    WritesPath t path ↔ ∃ first rest, BeginsQuoted t first rest ∧
      (((Scan.blanks1? rest).bind Scan.quoted?).map Prod.fst).getD first = path := by
  constructor
  · intro h
    cases h with
    | @alone _ rest hpath hlast =>
      have hnone : (Scan.blanks1? rest).bind Scan.quoted? = none := by
        rw [Option.eq_none_iff_forall_not_mem]
        rintro ⟨other, behind⟩ hmem
        exact hlast other (goesOnQuoted_iff.mp ⟨behind, hmem⟩)
      exact ⟨path, rest, hpath, by rw [hnone]; rfl⟩
    | @behind dir _ rest hdir hpath =>
      obtain ⟨behind, hread⟩ := goesOnQuoted_iff.mpr hpath
      exact ⟨dir, rest, hdir, by rw [hread]; rfl⟩
  · rintro ⟨first, rest, hfirst, rfl⟩
    cases hread : (Scan.blanks1? rest).bind Scan.quoted? with
    | none =>
      refine .alone hfirst fun other hother => ?_
      obtain ⟨behind, hsome⟩ := goesOnQuoted_iff.mpr hother
      rw [hread] at hsome
      cases hsome
    | some p => exact .behind hfirst (goesOnQuoted_iff.mp ⟨p.2, hread⟩)

lemma digits?_eq_none {t : Text} (h : ∀ c ∈ t.head?, isDigit c = false) :
    Scan.digits? t = none := by
  rw [Option.eq_none_iff_forall_not_mem]
  rintro ⟨digits, rest⟩ hmem
  obtain ⟨rfl, ⟨hne, hdigits⟩, -⟩ := run1?_iff.mp hmem
  obtain ⟨d, digits, rfl⟩ := List.exists_cons_of_ne_nil hne
  have hd := hdigits d List.mem_cons_self
  rw [h d rfl] at hd
  cases hd

lemma fileIndex?_iff {t names : Text} {index : Option Nat} (hnames : ∀ c ∈ names.head?, c = '"') :
    fileIndex? t = some (index, names) ↔
      ∃ number, t = number ++ names ∧ WritesIndex number index := by
  have hdigit : ∀ c ∈ names.head?, isDigit c = false := by
    intro c hc
    rw [hnames c hc]
    decide
  have hblank : ∀ c ∈ names.head?, isBlank c = false := by
    intro c hc
    rw [hnames c hc]
    decide
  constructor
  · intro h
    rw [fileIndex?] at h
    split at h
    · next digits rest hread =>
      obtain ⟨rfl, hdigits, -⟩ := run1?_iff.mp hread
      obtain ⟨behind, hbehind, heq⟩ := Option.map_eq_some_iff.mp h
      obtain ⟨rfl, rfl⟩ := Prod.mk.inj heq
      obtain ⟨gap, rfl, hgap, -⟩ := blanks1?_iff.mp hbehind
      rw [lineNumeral_eq]
      exact ⟨digits ++ gap, (List.append_assoc ..).symm, .present hdigits hgap⟩
    · obtain ⟨rfl, rfl⟩ := Prod.mk.inj (Option.some.inj h)
      exact ⟨[], rfl, .absent⟩
  · rintro ⟨number, rfl, hnumber⟩
    cases hnumber with
    | absent =>
      rw [List.nil_append, fileIndex?, digits?_eq_none hdigit]
    | @present digits gap hdigits hgap =>
      have hread : Scan.digits? (digits ++ (gap ++ names)) = some (digits, gap ++ names) :=
        run1?_append hdigits.1 hdigits.2 (isDigit_of_border hgap names)
      rw [List.append_assoc, fileIndex?, hread]
      dsimp only
      rw [blanks1?_append hgap hblank, lineNumeral_eq]
      rfl

lemma entry?_iff {operands : Text} {index : Option Nat} {path : Text} :
    FileEntry.ofOperands? operands = some ⟨index, path⟩ ↔ WritesEntry operands index path := by
  simp only [FileEntry.ofOperands?, Option.bind_eq_bind, Option.bind_eq_some_iff, Option.pure_def,
    quoted?_iff, Prod.exists]
  constructor
  · rintro ⟨t, hblanks, index', names, hindex, first, rest, hfirst, hread⟩
    obtain ⟨rfl, hpath⟩ : index' = index ∧
        (((Scan.blanks1? rest).bind Scan.quoted?).map Prod.fst).getD first = path := by
      cases hsecond : (Scan.blanks1? rest).bind Scan.quoted? <;> simpa [hsecond] using hread
    obtain ⟨gap, rfl, hgap, -⟩ := blanks1?_iff.mp hblanks
    obtain ⟨number, rfl, hnumber⟩ := (fileIndex?_iff (quote_of_beginsQuoted hfirst)).mp hindex
    exact ⟨gap, number, names, rfl, hgap, hnumber, writesPath_iff.mpr ⟨first, rest, hfirst, hpath⟩⟩
  · rintro ⟨gap, number, names, rfl, hgap, hnumber, hpath⟩
    obtain ⟨first, rest, hfirst, hpath⟩ := writesPath_iff.mp hpath
    have hquote := quote_of_beginsQuoted hfirst
    have hborder : ∀ c ∈ (number ++ names).head?, isBlank c = false := by
      cases hnumber with
      | absent =>
        intro c hc
        rw [hquote c hc]
        decide
      | @present digits between hdigits hbetween =>
        rw [List.append_assoc]
        exact isBlank_of_border hdigits _
    refine ⟨_, blanks1?_append hgap hborder, index, names,
      (fileIndex?_iff hquote).mpr ⟨number, rfl, hnumber⟩, first, rest, hfirst, ?_⟩
    rw [← hpath]
    cases (Scan.blanks1? rest).bind Scan.quoted? <;> rfl

end

/-! ### Lines -/

section

variable {line : Text}

lemma fileEntry_iff {index : Option Nat} {path : Text} :
    FileEntry.ofLine? line = some ⟨index, path⟩ ↔ EntersFile line index path := by
  have hname : ∀ c ∈ "file".toList, isWord c = true := List.all_eq_true.mp (by decide)
  rw [FileEntry.ofLine?, Option.bind_eq_bind, Option.bind_eq_some_iff]
  constructor
  · rintro ⟨⟨name, operands⟩, hd, hentry⟩
    split at hentry
    · next hfile =>
      obtain rfl : name = "file".toList := hfile
      exact ⟨operands, (directive_iff hname).mp hd, entry?_iff.mp hentry⟩
    · cases hentry
  · rintro ⟨operands, hd, hentry⟩
    refine ⟨_, (directive_iff hname).mpr hd, ?_⟩
    rw [if_pos rfl]
    exact entry?_iff.mpr hentry

lemma sectionSwitch_isSome_iff : (sectionSwitch? line).isSome ↔ Says line .sectionSwitch := by
  have hword : ∀ name ∈ knownSwitches ++ namedSwitches, name.all isWord = true := by decide
  have hread (d : Directive) :
      (if ["text".toList, "data".toList, "bss".toList].contains d.name then some ('.' :: d.name)
        else if ["section".toList, "pushsection".toList].contains d.name then
          namedSection? d.operands
        else if ["popsection".toList, "previous".toList].contains d.name then some ".text".toList
        else none).isSome ↔
        d.name ∈ knownSwitches ∨ d.name ∈ namedSwitches ∧ NamesSection d.operands := by
    have hknown : knownSwitches =
        ["text".toList, "data".toList, "bss".toList] ++ ["popsection".toList, "previous".toList] := rfl
    have hnamed : namedSwitches = ["section".toList, "pushsection".toList] := rfl
    have hapart : ∀ name ∈ namedSwitches, name ∉ knownSwitches := by decide
    rw [← namedSection?_iff]
    simp only [List.contains_iff_mem, ← hnamed]
    split_ifs with hplain hoperands hback
    · exact iff_of_true rfl (.inl (hknown ▸ List.mem_append_left _ hplain))
    · simp [hoperands, hapart d.name hoperands]
    · exact iff_of_true rfl (.inl (hknown ▸ List.mem_append_right _ hback))
    · have hnone : d.name ∉ knownSwitches := by
        rw [hknown, List.mem_append, not_or]
        exact ⟨hplain, hback⟩
      exact iff_of_false (by simp) (by simp [hnone, hoperands])
  rw [sectionSwitch?, Option.bind_eq_bind, isSome_bind_iff]
  simp only [hread]
  constructor
  · rintro ⟨⟨name, operands⟩, hd, hname | ⟨hname, hoperands⟩⟩
    · have hname' := List.all_eq_true.mp (hword name (List.mem_append_left _ hname))
      exact .knownSection hname ((directive_iff hname').mp hd)
    · have hname' := List.all_eq_true.mp (hword name (List.mem_append_right _ hname))
      exact .namedSection hname ((directive_iff hname').mp hd) hoperands
  · intro h
    cases h with
    | @knownSection name operands hname hd =>
      have hname' := List.all_eq_true.mp (hword name (List.mem_append_left _ hname))
      exact ⟨_, (directive_iff hname').mpr hd, .inl hname⟩
    | @namedSection name operands hname hd hoperands =>
      have hname' := List.all_eq_true.mp (hword name (List.mem_append_right _ hname))
      exact ⟨_, (directive_iff hname').mpr hd, .inr ⟨hname, hoperands⟩⟩

lemma functionEnd_iff : isFunctionEnd line = true ↔ Says line .functionEnd := by
  have hname : ∀ c ∈ "cfi_endproc".toList, isWord c = true := List.all_eq_true.mp (by decide)
  constructor
  · intro h
    obtain ⟨⟨name, operands⟩, hd, rfl⟩ := directive_of_functionEnd h
    exact .functionEnd ((directive_iff hname).mp hd)
  · rintro ⟨⟩
    next operands hd =>
      rw [isFunctionEnd, (directive_iff hname).mpr hd]
      rfl

lemma marker_iff {marker : Marker} : Marker.ofLine? line = some marker ↔
    (∃ operands, WritesDirective line "loc".toList operands ∧
      Marker.location? operands = some marker) ∨
    ∃ operands, WritesDirective line "stabn".toList operands ∧ Marker.stab? operands = some marker := by
  have hloc : ∀ c ∈ "loc".toList, isWord c = true := List.all_eq_true.mp (by decide)
  have hstabn : ∀ c ∈ "stabn".toList, isWord c = true := List.all_eq_true.mp (by decide)
  rw [Marker.ofLine?, Option.bind_eq_bind, Option.bind_eq_some_iff]
  constructor
  · rintro ⟨⟨name, operands⟩, hd, hmarker⟩
    split at hmarker
    · next hname =>
      obtain rfl : name = "loc".toList := hname
      exact .inl ⟨operands, (directive_iff hloc).mp hd, hmarker⟩
    · split at hmarker
      · next hname =>
        obtain rfl : name = "stabn".toList := hname
        exact .inr ⟨operands, (directive_iff hstabn).mp hd, hmarker⟩
      · cases hmarker
  · rintro (⟨operands, hd, hmarker⟩ | ⟨operands, hd, hmarker⟩)
    · exact ⟨_, (directive_iff hloc).mpr hd, (if_pos rfl).trans hmarker⟩
    · have hne : "stabn".toList ≠ "loc".toList := by decide
      exact ⟨_, (directive_iff hstabn).mpr hd, (if_neg hne).trans ((if_pos rfl).trans hmarker)⟩

/-- A line that switches sections is no marker. -/
lemma eventOf_of_sectionSwitch (h : Says line .sectionSwitch) :
    eventOf? line = some .sectionSwitch := by
  have hsome := sectionSwitch_isSome_iff.mpr h
  have hmarker : Marker.ofLine? line = none := by
    by_contra hne
    obtain ⟨marker, hm⟩ := Option.ne_none_iff_exists'.mp hne
    simp [sectionSwitch_of_marker hm] at hsome
  rw [eventOf?, hmarker]
  exact if_pos hsome

/-- A line that ends a function is no marker either, and it switches no section. -/
lemma eventOf_of_functionEnd (h : Says line .functionEnd) :
    eventOf? line = some .functionEnd := by
  have hends := functionEnd_iff.mpr h
  have hmarker : Marker.ofLine? line = none := by
    by_contra hne
    obtain ⟨marker, hm⟩ := Option.ne_none_iff_exists'.mp hne
    obtain ⟨d, hd, hname⟩ := directive_of_marker hm
    obtain ⟨d', hd', hname'⟩ := directive_of_functionEnd hends
    obtain rfl := Option.some.inj (hd.symm.trans hd')
    rw [hname'] at hname
    exact absurd hname (by decide)
  rw [eventOf?, hmarker, sectionSwitch_of_functionEnd hends]
  exact if_pos hends

lemma eventOf_of_written {event : CorrelationEvent} (h : Says line event) :
    eventOf? line = some event := by
  cases h with
  | @location operands file number hd hoperands =>
    have hmarker := marker_iff.mpr (.inl ⟨operands, hd, location?_iff.mpr ⟨_, _, hoperands, rfl⟩⟩)
    rw [eventOf?, hmarker]
  | @stab operands number hd hoperands =>
    have hmarker := marker_iff.mpr (.inr ⟨operands, hd, stab?_iff.mpr ⟨_, _, hoperands, rfl⟩⟩)
    rw [eventOf?, hmarker, if_pos rfl]
  | knownSection hname hd => exact eventOf_of_sectionSwitch (.knownSection hname hd)
  | namedSection hname hd hoperands =>
    exact eventOf_of_sectionSwitch (.namedSection hname hd hoperands)
  | functionEnd hd => exact eventOf_of_functionEnd (.functionEnd hd)

lemma says_of_event {event : CorrelationEvent} (h : eventOf? line = some event) :
    Says line event := by
  rw [eventOf?] at h
  cases hm : Marker.ofLine? line with
  | none =>
    rw [hm] at h
    dsimp only at h
    split at h
    · next hswitch =>
      obtain rfl := Option.some.inj h
      exact sectionSwitch_isSome_iff.mp hswitch
    · split at h
      · next hends =>
        obtain rfl := Option.some.inj h
        exact functionEnd_iff.mp hends
      · cases h
  | some marker =>
    rw [hm] at h
    rcases marker_iff.mp hm with ⟨operands, hd, hmarker⟩ | ⟨operands, hd, hmarker⟩
    · obtain ⟨file, number, hoperands, rfl⟩ := location?_iff.mp hmarker
      obtain rfl := Option.some.inj h
      exact .location hd hoperands
    · obtain ⟨code, number, hoperands, rfl⟩ := stab?_iff.mp hmarker
      by_cases hcode : code = "68".toList
      · rw [if_pos hcode] at h
        obtain rfl := Option.some.inj h
        exact .stab hd (hcode ▸ hoperands)
      · rw [if_neg hcode] at h
        cases h

/-- The reader of events finds on a line exactly what is written there. -/
lemma says_iff {event : CorrelationEvent} : Says line event ↔ eventOf? line = some event :=
  ⟨eventOf_of_written, says_of_event⟩

end

end AsmExplorer.Proofs
