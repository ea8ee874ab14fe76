import AsmExplorer.Diagnostic
import AsmExplorer.Proofs.KeptLines
import AsmExplorer.Proofs.RenderedLines

/-!
# Reported problems

Problems that are written in either form, one to a line and among other lines, are read back as they
are. The file ends where the position begins, since nothing in the file looks like the beginning of
one: no digit stands behind a colon in it, nor behind a parenthesis in the form that goes on with
one. A line in that form is not taken for one in the other if no digit stands behind a colon in the
message either.
-/

namespace AsmExplorer.Proofs
open Diagnostic

/-! ### Writing problems -/

/-- The words for how bad a problem is. -/
inductive Grade where
  | fatalError
  | error
  | warning
  | note
  deriving DecidableEq, Repr

namespace Grade

def word : Grade → Text
  | fatalError => "fatal error".toList
  | error => "error".toList
  | warning => "warning".toList
  | note => "note".toList

def severity : Grade → Severity
  | fatalError => .error
  | error => .error
  | warning => .warning
  | note => .note

end Grade

/-- No digit stands right behind the character. -/
def NoDigitBehind (c : Char) (t : Text) : Prop :=
  ∀ d, isDigit d = true → ¬[c, d] <:+: t

lemma noDigitBehind_iff {c : Char} {t : Text} :
    (t.all fun d => isDigit d = true → ¬[c, d] <:+: t) = true ↔ NoDigitBehind c t := by
  simp only [List.all_eq_true, decide_eq_true_eq]
  refine ⟨fun h d hd hin => h d ?_ hd hin, fun h d _ => h d⟩
  exact hin.subset (List.mem_cons_of_mem c List.mem_cons_self)

instance (c : Char) (t : Text) : Decidable (NoDigitBehind c t) :=
  decidable_of_iff _ noDigitBehind_iff

/-- A file that a problem can be reported in. -/
structure IsFile (t : Text) : Prop where
  ne_nil : t ≠ []
  no_newline : '\n' ∉ t
  head : ∀ c ∈ t.head?, isBlank c = false
  no_position : NoDigitBehind ':' t

instance (t : Text) : Decidable (IsFile t) :=
  decidable_of_iff (t ≠ [] ∧ '\n' ∉ t ∧ t.head?.any isBlank = false ∧ NoDigitBehind ':' t) <| by
    rw [Option.any_eq_false]
    exact ⟨fun ⟨hne, hline, hhead, hfile⟩ => ⟨hne, hline, hhead, hfile⟩,
      fun h => ⟨h.ne_nil, h.no_newline, h.head, h.no_position⟩⟩

/-- A text on one line without blanks around it. -/
structure IsTrimmed (t : Text) : Prop where
  ne_nil : t ≠ []
  no_newline : '\n' ∉ t
  head : ∀ c ∈ t.head?, isBlank c = false
  last : ∀ c ∈ t.getLast?, isBlank c = false

instance (t : Text) : Decidable (IsTrimmed t) :=
  decidable_of_iff
    (t ≠ [] ∧ '\n' ∉ t ∧ t.head?.any isBlank = false ∧ t.getLast?.any isBlank = false) <| by
    rw [Option.any_eq_false, Option.any_eq_false]
    exact ⟨fun ⟨hne, hline, hhead, hlast⟩ => ⟨hne, hline, hhead, hlast⟩,
      fun h => ⟨h.ne_nil, h.no_newline, h.head, h.last⟩⟩

/-- A problem in the form with colons. -/
structure ColonReport where
  file : Text
  line : Nat
  column : Nat
  grade : Grade
  message : Text
  isFile : IsFile file
  line_lt : line < Nat.pow 2 32
  column_lt : column < Nat.pow 2 32
  message_trimmed : IsTrimmed message

namespace ColonReport

def write (r : ColonReport) : Text :=
  r.file ++ [':'] ++ Text.ofNat r.line ++ [':'] ++ Text.ofNat r.column ++ [':', ' '] ++
    r.grade.word ++ [':', ' '] ++ r.message

def diagnostic (r : ColonReport) : Diagnostic :=
  ⟨r.file, r.line, r.column, r.grade.severity, [], r.message⟩

end ColonReport

/-- A problem in the form with parentheses. -/
structure ParenReport where
  file : Text
  line : Nat
  column : Option Nat
  grade : Grade
  code : Text
  message : Text
  isFile : IsFile file
  file_no_position : NoDigitBehind '(' file
  line_lt : line < Nat.pow 2 32
  column_lt : ∀ n ∈ column, n < Nat.pow 2 32
  code_ne_nil : code ≠ []
  code_word : ∀ c ∈ code, isWord c = true
  message_trimmed : IsTrimmed message
  message_no_position : NoDigitBehind ':' message

namespace ParenReport

def columnText (r : ParenReport) : Text :=
  (r.column.map fun n => ',' :: Text.ofNat n).getD []

def write (r : ParenReport) : Text :=
  r.file ++ ['('] ++ Text.ofNat r.line ++ r.columnText ++ [')', ':', ' '] ++ r.grade.word ++
    [' '] ++ r.code ++ [':', ' '] ++ r.message

/-- A column that is not written is zero. -/
def diagnostic (r : ParenReport) : Diagnostic :=
  ⟨r.file, r.line, r.column.getD 0, r.grade.severity, r.code, r.message⟩

end ParenReport

/-! ### The two forms -/

/-- What follows the file in the form with colons. -/
def colonTail (g : Grade) : List Part :=
  [.text [':'], .many isDigit, .text [':'], .many isDigit, .text [':'], .any isBlank, .text g.word,
    .text [':'], .any isBlank, .many fun _ => true]

/-- The ways to write the column in the form with parentheses. -/
def columnParts : List (List Part) :=
  [[], [.text [','], .many isDigit]]

/-- What follows the file in the form with parentheses. -/
def parenTail (column : List Part) (g : Grade) : List Part :=
  .text ['('] :: .many isDigit :: (column ++ [.text [')'], .text [':'], .any isBlank, .text g.word,
    .many isBlank, .many isWord, .text [':'], .any isBlank, .many fun _ => true])

def IsColonTail (t : Text) : Prop :=
  ∃ g, Begins (colonTail g) t

def IsParenTail (t : Text) : Prop :=
  ∃ g, ∃ column ∈ columnParts, Begins (parenTail column g) t

/-- A line is a file with what follows it in a form. -/
def HasForm (isTail : Text → Prop) (line : Text) : Prop :=
  ∃ file rest, file ≠ [] ∧ line = file ++ rest ∧ isTail rest

/-- A line of what a compiler writes to its error stream. -/
inductive ReportLine where
  | colons (r : ColonReport)
  | parens (r : ParenReport)
  /-- A line that has neither form when the blanks around it are left out. -/
  | other (t : Text) (no_newline : '\n' ∉ t)
    (no_colons : ¬HasForm IsColonTail (Text.trim isBlank t))
    (no_parens : ¬HasForm IsParenTail (Text.trim isBlank t))

namespace ReportLine

def write : ReportLine → Text
  | colons r => r.write
  | parens r => r.write
  | other t _ _ _ => t

def diagnostic? : ReportLine → Option Diagnostic
  | colons r => some r.diagnostic
  | parens r => some r.diagnostic
  | other _ _ _ _ => none

def grade? : ReportLine → Option Grade
  | colons r => some r.grade
  | parens r => some r.grade
  | other _ _ _ _ => none

end ReportLine

/-! ### Characters and numerals -/

lemma isWord_colon : isWord ':' = false := by
  decide

lemma isBlank_of_word {c : Char} (h : isWord c = true) : isBlank c = false := by
  by_contra hblank
  rw [isWord_eq_false_of_isBlank (by simpa using hblank)] at h
  cases h

lemma isDigit_of_ascii {c : Char} (h : isAsciiDigit c = true) : isDigit c = true := by
  have hlow : c.toNat < 0x80 := by
    simp only [isAsciiDigit, Bool.and_eq_true, decide_eq_true_eq, Char.le_def,
      UInt32.le_iff_toNat_le, ← Char.toNat_val] at h ⊢
    have hnine : '9'.val.toNat = 57 := rfl
    omega
  rw [isDigit, if_pos hlow, h]

lemma isAsciiDigit_ofNat (n : Nat) : ∀ c ∈ Text.ofNat n, isAsciiDigit c = true := by
  intro c hc
  have hdigit := Nat.isDigit_of_mem_toDigits (by decide) (by decide) hc
  simp only [Char.isDigit, Bool.and_eq_true, decide_eq_true_eq] at hdigit
  simp only [isAsciiDigit, Bool.and_eq_true, decide_eq_true_eq]
  exact hdigit

lemma ofNat_ne_nil (n : Nat) : Text.ofNat n ≠ [] := Nat.toDigits_ne_nil

lemma position?_ofNat {n : Nat} (h : n < Nat.pow 2 32) : position? (Text.ofNat n) = some n := by
  have hascii : (Text.ofNat n).all isAsciiDigit = true :=
    List.all_eq_true.mpr (isAsciiDigit_ofNat n)
  have hvalue : ofDigits 10 ((Text.ofNat n).map hexDigitValue) = n :=
    value_toDigits (by decide) (by decide) n
  rw [position?, Text.decimal?, if_pos ⟨ofNat_ne_nil n, hascii⟩, hvalue]
  exact if_pos h

lemma digits?_ofNat (n : Nat) {c : Char} (hc : isDigit c = false) (rest : Text) :
    Scan.digits? (Text.ofNat n ++ c :: rest) = some (Text.ofNat n, c :: rest) :=
  run1?_append (ofNat_ne_nil n) (fun d hd => isDigit_of_ascii (isAsciiDigit_ofNat n d hd))
    (by simpa using hc)

/-! ### Reading what follows the file -/

lemma severity?_word (g : Grade) (rest : Text) :
    severity? (g.word ++ rest) = some (g.severity, rest) := by
  cases g <;> rfl

lemma head_word (g : Grade) : ∃ c t, g.word = c :: t ∧ isBlank c = false := by
  cases g <;> exact ⟨_, _, rfl, by decide⟩

lemma blanks_space {t : Text} (h : ∀ c ∈ t.head?, isBlank c = false) :
    Scan.blanks (' ' :: t) = t := by
  rw [Scan.blanks, List.dropWhile_cons_of_pos (by decide), dropWhile_eq_self h]

lemma blanks_word (g : Grade) (rest : Text) :
    Scan.blanks (' ' :: (g.word ++ rest)) = g.word ++ rest := by
  obtain ⟨c, t, hword, hc⟩ := head_word g
  exact blanks_space (by simpa [hword] using hc)

lemma message?_write {message : Text} (h : IsTrimmed message) :
    message? (':' :: ' ' :: message) = some message := by
  have hcolon : Scan.char? ':' (':' :: ' ' :: message) = some (' ' :: message) := rfl
  obtain ⟨c, t, rfl⟩ := List.exists_cons_of_ne_nil h.ne_nil
  simp only [message?, hcolon, blanks_space h.head, Option.bind_eq_bind, Option.bind_some]

lemma colonTail_write (r : ColonReport) :
    ColonTail.read? (':' :: (Text.ofNat r.line ++ ':' :: (Text.ofNat r.column ++ ':' :: ' ' ::
        (r.grade.word ++ ':' :: ' ' :: r.message)))) =
      some ⟨Text.ofNat r.line, Text.ofNat r.column, r.grade.severity, r.message⟩ := by
  have hcolon : ∀ t, Scan.char? ':' (':' :: t) = some t := fun t => rfl
  have hdigit : isDigit ':' = false := by decide
  simp only [ColonTail.read?, hcolon, digits?_ofNat _ hdigit, blanks_word, severity?_word,
    message?_write r.message_trimmed, Option.bind_eq_bind, Option.bind_some, Option.pure_def]

lemma columnPart_write (r : ParenReport) (rest : Text) :
    columnPart (r.columnText ++ ')' :: rest) = (r.column.map Text.ofNat, ')' :: rest) := by
  unfold ParenReport.columnText columnPart
  cases r.column with
  | none => rfl
  | some n =>
    have hcomma : ∀ t, Scan.char? ',' (',' :: t) = some t := fun t => rfl
    simp only [Option.map_some, Option.getD_some, List.cons_append, hcomma, Option.bind_some,
      digits?_ofNat n (by decide : isDigit ')' = false)]

lemma parenTail_write (r : ParenReport) :
    ParenTail.read? ('(' :: (Text.ofNat r.line ++ (r.columnText ++ ')' :: ':' :: ' ' ::
        (r.grade.word ++ ' ' :: (r.code ++ ':' :: ' ' :: r.message))))) =
      some ⟨Text.ofNat r.line, r.column.map Text.ofNat, r.grade.severity, r.code, r.message⟩ := by
  have hopen : ∀ t, Scan.char? '(' ('(' :: t) = some t := fun t => rfl
  have hclose : ∀ t, Scan.char? ')' (')' :: t) = some t := fun t => rfl
  have hcolon : ∀ t, Scan.char? ':' (':' :: t) = some t := fun t => rfl
  have hline : ∀ rest, Scan.digits? (Text.ofNat r.line ++ (r.columnText ++ ')' :: rest)) =
      some (Text.ofNat r.line, r.columnText ++ ')' :: rest) := by
    intro rest
    unfold ParenReport.columnText
    cases r.column with
    | none => exact digits?_ofNat r.line (by decide) rest
    | some n => exact digits?_ofNat r.line (by decide) _
  have hcode : Scan.run1? isWord (r.code ++ ':' :: ' ' :: r.message) =
      some (r.code, ':' :: ' ' :: r.message) :=
    run1?_append r.code_ne_nil r.code_word (by simpa using isWord_colon)
  have hgap : Scan.blanks1? (' ' :: (r.code ++ ':' :: ' ' :: r.message)) =
      some (r.code ++ ':' :: ' ' :: r.message) := by
    obtain ⟨c, code, hcons⟩ := List.exists_cons_of_ne_nil r.code_ne_nil
    have hc : isBlank c = false := isBlank_of_word (r.code_word c (by simp [hcons]))
    have hblank : isBlank ' ' = true := by decide
    have hspace : (Part.many isBlank).Spells [' '] :=
      ⟨List.cons_ne_nil ' ' [], List.forall_mem_singleton.mpr hblank⟩
    exact blanks1?_append hspace (by simpa [hcons] using hc)
  simp only [ParenTail.read?, hopen, hline, columnPart_write, hclose, hcolon, blanks_word,
    severity?_word, hgap, hcode, message?_write r.message_trimmed, Option.bind_eq_bind,
    Option.bind_some, Option.pure_def]

/-! ### What is read has the form -/

lemma word_of_severity {t : Text} {p : Severity × Text} (h : severity? t = some p) :
    ∃ g : Grade, t = g.word ++ p.2 := by
  have hwords : severityWords =
      [Grade.fatalError, .error, .warning, .note].map fun g => (g.word, g.severity) := rfl
  rw [severity?, hwords] at h
  obtain ⟨entry, hentry, hread⟩ := List.exists_of_findSome?_eq_some h
  obtain ⟨g, -, rfl⟩ := List.mem_map.mp hentry
  obtain ⟨rest, hrest, rfl⟩ := Option.map_eq_some_iff.mp hread
  exact ⟨g, Text.eq_append_of_isPrefixOf? hrest⟩

lemma begins_message {t message : Text} (h : message? t = some message) :
    Begins [.text [':'], .any isBlank, .many fun _ => true] t := by
  obtain ⟨rest, hcolon, hrest⟩ := Option.bind_eq_some_iff.mp h
  refine begins_char.mpr ⟨rest, hcolon, rest.takeWhile isBlank, Scan.blanks rest,
    List.takeWhile_append_dropWhile.symm, fun c hc => List.mem_takeWhile_imp hc, ?_⟩
  refine ⟨Scan.blanks rest, [], (List.append_nil _).symm, ⟨?_, fun _ _ => rfl⟩, trivial⟩
  intro hnil
  simp [hnil] at hrest

lemma begins_severity {parts : List Part} {t : Text} {p : Severity × Text}
    (h : severity? (Scan.blanks t) = some p) (hrest : Begins parts p.2) :
    ∃ g : Grade, Begins (.any isBlank :: .text g.word :: parts) t := by
  obtain ⟨g, hword⟩ := word_of_severity h
  exact ⟨g, t.takeWhile isBlank, Scan.blanks t, List.takeWhile_append_dropWhile.symm,
    fun c hc => List.mem_takeWhile_imp hc, g.word, p.2, hword, rfl, hrest⟩

lemma isColonTail_of_read {t : Text} {tail : ColonTail} (h : ColonTail.read? t = some tail) :
    IsColonTail t := by
  simp only [ColonTail.read?, Option.bind_eq_bind, Option.bind_eq_some_iff] at h
  obtain ⟨t1, h1, line, h2, t3, h3, column, h4, t5, h5, severity, h6, message, h7, -⟩ := h
  obtain ⟨g, hg⟩ := begins_severity h6 (begins_message h7)
  have hcolon : ∀ parts, Apart isDigit (.text [':'] :: parts) := fun _ => apart_text (by decide)
  have hcolumn := (begins_digits (hcolon _)).mpr ⟨column, h4, begins_char.mpr ⟨t5, h5, hg⟩⟩
  have hline := (begins_digits (hcolon _)).mpr ⟨line, h2, begins_char.mpr ⟨t3, h3, hcolumn⟩⟩
  exact ⟨g, begins_char.mpr ⟨t1, h1, hline⟩⟩

/-- A column that is read is one way to write it, and the other is to leave it out. -/
lemma begins_column {parts : List Part} {t : Text}
    (h : Begins (.text [')'] :: parts) (columnPart t).2) :
    ∃ column ∈ columnParts, Begins (column ++ .text [')'] :: parts) t := by
  unfold columnPart at h
  split at h
  · next digits rest hread =>
    obtain ⟨t1, h1, h2⟩ := Option.bind_eq_some_iff.mp hread
    have hclose : Apart isDigit (.text [')'] :: parts) := apart_text (by decide)
    refine ⟨_, List.mem_cons_of_mem _ List.mem_cons_self, ?_⟩
    exact begins_char.mpr ⟨t1, h1, (begins_digits hclose).mpr ⟨_, h2, h⟩⟩
  · exact ⟨_, List.mem_cons_self, h⟩

lemma isParenTail_of_read {t : Text} {tail : ParenTail} (h : ParenTail.read? t = some tail) :
    IsParenTail t := by
  simp only [ParenTail.read?, Option.bind_eq_bind, Option.bind_eq_some_iff] at h
  obtain ⟨t1, h1, line, h2, t4, h4, t5, h5, severity, h6, t7, h7, code, h8, message, h9, -⟩ := h
  have hcode : Begins (.many isWord :: [.text [':'], .any isBlank, .many fun _ => true]) t7 := by
    obtain ⟨hne, -, hrest⟩ := run1?_eq_some_iff.mp h8
    rw [begins_many (apart_text (by decide)), ← hrest]
    exact ⟨hne, begins_message h9⟩
  have hgap : Apart isBlank (.many isWord :: [.text [':'], .any isBlank, .many fun _ => true]) := by
    exact apart_many fun _ => isBlank_of_word
  obtain ⟨g, hg⟩ := begins_severity h6 ((begins_blanks1 hgap).mpr ⟨t7, h7, hcode⟩)
  obtain ⟨column, hcolumn, hbehind⟩ :=
    begins_column (begins_char.mpr ⟨t4, h4, begins_char.mpr ⟨t5, h5, hg⟩⟩)
  have hline : Apart isDigit (column ++ .text [')'] :: .text [':'] :: .any isBlank ::
      .text g.word :: .many isBlank :: .many isWord ::
        [.text [':'], .any isBlank, .many fun _ => true]) := by
    simp only [columnParts, List.mem_cons, List.not_mem_nil, or_false] at hcolumn
    rcases hcolumn with rfl | rfl
    · exact apart_text (by decide)
    · exact apart_text (by decide)
  have hwhole := (begins_digits hline).mpr ⟨line, h2, hbehind⟩
  exact ⟨g, column, hcolumn, begins_char.mpr ⟨t1, h1, hwhole⟩⟩

/-! ### The end of the file -/

/-- A text begins with a character and a digit behind it. -/
def OpensPosition (c : Char) (t : Text) : Prop :=
  ∃ d rest, t = c :: d :: rest ∧ isDigit d = true

lemma opens_of_begins {c : Char} {parts : List Part} {t : Text}
    (h : Begins (.text [c] :: .many isDigit :: parts) t) : OpensPosition c t := by
  obtain ⟨_, _, rfl, rfl, digits, rest, rfl, ⟨hne, hdigits⟩, -⟩ := h
  obtain ⟨d, digits, rfl⟩ := List.exists_cons_of_ne_nil hne
  exact ⟨d, digits ++ rest, rfl, hdigits d List.mem_cons_self⟩

lemma opens_of_colonTail {t : Text} (h : IsColonTail t) : OpensPosition ':' t := by
  obtain ⟨g, hbegins⟩ := h
  exact opens_of_begins hbegins

lemma opens_of_parenTail {t : Text} (h : IsParenTail t) : OpensPosition '(' t := by
  obtain ⟨g, column, -, hbegins⟩ := h
  exact opens_of_begins hbegins

section

variable {α : Type} {tail? : Text → Option α} {a : α}

lemma splitBefore?_sound {t file : Text} (h : splitBefore? tail? t = some (file, a)) :
    ∃ rest, t = file ++ rest ∧ tail? rest = some a := by
  induction t generalizing file with
  | nil =>
    obtain ⟨b, hread, heq⟩ := Option.map_eq_some_iff.mp h
    obtain ⟨rfl, rfl⟩ := Prod.mk.inj heq
    exact ⟨[], rfl, hread⟩
  | cons c t ih =>
    rw [splitBefore?] at h
    split at h
    · next b hread =>
      obtain ⟨rfl, rfl⟩ := Prod.mk.inj (Option.some.inj h)
      exact ⟨c :: t, rfl, hread⟩
    · obtain ⟨⟨front, b⟩, hfront, heq⟩ := Option.map_eq_some_iff.mp h
      obtain ⟨rfl, rfl⟩ := Prod.mk.inj heq
      obtain ⟨rest, rfl, hread⟩ := ih hfront
      exact ⟨rest, rfl, hread⟩

lemma splitAfterFirst?_sound {t file : Text} (h : splitAfterFirst? tail? t = some (file, a)) :
    ∃ rest, file ≠ [] ∧ t = file ++ rest ∧ tail? rest = some a := by
  cases t with
  | nil => cases h
  | cons c t =>
    obtain ⟨⟨front, b⟩, hfront, heq⟩ := Option.map_eq_some_iff.mp h
    obtain ⟨rfl, rfl⟩ := Prod.mk.inj heq
    obtain ⟨rest, rfl, hread⟩ := splitBefore?_sound hfront
    exact ⟨rest, List.cons_ne_nil c front, rfl, hread⟩

lemma hasForm_of_split {isTail : Text → Prop} (htail : ∀ t a, tail? t = some a → isTail t)
    {line : Text} {p : Text × α} (h : splitAfterFirst? tail? line = some p) :
    HasForm isTail line := by
  obtain ⟨rest, hne, hline, hread⟩ := splitAfterFirst?_sound h
  exact ⟨p.1, rest, hne, hline, htail _ _ hread⟩

variable {c d : Char} {file rest : Text}

/-- A line in which no position begins has no form. -/
lemma formless_of_noDigitBehind {isTail : Text → Prop} {line : Text}
    (hopens : ∀ t, isTail t → OpensPosition c t) (h : NoDigitBehind c line) :
    ¬HasForm isTail line := by
  rintro ⟨file, rest, -, rfl, htail⟩
  obtain ⟨d, behind, rfl, hd⟩ := hopens rest htail
  exact h d hd ⟨file, behind, by simp⟩

lemma noDigitBehind_cons (h : NoDigitBehind c (d :: file)) : NoDigitBehind c file :=
  fun e he hin => h e he (hin.trans (List.suffix_cons d file).isInfix)

/-- Nothing that begins in the file reads as what follows it. -/
lemma splitBefore?_file (hopens : ∀ t a, tail? t = some a → OpensPosition c t)
    (hc : isDigit c = false) (hfile : NoDigitBehind c file) (hread : tail? (c :: rest) = some a) :
    splitBefore? tail? (file ++ c :: rest) = some (file, a) := by
  induction file with
  | nil =>
    rw [List.nil_append, splitBefore?, hread]
  | cons d file ih =>
    have hnone : tail? (d :: (file ++ c :: rest)) = none := by
      rw [Option.eq_none_iff_forall_ne_some]
      intro b hb
      obtain ⟨e, behind, heq, he⟩ := hopens _ b hb
      obtain ⟨rfl, hbehind⟩ := List.cons.inj heq
      cases file with
      | nil =>
        obtain ⟨rfl, -⟩ := List.cons.inj hbehind
        rw [hc] at he
        cases he
      | cons f file =>
        obtain ⟨rfl, -⟩ := List.cons.inj hbehind
        exact hfile f he ⟨[], file, rfl⟩
    -- what follows cannot be read from here, so the cut lies further on
    rw [List.cons_append, splitBefore?, hnone, ih (noDigitBehind_cons hfile)]
    rfl

lemma splitAfterFirst?_file (hopens : ∀ t a, tail? t = some a → OpensPosition c t)
    (hc : isDigit c = false) (hne : file ≠ []) (hfile : NoDigitBehind c file)
    (hread : tail? (c :: rest) = some a) :
    splitAfterFirst? tail? (file ++ c :: rest) = some (file, a) := by
  obtain ⟨d, file, rfl⟩ := List.exists_cons_of_ne_nil hne
  rw [List.cons_append, splitAfterFirst?,
    splitBefore?_file hopens hc (noDigitBehind_cons hfile) hread]
  rfl

end

/-! ### No digit behind a colon -/

section

variable {c : Char} {s t : Text}

lemma noDigitBehind_of_not_mem (h : c ∉ t) : NoDigitBehind c t :=
  fun _ _ hin => h (hin.subset List.mem_cons_self)

lemma noDigitBehind_append (hs : NoDigitBehind c s) (ht : NoDigitBehind c t)
    (hborder : c ∉ s ∨ ∀ d ∈ t.head?, isDigit d = false) : NoDigitBehind c (s ++ t) := by
  intro d hd hin
  rcases List.infix_append_iff.mp hin with
    hfirst | hsecond | ⟨front, behind, hpair, hfront, hbehind⟩
  · exact hs d hd hfirst
  · exact ht d hd hsecond
  -- the pair begins in the first text and ends in the second one
  · cases front with
    | nil =>
      rw [List.nil_append] at hpair
      exact ht d hd (hpair ▸ hbehind.isInfix)
    | cons e front =>
      obtain ⟨rfl, hrest⟩ := List.cons.inj hpair
      rcases hborder with hmem | hhead
      · exact hmem (hfront.subset List.mem_cons_self)
      · cases front with
        | nil =>
          obtain rfl : [d] = behind := hrest
          obtain ⟨t, rfl⟩ := hbehind
          rw [hhead d rfl] at hd
          cases hd
        | cons f front =>
          obtain ⟨rfl, hnil⟩ := List.cons.inj hrest
          obtain ⟨rfl, rfl⟩ := List.append_eq_nil_iff.mp hnil.symm
          exact hs d hd hfront.isInfix

/-- A colon with a space behind it. -/
lemma noDigitBehind_colon (hs : NoDigitBehind ':' s) (ht : NoDigitBehind ':' t) :
    NoDigitBehind ':' (s ++ ':' :: ' ' :: t) := by
  have hspace : NoDigitBehind ':' ([' '] ++ t) :=
    noDigitBehind_append (noDigitBehind_of_not_mem (by decide)) ht (.inl (by decide))
  have hcolon : NoDigitBehind ':' ([':'] ++ ([' '] ++ t)) :=
    noDigitBehind_append (fun d _ hin => by simpa using hin.length_le) hspace
      (.inr (by simpa using (by decide : isDigit ' ' = false)))
  exact noDigitBehind_append hs hcolon (.inr (by simpa using (by decide : isDigit ':' = false)))

end

lemma not_mem_ofNat {c : Char} (hc : isAsciiDigit c = false) (n : Nat) : c ∉ Text.ofNat n := by
  intro hmem
  rw [isAsciiDigit_ofNat n c hmem] at hc
  cases hc

lemma not_mem_columnText {c : Char} (hc : isAsciiDigit c = false) (hcomma : c ≠ ',')
    (r : ParenReport) : c ∉ r.columnText := by
  unfold ParenReport.columnText
  cases r.column with
  | none => simp
  | some n => simp [hcomma, not_mem_ofNat hc]

lemma not_mem_code {c : Char} (hc : isWord c = false) (r : ParenReport) : c ∉ r.code := by
  intro hmem
  rw [r.code_word c hmem] at hc
  cases hc

lemma noDigitBehind_write (r : ParenReport) : NoDigitBehind ':' r.write := by
  have hline := not_mem_ofNat (by decide : isAsciiDigit ':' = false) r.line
  have hcolumn := not_mem_columnText (by decide : isAsciiDigit ':' = false) (by decide) r
  have hword : ':' ∉ r.grade.word := by cases r.grade <;> decide
  have hposition : ':' ∉ '(' :: (Text.ofNat r.line ++ r.columnText ++ [')']) := by
    simp [hline, hcolumn]
  have hcode : ':' ∉ r.grade.word ++ ' ' :: r.code := by
    simp [hword, not_mem_code isWord_colon]
  have hfile := noDigitBehind_append r.isFile.no_position (noDigitBehind_of_not_mem hposition)
    (.inr (by simpa using (by decide : isDigit '(' = false)))
  have hwhole := noDigitBehind_colon (noDigitBehind_colon hfile (noDigitBehind_of_not_mem hcode))
    r.message_no_position
  simpa [ParenReport.write] using hwhole

/-! ### Reading lines -/

lemma ofColons?_write (r : ColonReport) : ofColons? r.write = some r.diagnostic := by
  have hwrite : r.write = r.file ++ ':' :: (Text.ofNat r.line ++ ':' :: (Text.ofNat r.column ++
      ':' :: ' ' :: (r.grade.word ++ ':' :: ' ' :: r.message))) := by
    simp [ColonReport.write]
  have hsplit := splitAfterFirst?_file
    (fun t tail h => opens_of_colonTail (isColonTail_of_read h)) (by decide) r.isFile.ne_nil
    r.isFile.no_position (colonTail_write r)
  simp only [ofColons?, hwrite, hsplit, position?_ofNat r.line_lt, position?_ofNat r.column_lt,
    Option.bind_eq_bind, Option.bind_some, Option.pure_def, ColonReport.diagnostic]

lemma ofParens?_write (r : ParenReport) : ofParens? r.write = some r.diagnostic := by
  have hwrite : r.write = r.file ++ '(' :: (Text.ofNat r.line ++ (r.columnText ++ ')' :: ':' ::
      ' ' :: (r.grade.word ++ ' ' :: (r.code ++ ':' :: ' ' :: r.message)))) := by
    simp [ParenReport.write]
  have hsplit := splitAfterFirst?_file
    (fun t tail h => opens_of_parenTail (isParenTail_of_read h)) (by decide) r.isFile.ne_nil
    r.file_no_position (parenTail_write r)
  have hcolumn : ((r.column.map Text.ofNat).bind position?).getD 0 = r.column.getD 0 := by
    cases hr : r.column with
    | none => rfl
    | some n => simp [position?_ofNat (r.column_lt n hr)]
  simp only [ofParens?, hwrite, hsplit, position?_ofNat r.line_lt, hcolumn, Option.bind_eq_bind,
    Option.bind_some, Option.pure_def, ParenReport.diagnostic]

lemma ofColons?_of_formless {t : Text} (h : ¬HasForm IsColonTail t) : ofColons? t = none := by
  cases hsplit : splitAfterFirst? ColonTail.read? t with
  | none => simp [ofColons?, hsplit]
  | some p => exact absurd (hasForm_of_split (fun _ _ => isColonTail_of_read) hsplit) h

lemma ofParens?_of_formless {t : Text} (h : ¬HasForm IsParenTail t) : ofParens? t = none := by
  cases hsplit : splitAfterFirst? ParenTail.read? t with
  | none => simp [ofParens?, hsplit]
  | some p => exact absurd (hasForm_of_split (fun _ _ => isParenTail_of_read) hsplit) h

/-- A position in the form with colons needs a digit behind a colon. -/
lemma ofColons?_of_parens (r : ParenReport) : ofColons? r.write = none :=
  ofColons?_of_formless (formless_of_noDigitBehind (fun _ => opens_of_colonTail)
    (noDigitBehind_write r))

lemma trim_of_trimmed {t : Text} (h : IsTrimmed t) : Text.trim isBlank t = t := by
  rw [Text.trim, dropWhile_eq_self h.head, trimEnd_eq_rdropWhile, List.rdropWhile_eq_self_iff]
  intro hne
  simp [h.last _ (List.getLast?_eq_some_getLast hne)]

lemma trimmed_append {file middle message : Text} (hfile : IsFile file) (hmiddle : '\n' ∉ middle)
    (hmessage : IsTrimmed message) : IsTrimmed (file ++ middle ++ message) where
  ne_nil := by simp [hfile.ne_nil]
  no_newline := by simp [hfile.no_newline, hmiddle, hmessage.no_newline]
  head := by
    rw [List.append_assoc, List.head?_append_of_ne_nil _ hfile.ne_nil]
    exact hfile.head
  last := by
    rw [List.getLast?_append_of_ne_nil _ hmessage.ne_nil]
    exact hmessage.last

lemma newline_not_mem_word (g : Grade) : '\n' ∉ g.word := by
  cases g <;> decide

lemma trimmed_colons (r : ColonReport) : IsTrimmed r.write := by
  have hnumeral := not_mem_ofNat (by decide : isAsciiDigit '\n' = false)
  have hmiddle : '\n' ∉ [':'] ++ Text.ofNat r.line ++ [':'] ++ Text.ofNat r.column ++ [':', ' '] ++
      r.grade.word ++ [':', ' '] := by
    simp [hnumeral, newline_not_mem_word]
  simpa [ColonReport.write] using trimmed_append r.isFile hmiddle r.message_trimmed

lemma trimmed_parens (r : ParenReport) : IsTrimmed r.write := by
  have hline := not_mem_ofNat (by decide : isAsciiDigit '\n' = false) r.line
  have hcolumn := not_mem_columnText (by decide : isAsciiDigit '\n' = false) (by decide) r
  have hcode := not_mem_code (by decide : isWord '\n' = false) r
  have hmiddle : '\n' ∉ ['('] ++ Text.ofNat r.line ++ r.columnText ++ [')', ':', ' '] ++
      r.grade.word ++ [' '] ++ r.code ++ [':', ' '] := by
    simp [hline, hcolumn, hcode, newline_not_mem_word]
  simpa [ParenReport.write] using trimmed_append r.isFile hmiddle r.message_trimmed

lemma newline_not_mem_write (l : ReportLine) : '\n' ∉ l.write := by
  cases l with
  | colons r => exact (trimmed_colons r).no_newline
  | parens r => exact (trimmed_parens r).no_newline
  | other t no_newline => exact no_newline

lemma ofLine?_write (l : ReportLine) : ofLine? (Text.trim isBlank l.write) = l.diagnostic? := by
  cases l with
  | colons r =>
    have hread := ofColons?_write r
    rw [ReportLine.write, trim_of_trimmed (trimmed_colons r), ofLine?, hread]
    rfl
  | parens r =>
    have hread := ofParens?_write r
    rw [ReportLine.write, trim_of_trimmed (trimmed_parens r), ofLine?, ofColons?_of_parens, hread]
    rfl
  | other t no_newline no_colons no_parens =>
    rw [ReportLine.write, ofLine?, ofColons?_of_formless no_colons, ofParens?_of_formless no_parens]
    rfl

lemma parse_of_split {output : Text} {lines : List Text} (h : output.splitOn '\n' = lines) :
    parse output = lines.filterMap fun line => ofLine? (Text.trim isBlank line) := by
  have hempty : ∀ line : Text, (if decide (line ≠ []) = true then ofLine? line else none) =
      ofLine? line := by
    intro line
    cases line with
    | nil => rfl
    | cons c line => simp
  rw [parse, h, List.filterMap_filter, List.filterMap_map]
  exact List.filterMap_congr fun line _ => hempty _

lemma parse_join {lines : List Text} (h : ∀ line ∈ lines, '\n' ∉ line) :
    parse (Text.join ['\n'] lines) =
      lines.filterMap fun line => ofLine? (Text.trim isBlank line) := by
  cases lines with
  | nil => rfl
  | cons first rest => exact parse_of_split (List.splitOn_intercalate '\n' h (List.cons_ne_nil _ _))

lemma filterMap_ofLine? (lines : List ReportLine) :
    ((lines.map ReportLine.write).filterMap fun line => ofLine? (Text.trim isBlank line)) =
      lines.filterMap ReportLine.diagnostic? := by
  rw [List.filterMap_map]
  exact List.filterMap_congr fun l _ => ofLine?_write l

/-! ### Counting problems -/

lemma count_severity (lines : List ReportLine) (severity : Severity) :
    (lines.filterMap ReportLine.diagnostic?).countP (fun d => d.severity = severity) =
      lines.countP fun l => l.grade?.any fun g => g.severity = severity := by
  rw [List.countP_filterMap]
  refine List.countP_congr fun l _ => ?_
  cases l with
  | colons r => simp [ReportLine.diagnostic?, ReportLine.grade?, ColonReport.diagnostic]
  | parens r => simp [ReportLine.diagnostic?, ReportLine.grade?, ParenReport.diagnostic]
  | other => simp [ReportLine.diagnostic?, ReportLine.grade?]

lemma severity_error_iff (grade? : Option Grade) :
    (grade?.any fun g => g.severity = .error) =
      decide (grade? = some .fatalError ∨ grade? = some .error) := by
  rcases grade? with _ | _ | _ | _ | _ <;> rfl

lemma severity_warning_iff (grade? : Option Grade) :
    (grade?.any fun g => g.severity = .warning) = decide (grade? = some .warning) := by
  rcases grade? with _ | _ | _ | _ | _ <;> rfl

/-- Reading problems in either form and other lines, with a terminator between the lines or behind
each of them, gives exactly the problems in their order; counted are their errors and warnings. -/
theorem reports_read_back (lines : List ReportLine) :
    parse (Text.join ['\n'] (lines.map ReportLine.write)) = lines.filterMap ReportLine.diagnostic? ∧
      parse (lines.flatMap fun l => l.write ++ ['\n']) = lines.filterMap ReportLine.diagnostic? ∧
      summarize (lines.filterMap ReportLine.diagnostic?) =
        (lines.countP fun l => l.grade? = some .fatalError ∨ l.grade? = some .error,
          lines.countP fun l => l.grade? = some .warning) := by
  have hline : ∀ line ∈ lines.map ReportLine.write, '\n' ∉ line := by
    intro line hline
    obtain ⟨l, -, rfl⟩ := List.mem_map.mp hline
    exact newline_not_mem_write l
  refine ⟨?_, ?_, ?_⟩
  · rw [parse_join hline, filterMap_ofLine?]
  · have hend : ∀ line ∈ lines.map ReportLine.write ++ [[]], '\n' ∉ line := by
      intro line hmem
      rcases List.mem_append.mp hmem with hwritten | hempty
      · exact hline line hwritten
      · simp_all
    have hjoin := flatMap_terminated (lines.map ReportLine.write)
    rw [List.flatMap_map] at hjoin
    rw [hjoin, parse_join hend, List.filterMap_append, filterMap_ofLine?]
    exact List.append_nil _
  · simp only [summarize, count_severity, severity_error_iff, severity_warning_iff]

/-- A problem in a file on a drive. -/
def driveReport (column : Option Nat) (hcolumn : ∀ n ∈ column, n < Nat.pow 2 32) (grade : Grade) :
    ParenReport where
  file := "C:\\x.c".toList
  line := 3
  column := column
  grade := grade
  code := "C1083".toList
  message := "cannot open 'y.h': no such file".toList
  isFile := by decide
  file_no_position := by decide
  line_lt := by decide
  column_lt := hcolumn
  code_ne_nil := by decide
  code_word := List.all_eq_true.mp (by decide)
  message_trimmed := by decide
  message_no_position := by decide

/-- A problem whose message holds a position. -/
def noteReport : ColonReport where
  file := "dir (1)/x.c".toList
  line := 1
  column := 2
  grade := .note
  message := "see y.c:7: error".toList
  isFile := by decide
  line_lt := by decide
  column_lt := by decide
  message_trimmed := by decide

/-- A line in which no position begins. -/
def plainLine (t : Text) (no_newline : '\n' ∉ t)
    (no_colon : NoDigitBehind ':' (Text.trim isBlank t))
    (no_paren : NoDigitBehind '(' (Text.trim isBlank t)) : ReportLine :=
  .other t no_newline (formless_of_noDigitBehind (fun _ => opens_of_colonTail) no_colon)
    (formless_of_noDigitBehind (fun _ => opens_of_parenTail) no_paren)

def mixedLines : List ReportLine :=
  [plainLine "x.c: In function 'main':".toList (by decide) (by decide) (by decide),
    .colons noteReport,
    .parens (driveReport none (by decide) .warning),
    plainLine [] (by decide) (by decide) (by decide),
    .parens (driveReport (some 14) (by decide) .fatalError),
    plainLine "  1 error (fatal)".toList (by decide) (by decide) (by decide)]

def mixedText : Text :=
  ("x.c: In function 'main':\ndir (1)/x.c:1:2: note: see y.c:7: error\n" ++
    "C:\\x.c(3): warning C1083: cannot open 'y.h': no such file\n\n" ++
    "C:\\x.c(3,14): fatal error C1083: cannot open 'y.h': no such file\n" ++
    "  1 error (fatal)\n").toList

def mixedProblems : List Diagnostic :=
  [⟨"dir (1)/x.c".toList, 1, 2, .note, [], "see y.c:7: error".toList⟩,
    ⟨"C:\\x.c".toList, 3, 0, .warning, "C1083".toList, "cannot open 'y.h': no such file".toList⟩,
    ⟨"C:\\x.c".toList, 3, 14, .error, "C1083".toList, "cannot open 'y.h': no such file".toList⟩]

/-- The colon of a drive is part of the file, and a position in a message is none. -/
theorem mixed_reports_read_back :
    parse mixedText = mixedProblems ∧ summarize mixedProblems = (1, 1) := by
  have hwritten : (mixedLines.flatMap fun l => l.write ++ ['\n']) = mixedText := by
    decide +kernel
  have hproblems : mixedLines.filterMap ReportLine.diagnostic? = mixedProblems := rfl
  obtain ⟨-, hread, hcount⟩ := reports_read_back mixedLines
  rw [hwritten, hproblems] at hread
  rw [hproblems] at hcount
  exact ⟨hread, hcount⟩

end AsmExplorer.Proofs
