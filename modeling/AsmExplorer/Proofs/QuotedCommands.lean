import AsmExplorer.Database.Entry
import Mathlib.Tactic.Lemma
import Mathlib.Data.List.Basic

/-!
# Quoted commands

A list of words can be written as one command in many ways: each word as it is, between marks of
either kind, or with a backslash before every character that would not stay, and any blanks between
them. Splitting the command gives the words back, so that an entry with the command and an entry with
the list of words make the same invocation.
-/

namespace AsmExplorer.Proofs
open Command

/-! ### Writing words -/

/-- The characters that do not stay as they are outside of marks. -/
def specialChars : List Char := [' ', '\t', '"', '\'', '\\']

/-- The marks that a word can be written between. -/
inductive Quote where
  | double
  | single
  deriving DecidableEq, Repr

def Quote.mark : Quote → Char
  | .double => '"'
  | .single => '\''

/-- A text with a backslash before each of the given characters. -/
def escape (chars : List Char) (t : Text) : Text :=
  t.flatMap fun c => if c ∈ chars then ['\\', c] else [c]

/-- The ways to write a word. -/
inductive Spelling where
  /-- As it is. -/
  | bare
  /-- Between marks, with a backslash before each such mark and each backslash. -/
  | quoted (q : Quote)
  /-- With a backslash before each special character. -/
  | escaped
  deriving DecidableEq, Repr

def Spelling.write : Spelling → Text → Text
  | .bare, word => word
  | .quoted q, word => q.mark :: (escape ['\\', q.mark] word ++ [q.mark])
  | .escaped, word => escape specialChars word

/-- A word and the way in which it is written. Only a word without special characters can be written
as it is. -/
structure WrittenWord where
  word : Text
  spelling : Spelling
  word_ne_nil : word ≠ []
  bare_plain : spelling = .bare → ∀ c ∈ word, c ∉ specialChars

/-- Spaces and tabs. -/
structure Gap where
  text : Text
  blank : ∀ c ∈ text, c = ' ' ∨ c = '\t'

/-- Words with the gaps that follow them, which are not empty between two words. -/
structure WrittenCommand where
  lead : Gap
  items : List (WrittenWord × Gap)
  separated : ∀ item ∈ items.dropLast, item.2.text ≠ []

namespace WrittenCommand

def words (c : WrittenCommand) : List Text :=
  c.items.map fun item => item.1.word

/-- A word as it is written, with the gap behind it. -/
def itemText (item : WrittenWord × Gap) : Text :=
  item.1.spelling.write item.1.word ++ item.2.text

def text (c : WrittenCommand) : Text :=
  c.lead.text ++ c.items.flatMap itemText

end WrittenCommand

/-! ### Reading words -/

lemma isEscapable_iff (c : Char) : isEscapable c = true ↔ c ∈ specialChars := by
  simp only [isEscapable, specialChars, Bool.or_eq_true, beq_iff_eq, List.mem_cons,
    List.not_mem_nil, or_false]
  tauto

/-- Between the given marks, or outside of any, the character becomes a part of the word. -/
def Joins (quote : Option Char) (c : Char) : Prop :=
  ∀ word, Splitter.takePlain ⟨false, quote, word⟩ c = (⟨false, quote, c :: word⟩, [])

lemma joins_outside {c : Char} (h : c ∉ specialChars) : Joins none c := by
  intro word
  simp only [specialChars, List.mem_cons, List.not_mem_nil, or_false, not_or] at h
  obtain ⟨hspace, htab, hdouble, hsingle, hbackslash⟩ := h
  simp [Splitter.takePlain, hspace, htab, hdouble, hsingle, hbackslash]

lemma joins_between {mark c : Char} (h : c ∉ ['\\', mark]) : Joins (some mark) c := by
  intro word
  simp only [List.mem_cons, List.not_mem_nil, or_false, not_or] at h
  simp [Splitter.takePlain, h.1, h.2]

section

variable {quote : Option Char} {word : Text} {c : Char} (rest : Text)

lemma splitFrom_of_joins (h : Joins quote c) :
    splitFrom ⟨false, quote, word⟩ (c :: rest) = splitFrom ⟨false, quote, c :: word⟩ rest := by
  have htake : Splitter.take ⟨false, quote, word⟩ c = (⟨false, quote, c :: word⟩, []) := h word
  rw [splitFrom, htake, List.nil_append]

lemma splitFrom_backslash (h : c ∈ specialChars) :
    splitFrom ⟨false, quote, word⟩ ('\\' :: c :: rest) =
      splitFrom ⟨false, quote, c :: word⟩ rest := by
  have hescape : Splitter.take ⟨false, quote, word⟩ '\\' = (⟨true, quote, word⟩, []) := by
    simp [Splitter.take, Splitter.takePlain]
  have htake : Splitter.take ⟨true, quote, word⟩ c = (⟨false, quote, c :: word⟩, []) := by
    simp [Splitter.take, (isEscapable_iff c).mpr h]
  rw [splitFrom, hescape, List.nil_append, splitFrom, htake, List.nil_append]

/-- A text whose other characters join the word is taken whole. -/
lemma splitFrom_escape (quote : Option Char) (word : Text) {chars : List Char}
    (hspecial : chars ⊆ specialChars) {t : Text} (hjoins : ∀ c ∈ t, c ∉ chars → Joins quote c) :
    splitFrom ⟨false, quote, word⟩ (escape chars t ++ rest) =
      splitFrom ⟨false, quote, t.reverse ++ word⟩ rest := by
  induction t generalizing word with
  | nil => rfl
  | cons c t ih =>
    have htail := ih (c :: word) fun d hd => hjoins d (List.mem_cons_of_mem c hd)
    have hword : (c :: t).reverse ++ word = t.reverse ++ c :: word := by simp
    rw [hword, ← htail, escape, List.flatMap_cons]
    by_cases hc : c ∈ chars
    · rw [if_pos hc]
      exact splitFrom_backslash _ (hspecial hc)
    · rw [if_neg hc]
      exact splitFrom_of_joins _ (hjoins c List.mem_cons_self hc)

lemma splitFrom_mark (q : Quote) :
    splitFrom ⟨false, none, word⟩ (q.mark :: rest) = splitFrom ⟨false, some q.mark, word⟩ rest ∧
      splitFrom ⟨false, some q.mark, word⟩ (q.mark :: rest) =
        splitFrom ⟨false, none, word⟩ rest := by
  cases q <;> exact ⟨rfl, rfl⟩

end

lemma escape_nil (t : Text) : escape [] t = t := by
  simp [escape]

/-- A written word is read as it is, whatever follows it. -/
lemma splitFrom_written (w : WrittenWord) (rest : Text) :
    splitFrom {} (w.spelling.write w.word ++ rest) =
      splitFrom ⟨false, none, w.word.reverse⟩ rest := by
  obtain ⟨word, spelling, -, hplain⟩ := w
  have hempty : word.reverse = word.reverse ++ [] := (List.append_nil _).symm
  cases spelling with
  | bare =>
    have hread := splitFrom_escape rest none [] (List.nil_subset _)
      fun c hc _ => joins_outside (hplain rfl c hc)
    rw [escape_nil] at hread
    rw [hempty]
    exact hread
  | quoted q =>
    have hspecial : ['\\', q.mark] ⊆ specialChars := by
      cases q <;> decide
    have hread := splitFrom_escape (q.mark :: rest) (some q.mark) [] hspecial (t := word)
      fun c _ hc => joins_between hc
    show splitFrom {} (q.mark :: (escape ['\\', q.mark] word ++ [q.mark]) ++ rest) = _
    rw [List.cons_append, List.append_assoc, List.singleton_append, (splitFrom_mark _ q).1, hread,
      (splitFrom_mark rest q).2, ← hempty]
  | escaped =>
    have hread := splitFrom_escape rest none [] (List.Subset.refl _)
      (t := word) fun c _ hc => joins_outside hc
    rw [hempty]
    exact hread

section

variable {word : Text} {gap : Text} (hgap : ∀ c ∈ gap, c = ' ' ∨ c = '\t')

include hgap

lemma splitFrom_gap (rest : Text) : splitFrom {} (gap ++ rest) = splitFrom {} rest := by
  induction gap with
  | nil => rfl
  | cons c gap ih =>
    rw [← ih fun d hd => hgap d (List.mem_cons_of_mem c hd)]
    rcases hgap c List.mem_cons_self with rfl | rfl <;> rfl

lemma splitFrom_word_gap (word : Text) (hne : gap ≠ []) (rest : Text) :
    splitFrom ⟨false, none, word⟩ (gap ++ rest) = endWord word ++ splitFrom {} rest := by
  obtain ⟨c, gap, rfl⟩ := List.exists_cons_of_ne_nil hne
  rw [← splitFrom_gap (fun d hd => hgap d (List.mem_cons_of_mem c hd)) rest]
  rcases hgap c List.mem_cons_self with rfl | rfl <;> rfl

lemma splitFrom_word_end : splitFrom ⟨false, none, word⟩ gap = endWord word := by
  by_cases hne : gap = []
  · rw [hne]
    rfl
  · have hread := splitFrom_word_gap hgap word hne []
    rw [List.append_nil] at hread
    rw [hread]
    simp [splitFrom, endWord]

end

lemma endWord_reverse {word : Text} (h : word ≠ []) : endWord word.reverse = [word] := by
  simp [endWord, h]

lemma splitFrom_items {items : List (WrittenWord × Gap)}
    (hseparated : ∀ item ∈ items.dropLast, item.2.text ≠ []) :
    splitFrom {} (items.flatMap WrittenCommand.itemText) = items.map fun item => item.1.word := by
  induction items with
  | nil => rfl
  | cons item rest ih =>
    rw [List.flatMap_cons, WrittenCommand.itemText, List.append_assoc, splitFrom_written,
      List.map_cons]
    cases rest with
    | nil =>
      rw [List.flatMap_nil, List.append_nil, splitFrom_word_end item.2.blank,
        endWord_reverse item.1.word_ne_nil]
      rfl
    | cons next rest =>
      have hne : item.2.text ≠ [] := hseparated item List.mem_cons_self
      have htail := ih fun d hd => hseparated d (List.mem_cons_of_mem item hd)
      rw [splitFrom_word_gap item.2.blank _ hne, endWord_reverse item.1.word_ne_nil, htail]
      rfl

lemma splitWords_text (c : WrittenCommand) : splitWords c.text = c.words := by
  rw [splitWords, WrittenCommand.text, splitFrom_gap c.lead.blank, splitFrom_items c.separated]
  rfl

lemma invocation?_congr {e f : CompileEntry} (hwords : e.words = f.words)
    (hdirectory : e.directory = f.directory) (hfile : e.file = f.file) (host : Host) (base : Path) :
    e.invocation? host base = f.invocation? host base := by
  have hdirectories : e.directoryFrom base = f.directoryFrom base := by
    rw [CompileEntry.directoryFrom, hdirectory, CompileEntry.directoryFrom]
  have hjoined : e.joined base = f.joined base := by
    rw [CompileEntry.joined, hdirectories, hfile, CompileEntry.joined]
  have hsource : e.source host base = f.source host base := by
    rw [CompileEntry.source, hjoined, CompileEntry.source]
  have hkept : e.keptWords host base = f.keptWords host base := by
    simp only [CompileEntry.keptWords, CompileEntry.sourceWords, hwords, hfile, hjoined, hsource]
  rw [CompileEntry.invocation?, CompileEntry.invocation?, hkept, hsource, hdirectories]

/-- However the words of a command are written, splitting it gives them back. An entry with the
command, unless it is blank, makes the same invocation as one with the words as its arguments. -/
theorem written_command_splits (c : WrittenCommand) :
    splitWords c.text = c.words ∧
      (Text.trim isBlank c.text ≠ [] →
        ∀ (host : Host) (base directory file : Path) (arguments : Option (List Text)),
          CompileEntry.invocation? ⟨directory, file, some c.text, arguments⟩ host base =
            CompileEntry.invocation? ⟨directory, file, none, some c.words⟩ host base) := by
  refine ⟨splitWords_text c, fun hblank host base directory file arguments => ?_⟩
  have hwords : CompileEntry.words ⟨directory, file, some c.text, arguments⟩ =
      CompileEntry.words ⟨directory, file, none, some c.words⟩ := by
    show (if Text.trim isBlank c.text = [] then _ else splitWords c.text) = c.words
    rw [if_neg hblank, splitWords_text]
  exact invocation?_congr hwords rfl rfl host base

/-- A program whose name ends in a backslash, an option with marks of both kinds, and a file with a
blank in its name, each written in another way. -/
def mixedCommand : WrittenCommand where
  lead := ⟨"\t".toList, by simp⟩
  items :=
    [(⟨"cc\\".toList, .quoted .single, by simp, by simp⟩, ⟨"  ".toList, by simp⟩),
     (⟨"-DX='\"'\\".toList, .quoted .double, by simp, by simp⟩, ⟨" \t".toList, by simp⟩),
     (⟨"-O2".toList, .bare, by simp, by simp [specialChars]⟩, ⟨" ".toList, by simp⟩),
     (⟨"my file.c".toList, .escaped, by simp, by simp⟩, ⟨[], by simp⟩)]
  separated := by decide

theorem mixed_command_splits :
    mixedCommand.text = "\t'cc\\\\'  \"-DX='\\\"'\\\\\" \t-O2 my\\ file.c".toList ∧
      splitWords mixedCommand.text =
        ["cc\\", "-DX='\"'\\", "-O2", "my file.c"].map String.toList ∧
      Text.trim isBlank mixedCommand.text ≠ [] ∧
      CompileEntry.invocation? ⟨.ofString "/w", .ofString "my file.c", some mixedCommand.text, none⟩
          default (.ofString "/") =
        some ⟨.ofString "/w/my file.c", .ofString "/w", "cc\\".toList,
          ["-DX='\"'\\".toList, "-O2".toList]⟩ := by
  have hblank : Text.trim isBlank mixedCommand.text ≠ [] := by decide
  have hsplit := written_command_splits mixedCommand
  refine ⟨by decide, hsplit.1, hblank, ?_⟩
  rw [hsplit.2 hblank]
  decide +kernel

end AsmExplorer.Proofs
