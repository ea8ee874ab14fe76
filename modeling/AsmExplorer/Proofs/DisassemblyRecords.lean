import AsmExplorer.Assembly.Disassembly
import AsmExplorer.Proofs.KeptLines
import AsmExplorer.Proofs.RenderedLines
import AsmExplorer.Proofs.Symbols

/-!
# Records of disassembled code

A disassembler writes a label as an address and a name in angle brackets, and an instruction as an
address, the code bytes and the text. Reading such records gives one line for each of them: the code
bytes end at the tab before the text whatever the text begins with, and the name ends at the last
bracket whatever brackets and colons it holds.
-/

namespace AsmExplorer.Proofs
open AsmExplorer.Assembly

/-! ### Writing records -/

/-- The hexadecimal digits of either case with their values. -/
def digitValues : List (Char × Nat) :=
  "0123456789abcdef".toList.zipIdx ++ "0123456789ABCDEF".toList.zipIdx

/-- Whether a text is a hexadecimal numeral of a number, with any zeros in front. -/
inductive IsNumeral : Text → Nat → Prop
  | digit {c : Char} {d : Nat} : (c, d) ∈ digitValues → IsNumeral [c] d
  | concat {t : Text} {n : Nat} {c : Char} {d : Nat} :
    IsNumeral t n → (c, d) ∈ digitValues → IsNumeral (t ++ [c]) (n * 16 + d)

/-- Blanks within a line. -/
def IsIndent (t : Text) : Prop :=
  ∀ c ∈ t, isBlank c = true ∧ c ≠ '\n'

/-- A label: an address and a name. -/
structure LabelRecord where
  address : Nat
  digits : Text
  name : Text
  address_lt : address < Nat.pow 2 64
  numeral : IsNumeral digits address
  name_ne_nil : name ≠ []
  name_no_newline : '\n' ∉ name

def LabelRecord.write (r : LabelRecord) : Text :=
  r.digits ++ [' ', '<'] ++ r.name ++ ['>', ':']

/-- A byte of code, in two digits. -/
structure CodeByte where
  value : Nat
  digits : Text
  numeral : IsNumeral digits value
  two_digits : digits.length = 2

/-- An instruction: an address, the bytes of its code, and its text. -/
structure InstructionRecord where
  indent : Text
  address : Nat
  digits : Text
  code : List CodeByte
  padding : Text
  text : Text
  indent_blank : IsIndent indent
  address_lt : address < Nat.pow 2 64
  numeral : IsNumeral digits address
  code_ne_nil : code ≠ []
  padding_blank : IsIndent padding
  text_ne_nil : text ≠ []
  text_no_newline : '\n' ∉ text
  text_head : ∀ c ∈ text.head?, isBlank c = false
  text_last : ∀ c ∈ text.getLast?, isBlank c = false

def InstructionRecord.write (r : InstructionRecord) : Text :=
  r.indent ++ r.digits ++ [':', '\t'] ++ r.code.flatMap (fun b => b.digits ++ [' ']) ++
    r.padding ++ '\t' :: r.text

/-- A record of disassembled code. -/
inductive DumpRecord where
  | label (r : LabelRecord)
  | instruction (r : InstructionRecord)

namespace DumpRecord

def write : DumpRecord → Text
  | label r => r.write
  | instruction r => r.write

/-- The line that shows a record. -/
def shown : DumpRecord → Line
  | label r => { text := r.name ++ [':'], sourceLine := none, address := some r.address }
  | instruction r =>
    { text := Text.expandTabs r.text, sourceLine := none, address := some r.address }

end DumpRecord

/-! ### Numerals -/

lemma of_mem_digitValues :
    ∀ p ∈ digitValues, isHexDigit p.1 = true ∧ isBlank p.1 = false ∧ hexDigitValue p.1 = p.2 := by
  decide

lemma hexDigit_of_numeral {t : Text} {n : Nat} (h : IsNumeral t n) :
    ∀ c ∈ t, isHexDigit c = true ∧ isBlank c = false := by
  induction h with
  | digit hd =>
    intro c hc
    obtain ⟨hhex, hblank, -⟩ := of_mem_digitValues _ hd
    rw [List.mem_singleton.mp hc]
    exact ⟨hhex, hblank⟩
  | concat _ hd ih =>
    intro c hc
    rcases List.mem_append.mp hc with hfront | hlast
    · exact ih c hfront
    · obtain ⟨hhex, hblank, -⟩ := of_mem_digitValues _ hd
      rw [List.mem_singleton.mp hlast]
      exact ⟨hhex, hblank⟩

lemma value_of_numeral {t : Text} {n : Nat} (h : IsNumeral t n) :
    ofDigits 16 (t.map hexDigitValue) = n := by
  induction h with
  | @digit c d hd =>
    have hvalue : hexDigitValue c = d := (of_mem_digitValues _ hd).2.2
    simp [ofDigits, hvalue]
  | @concat t n c d _ hd ih =>
    have hvalue : hexDigitValue c = d := (of_mem_digitValues _ hd).2.2
    rw [List.map_append, List.map_singleton, ofDigits_concat, ih, hvalue]

lemma numeral_of_pair {c d : Char} {m n : Nat} (hc : (c, m) ∈ digitValues)
    (hd : (d, n) ∈ digitValues) : IsNumeral [c, d] (m * 16 + n) :=
  .concat (.digit hc) hd

lemma numeral_ne_nil {t : Text} {n : Nat} (h : IsNumeral t n) : t ≠ [] := by
  cases h <;> simp

lemma address_of_numeral {t : Text} {n : Nat} (h : IsNumeral t n) (hlt : n < Nat.pow 2 64) :
    address? t = some n := by
  have hhex : t.all isHexDigit = true :=
    List.all_eq_true.mpr fun c hc => (hexDigit_of_numeral h c hc).1
  rw [address?, Text.hexadecimal?, if_pos ⟨numeral_ne_nil h, hhex⟩, value_of_numeral h]
  exact if_pos hlt

lemma run1?_of_numeral {t : Text} {n : Nat} (h : IsNumeral t n) {c : Char}
    (hc : isHexDigit c = false) (rest : Text) :
    Scan.run1? isHexDigit (t ++ c :: rest) = some (t, c :: rest) := by
  have hborder : ∀ d ∈ (c :: rest).head?, isHexDigit d = false := by
    simpa using hc
  exact run1?_append (numeral_ne_nil h) (fun d hd => (hexDigit_of_numeral h d hd).1) hborder

/-! ### Blanks -/

lemma isWord_of_hexDigit {c : Char} (h : isHexDigit c = true) : isWord c = true := by
  simp only [isHexDigit, Bool.or_eq_true, Bool.and_eq_true, decide_eq_true_eq] at h
  apply isWord_of_ascii
  simp only [isAsciiLetter, Bool.or_eq_true, Bool.and_eq_true, decide_eq_true_eq]
  have hlower : ∀ c : Char, c ≤ 'f' → c ≤ 'z' := fun c hc => Char.le_trans hc (by decide)
  have hupper : ∀ c : Char, c ≤ 'F' → c ≤ 'Z' := fun c hc => Char.le_trans hc (by decide)
  rcases h with (hdigit | hletter) | hletter
  · exact .inr hdigit
  · exact .inl (.inl ⟨hletter.1, hlower c hletter.2⟩)
  · exact .inl (.inr ⟨hletter.1, hupper c hletter.2⟩)

lemma isHexDigit_of_blank {c : Char} (h : isBlank c = true) : isHexDigit c = false := by
  by_contra hne
  have hword := isWord_of_hexDigit (by simpa using hne)
  rw [isWord_eq_false_of_isBlank h] at hword
  cases hword

lemma blanks_append {t : Text} (h : IsIndent t) (rest : Text) :
    Scan.blanks (t ++ rest) = Scan.blanks rest := by
  rw [Scan.blanks, List.dropWhile_append_of_pos fun c hc => (h c hc).1]
  rfl

lemma blanks_of_head {t : Text} (h : ∀ c ∈ t.head?, isBlank c = false) : Scan.blanks t = t := by
  cases t with
  | nil => rfl
  | cons c t =>
    have hc : isBlank c = false := h c rfl
    exact List.dropWhile_cons_of_neg (by simp [hc])

/-- Expanding tabs keeps a last character that is no tab. -/
lemma expandTabsFrom_concat {c : Char} (h : c ≠ '\t') (column : Nat) (t : Text) :
    ∃ front, Text.expandTabsFrom column (t ++ [c]) = front ++ [c] := by
  induction t generalizing column with
  | nil => exact ⟨[], by simp [Text.expandTabsFrom, h]⟩
  | cons d t ih =>
    rw [List.cons_append, Text.expandTabsFrom]
    split
    · obtain ⟨front, hfront⟩ := ih (column + (Text.tabStop - column % Text.tabStop))
      exact ⟨List.replicate (Text.tabStop - column % Text.tabStop) ' ' ++ front, by simp [hfront]⟩
    · obtain ⟨front, hfront⟩ := ih (column + 1)
      exact ⟨d :: front, by rw [hfront, List.cons_append]⟩

lemma displayForm_of_last {t : Text} (h : ∀ c ∈ t.getLast?, isBlank c = false) :
    Text.displayForm t = Text.expandTabs t := by
  rcases List.eq_nil_or_concat' t with rfl | ⟨front, c, rfl⟩
  · rfl
  · have hc : isBlank c = false := h c (by simp)
    have htab : c ≠ '\t' := by
      rintro rfl
      revert hc
      decide
    have hexpanded : ∃ front', Text.expandTabs (front ++ [c]) = front' ++ [c] := by
      unfold Text.expandTabs
      split
      · exact expandTabsFrom_concat htab 0 front
      · exact ⟨front, rfl⟩
    obtain ⟨front', hfront'⟩ := hexpanded
    rw [Text.displayForm, hfront', trimEnd_eq_rdropWhile,
      List.rdropWhile_concat_neg isBlank front' c (by simp [hc])]

/-! ### Reading records -/

lemma labelRecord?_write (r : LabelRecord) : labelRecord? r.write = some (r.digits, r.name) := by
  have hwrite : r.write = r.digits ++ ' ' :: '<' :: (r.name ++ ['>', ':']) := by
    simp [LabelRecord.write]
  have hrun := run1?_of_numeral r.numeral (by decide : isHexDigit ' ' = false)
    ('<' :: (r.name ++ ['>', ':']))
  have htrim : Text.trimEnd isBlank (r.name ++ ['>', ':']) = r.name ++ ['>', ':'] := by
    have hlast := List.rdropWhile_concat_neg isBlank (r.name ++ ['>']) ':' (by decide)
    rw [trimEnd_eq_rdropWhile]
    simpa using hlast
  have hblanks : Scan.blanks1? (' ' :: '<' :: (r.name ++ ['>', ':'])) =
      some ('<' :: (r.name ++ ['>', ':'])) := rfl
  have hangle : Scan.char? '<' ('<' :: (r.name ++ ['>', ':'])) = some (r.name ++ ['>', ':']) := rfl
  simp only [labelRecord?, hwrite, hrun, hblanks, hangle, htrim, Option.bind_eq_bind,
    Option.bind_some]
  simp [r.name_ne_nil]

lemma dropCodeBytes_write (code : List CodeByte) {c : Char} (hc : isHexDigit c = false)
    (rest : Text) :
    dropCodeBytes (code.flatMap (fun b => b.digits ++ [' ']) ++ c :: rest) = c :: rest := by
  induction code with
  | nil =>
    rw [List.flatMap_nil, List.nil_append]
    unfold dropCodeBytes
    split
    · next heq =>
      obtain ⟨rfl, -⟩ := List.cons.inj heq
      simp_all
    · rfl
  | cons b code ih =>
    obtain ⟨high, low, hdigits⟩ := List.length_eq_two.mp b.two_digits
    have hhex := hexDigit_of_numeral b.numeral
    have hhigh : isHexDigit high = true := (hhex high (by simp [hdigits])).1
    have hlow : isHexDigit low = true := (hhex low (by simp [hdigits])).1
    rw [List.flatMap_cons, hdigits]
    simp [dropCodeBytes, hhigh, hlow, ih]

lemma head_of_code {code : List CodeByte} (hne : code ≠ []) (rest : Text) :
    ∀ c ∈ (code.flatMap (fun b => b.digits ++ [' ']) ++ rest).head?, isBlank c = false := by
  obtain ⟨b, code, rfl⟩ := List.exists_cons_of_ne_nil hne
  obtain ⟨high, low, hdigits⟩ := List.length_eq_two.mp b.two_digits
  have hhigh := (hexDigit_of_numeral b.numeral high (by simp [hdigits])).2
  simpa [hdigits] using hhigh

/-- Behind the padding, the code bytes have ended. -/
lemma dropCodeBytes_padded (code : List CodeByte) {padding : Text} (h : IsIndent padding)
    (text : Text) :
    dropCodeBytes (code.flatMap (fun b => b.digits ++ [' ']) ++ (padding ++ '\t' :: text)) =
      padding ++ '\t' :: text := by
  cases padding with
  | nil => exact dropCodeBytes_write code (by decide) text
  | cons c padding =>
    exact dropCodeBytes_write code (isHexDigit_of_blank (h c List.mem_cons_self).1) _

lemma instructionRecord?_write (r : InstructionRecord) :
    instructionRecord? r.write = some (r.digits, r.text) := by
  have hwrite : r.write = r.indent ++ (r.digits ++ ':' :: '\t' ::
      (r.code.flatMap (fun b => b.digits ++ [' ']) ++ (r.padding ++ '\t' :: r.text))) := by
    simp [InstructionRecord.write]
  have hdigits : ∀ c ∈ (r.digits ++ ':' :: '\t' ::
      (r.code.flatMap (fun b => b.digits ++ [' ']) ++ (r.padding ++ '\t' :: r.text))).head?,
      isBlank c = false := by
    obtain ⟨d, t, ht⟩ := List.exists_cons_of_ne_nil (numeral_ne_nil r.numeral)
    have hd := (hexDigit_of_numeral r.numeral d (by simp [ht])).2
    simpa [ht] using hd
  have hrun := run1?_of_numeral r.numeral (by decide : isHexDigit ':' = false) ('\t' ::
    (r.code.flatMap (fun b => b.digits ++ [' ']) ++ (r.padding ++ '\t' :: r.text)))
  have hcolon : ∀ t, Scan.char? ':' (':' :: t) = some t := fun t => rfl
  have htab : ∀ t, Scan.blanks ('\t' :: t) = Scan.blanks t := fun t => rfl
  simp only [instructionRecord?, hwrite, blanks_append r.indent_blank, blanks_of_head hdigits, hrun,
    hcolon, htab, blanks_of_head (head_of_code r.code_ne_nil _),
    dropCodeBytes_padded r.code r.padding_blank, blanks_append r.padding_blank,
    blanks_of_head r.text_head, Option.bind_eq_bind, Option.bind_some, Option.pure_def]

lemma labelRecord?_of_instruction (r : InstructionRecord) : labelRecord? r.write = none := by
  have hwrite : r.write = r.indent ++ (r.digits ++ ':' :: '\t' ::
      (r.code.flatMap (fun b => b.digits ++ [' ']) ++ (r.padding ++ '\t' :: r.text))) := by
    simp [InstructionRecord.write]
  cases hindent : r.indent with
  | nil =>
    have hrun := run1?_of_numeral r.numeral (by decide : isHexDigit ':' = false) ('\t' ::
      (r.code.flatMap (fun b => b.digits ++ [' ']) ++ (r.padding ++ '\t' :: r.text)))
    have hcolon : ∀ t, Scan.blanks1? (':' :: t) = none := fun t => rfl
    simp only [labelRecord?, hwrite, hindent, List.nil_append, hrun, hcolon, Option.bind_eq_bind,
      Option.bind_some, Option.bind_none]
  | cons c indent =>
    have hc : isHexDigit c = false :=
      isHexDigit_of_blank (r.indent_blank c (by simp [hindent])).1
    have hrun : ∀ t, Scan.run1? isHexDigit (c :: t) = none := by
      intro t
      rw [Scan.run1?, List.takeWhile_cons_of_neg (by simp [hc])]
    simp only [labelRecord?, hwrite, hindent, List.cons_append, hrun, Option.bind_eq_bind,
      Option.bind_none]

lemma recordLine?_write (filter : Filter) (r : DumpRecord) :
    recordLine? filter r.write = some r.shown := by
  cases r with
  | label r =>
    have haddress := address_of_numeral r.numeral r.address_lt
    simp only [recordLine?, DumpRecord.write, labelRecord?_write, haddress, DumpRecord.shown]
  | instruction r =>
    have haddress := address_of_numeral r.numeral r.address_lt
    simp only [recordLine?, DumpRecord.write, labelRecord?_of_instruction, instructionRecord?_write,
      haddress, displayForm_of_last r.text_last, DumpRecord.shown]

/-! ### Lines of records -/

lemma not_newline_of_blank {t : Text} (h : ∀ c ∈ t, isBlank c = false) : '\n' ∉ t := by
  intro hmem
  have hblank := h _ hmem
  revert hblank
  decide

lemma not_newline_of_indent {t : Text} (h : IsIndent t) : '\n' ∉ t :=
  fun hmem => (h _ hmem).2 rfl

lemma isLine_write (r : DumpRecord) : IsLine r.write := by
  cases r with
  | label r =>
    have hdigits : '\n' ∉ r.digits :=
      not_newline_of_blank fun c hc => (hexDigit_of_numeral r.numeral c hc).2
    have hlast : r.write = r.digits ++ [' ', '<'] ++ r.name ++ ['>'] ++ [':'] := by
      simp [LabelRecord.write]
    constructor
    · simp [DumpRecord.write, LabelRecord.write, hdigits, r.name_no_newline]
    · rw [DumpRecord.write, hlast, List.getLast?_concat]
      decide
  | instruction r =>
    have hdigits : '\n' ∉ r.digits :=
      not_newline_of_blank fun c hc => (hexDigit_of_numeral r.numeral c hc).2
    have hcode : ∀ b ∈ r.code, '\n' ∉ b.digits := fun b _ =>
      not_newline_of_blank fun c hc => (hexDigit_of_numeral b.numeral c hc).2
    have hindent := not_newline_of_indent r.indent_blank
    have hpadding := not_newline_of_indent r.padding_blank
    constructor
    · simpa [DumpRecord.write, InstructionRecord.write, hdigits, hindent, hpadding,
        r.text_no_newline] using hcode
    · have hwrite : r.write = r.indent ++ r.digits ++ [':', '\t'] ++
          r.code.flatMap (fun b => b.digits ++ [' ']) ++ r.padding ++ ['\t'] ++ r.text := by
        simp [InstructionRecord.write]
      rw [DumpRecord.write, hwrite, List.getLast?_append_of_ne_nil _ r.text_ne_nil]
      intro hlast
      have hblank := r.text_last '\r' hlast
      rw [isBlank_return] at hblank
      cases hblank

lemma write_ne_nil (r : DumpRecord) : r.write ≠ [] := by
  cases r with
  | label r => simp [DumpRecord.write, LabelRecord.write]
  | instruction r => simp [DumpRecord.write, InstructionRecord.write]

lemma lines_of_records (filter : Filter) (main : Option Text) {records : List DumpRecord} {t : Text}
    (h : Text.splitLines t = records.map DumpRecord.write) :
    (Listing.ofText { filter with binary := true } main t).lines = records.map DumpRecord.shown := by
  have hshown : recordLine? { filter with binary := true } ∘ DumpRecord.write =
      some ∘ DumpRecord.shown := funext fun r => recordLine?_write _ r
  show (Text.splitLines t).filterMap (recordLine? _) = _
  rw [h, List.filterMap_map, hshown, List.filterMap_eq_map]

/-- Reading records of disassembled code, with a terminator between the lines or behind each of them,
gives exactly one line for each record, with the name or the text and the address. -/
theorem records_read_back (filter : Filter) (main : Option Text) (records : List DumpRecord) :
    (Listing.ofText { filter with binary := true } main
        (Text.join ['\n'] (records.map DumpRecord.write))).lines = records.map DumpRecord.shown ∧
      (Listing.ofText { filter with binary := true } main
        (records.flatMap fun r => r.write ++ ['\n'])).lines = records.map DumpRecord.shown := by
  have hline : ∀ line ∈ records.map DumpRecord.write, IsLine line ∧ line ≠ [] := by
    intro line hline
    obtain ⟨r, -, rfl⟩ := List.mem_map.mp hline
    exact ⟨isLine_write r, write_ne_nil r⟩
  have hnewline : ∀ line ∈ records.map DumpRecord.write, '\n' ∉ line :=
    fun line hmem => (hline line hmem).1.no_newline
  have hkept : (records.map DumpRecord.write).map Text.dropReturn = records.map DumpRecord.write :=
    map_dropReturn fun line hmem => (hline line hmem).1.no_return
  constructor
  · apply lines_of_records
    rw [splitLines_join hnewline, hkept, dropFinalEmpty_eq_self_iff]
    intro hlast
    exact (hline [] (List.mem_of_getLast? hlast)).2 rfl
  · apply lines_of_records
    have hterminated := splitLines_terminated hnewline
    rw [List.flatMap_map, hkept] at hterminated
    exact hterminated

/-- A label whose name holds a bracket and a colon, and an instruction whose text begins like a byte of
its code. -/
def nestedRecords : List DumpRecord :=
  [.label
    { address := 255, digits := ['f', 'F'], name := "f<a>:g".toList
      address_lt := by decide
      numeral := numeral_of_pair (m := 15) (n := 15) (by decide) (by decide)
      name_ne_nil := by decide
      name_no_newline := by decide },
    .instruction
      { indent := [' ', ' '], address := 255, digits := ['f', 'f'], padding := [' ']
        code := [⟨144, ['9', '0'], numeral_of_pair (m := 9) (n := 0) (by decide) (by decide), rfl⟩]
        text := "db\t90".toList
        indent_blank := by simpa [IsIndent] using (by decide : isBlank ' ' = true)
        address_lt := by decide
        numeral := numeral_of_pair (m := 15) (n := 15) (by decide) (by decide)
        code_ne_nil := by decide
        padding_blank := by simpa [IsIndent] using (by decide : isBlank ' ' = true)
        text_ne_nil := by decide
        text_no_newline := by decide
        text_head := by simpa using (by decide : isBlank 'd' = false)
        text_last := by simpa using (by decide : isBlank '0' = false) }]

theorem nested_records_read_back :
    Text.join ['\n'] (nestedRecords.map DumpRecord.write) =
        "fF <f<a>:g>:\n  ff:\t90  \tdb\t90".toList ∧
      (Listing.ofText { binary := true } none "fF <f<a>:g>:\n  ff:\t90  \tdb\t90".toList).lines =
        [{ text := "f<a>:g:".toList, sourceLine := none, address := some 255 },
          { text := "db      90".toList, sourceLine := none, address := some 255 }] := by
  have hwritten : Text.join ['\n'] (nestedRecords.map DumpRecord.write) =
      "fF <f<a>:g>:\n  ff:\t90  \tdb\t90".toList := by decide
  have hread := (records_read_back {} none nestedRecords).1
  rw [hwritten] at hread
  exact ⟨hwritten, hread.trans (by decide)⟩

end AsmExplorer.Proofs
