import AsmExplorer.Proofs.DisassemblyRecords
import AsmExplorer.Proofs.TrailingBlanks

/-!
# Padded lines

Spaces and tabs that are put behind the lines of a text leave its listing as it is, but for three
things. A comment between slashes and stars has to end its line. A label that ends in a blank, such as
one with a gap before its colon, is looked for with the blank. In disassembled code a byte counts as
one only if a space or a tab follows, so that a byte at the end of its line is taken for its text.
-/

namespace AsmExplorer.Proofs
open AsmExplorer.Assembly

/-- A line with spaces and tabs behind it. -/
def Pads (line padded : Text) : Prop :=
  ∃ pad, (∀ c ∈ pad, c = ' ' ∨ c = '\t') ∧ padded = line ++ pad

/-- The lines of the second text are those of the first one, each with spaces and tabs behind it. -/
def PadsLines (t padded : Text) : Prop :=
  List.Forall₂ Pads (Text.splitLines t) (Text.splitLines padded)

/-- Nothing was put behind the lines of a kind. -/
def Unpadded (kind : Text → Prop) (t padded : Text) : Prop :=
  List.Forall₂ (fun line padded => kind line → padded = line) (Text.splitLines t)
    (Text.splitLines padded)

/-- Bytes of code, each in two digits with a space or a tab behind it. -/
inductive IsCode : Text → Prop
  | nil : IsCode []
  | byte {a b c : Char} {rest : Text} (ha : isHexDigit a = true) (hb : isHexDigit b = true)
    (hc : c = ' ' ∨ c = '\t') (hrest : IsCode rest) : IsCode (a :: b :: c :: rest)

/-- A line is an address, a colon and bytes of code, with nothing behind the last byte. -/
def EndsInByte (line : Text) : Prop :=
  ∃ indent address gap code a b, (∀ c ∈ indent, isBlank c = true) ∧
    (Part.many isHexDigit).Spells address ∧ (∀ c ∈ gap, isBlank c = true) ∧ IsCode code ∧
    isHexDigit a = true ∧ isHexDigit b = true ∧
    line = indent ++ (address ++ ':' :: (gap ++ (code ++ [a, b])))

lemma blank_of_padding {pad : Text} (h : ∀ c ∈ pad, c = ' ' ∨ c = '\t') :
    ∀ c ∈ pad, isBlank c = true := by
  intro c hc
  rcases h c hc with rfl | rfl <;> decide

lemma pads_iff {line padded : Text} : Pads line padded ↔
    line <+: padded ∧ (padded.drop line.length).all (fun c => c = ' ' ∨ c = '\t') = true := by
  constructor
  · rintro ⟨pad, hpad, rfl⟩
    exact ⟨List.prefix_append line pad, by simpa using hpad⟩
  · rintro ⟨⟨pad, rfl⟩, hpad⟩
    exact ⟨pad, by simpa using hpad, rfl⟩

instance (line padded : Text) : Decidable (Pads line padded) :=
  decidable_of_iff _ pads_iff.symm

instance (t padded : Text) : Decidable (PadsLines t padded) :=
  inferInstanceAs (Decidable (List.Forall₂ Pads _ _))

/-! ### Assembly text -/

/-- Two lines are read alike under a filter: comments have to be told apart only if they or the labels
that nothing refers to are left out. -/
def ReadAlike (filter : Filter) (line other : Text) : Prop :=
  Alike line other ∧
    ((filter.commentOnly = true ∨ filter.labels = true) → isComment line = isComment other)

section

variable {filter : Filter} {lines others : List Text} {line other label : Text}

lemma readAlike_symm (h : ReadAlike filter line other) : ReadAlike filter other line :=
  ⟨alike_symm h.1, fun hfilter => (h.2 hfilter).symm⟩

lemma outsideDebug_congr (h : List.Forall₂ (ReadAlike filter) lines others) (inDebug : Bool) :
    List.Forall₂ (ReadAlike filter) (outsideDebug inDebug lines) (outsideDebug inDebug others) := by
  induction h generalizing inDebug with
  | nil => exact .nil
  | @cons line other lines others hline _ ih =>
    unfold outsideDebug
    rw [blind_section hline.1]
    cases sectionSwitch? other with
    | some name => exact ih _
    | none =>
      cases inDebug with
      | true => exact ih true
      | false => exact .cons hline (ih false)

lemma mem_of_forall₂ {α β : Type} {r : α → β → Prop} {xs : List α} {ys : List β}
    (h : List.Forall₂ r xs ys) {x : α} (hx : x ∈ xs) : ∃ y ∈ ys, r x y := by
  obtain ⟨j, hj, rfl⟩ := List.mem_iff_getElem.mp hx
  have hj' : j < ys.length := h.length_eq ▸ hj
  exact ⟨ys[j], List.getElem_mem hj', (List.forall₂_iff_get.mp h).2 j hj hj'⟩

/-- What refers to a label still does after the change of lines, both ways. -/
lemma contains_of_readAlike (hlabels : filter.labels = true)
    (h : List.Forall₂ (ReadAlike filter) lines others)
    (hlabel : ∀ c ∈ label.getLast?, isBlank c = false)
    (hused : (References.ofLines lines).contains label = true) :
    (References.ofLines others).contains label = true := by
  rw [contains_iff] at hused ⊢
  obtain ⟨line, hline, names, hnames, hread⟩ := hused
  obtain ⟨other, hother, halike, hcomment⟩ := mem_of_forall₂ (outsideDebug_congr h false) hline
  refine ⟨other, hother, names, ?_, hread.imp_right fun ⟨hpiece, hoccurs⟩ => ⟨hpiece, ?_⟩⟩
  · rw [← mentions_congr halike (hcomment (Or.inr hlabels)), hnames]
  · rw [← occursIn_congr hlabel (alike_blanks halike), hoccurs]

lemma showsLabel_congr (h : List.Forall₂ (ReadAlike filter) lines others)
    (hlabel : filter.labels = true → ∀ c ∈ label.getLast?, isBlank c = false) :
    Cursor.showsLabel (referencesFor filter lines) label =
      Cursor.showsLabel (referencesFor filter others) label := by
  rw [Bool.eq_iff_iff, showsLabel_iff, showsLabel_iff]
  refine forall_congr' fun hlabels => ?_
  constructor
  · exact contains_of_readAlike hlabels h (hlabel hlabels)
  · exact contains_of_readAlike hlabels (h.flip.imp fun _ _ => readAlike_symm) (hlabel hlabels)

/-- Lines that are read alike do the same to the cursor and are shown as the same line. -/
lemma step_congr {refs refs' : Option References} (h : ReadAlike filter line other)
    (hlabel : ∀ label, label? line = some label →
      Cursor.showsLabel refs label = Cursor.showsLabel refs' label) (s : Cursor) :
    s.step filter refs line = s.step filter refs' other := by
  obtain ⟨halike, hcomment⟩ := h
  have henter : enter s line = enter s other := by
    unfold enter Cursor.recordFile Cursor.switchSection
    rw [blind_fileEntry halike, blind_section halike]
  have hskips : (enter s line).skips filter line = (enter s line).skips filter other := by
    unfold Cursor.skips
    cases hfilter : filter.commentOnly with
    | true => rw [hcomment (Or.inl hfilter)]
    | false => rfl
  have hleave : (enter s line).leave refs line = (enter s line).leave refs' other := by
    unfold Cursor.leave
    rw [← blind_label halike, blind_functionEnd halike]
    cases hlab : label? line with
    | none => rfl
    | some label => simp only [hlabel label hlab]
  have hshows : (enter s line).shows filter refs line = (enter s line).shows filter refs' other := by
    unfold Cursor.shows
    rw [← blind_label halike, blind_directive halike, blind_section halike, blind_data halike]
    cases hlab : label? line with
    | none => rfl
    | some label => simp only [hlabel label hlab]
  have hstamped : stamped (enter s line) line = stamped (enter s line) other := by
    rw [stamped, stamped, blind_displayForm halike]
  cases hmarker : Marker.ofLine? line with
  | some marker =>
    rw [step_of_marker hmarker, step_of_marker ((blind_marker halike).symm.trans hmarker)]
  | none =>
    have hother : Marker.ofLine? other = none := (blind_marker halike).symm.trans hmarker
    cases hskip : (enter s line).skips filter line with
    | true =>
      rw [step_of_skips hmarker hskip, step_of_skips hother (by rw [← henter, ← hskips, hskip]),
        henter]
    | false =>
      rw [step_of_reads hmarker hskip, step_of_reads hother (by rw [← henter, ← hskips, hskip]),
        ← henter, hleave, hshows, hstamped]

lemma outcomes_congr {refs refs' : Option References}
    (h : List.Forall₂ (ReadAlike filter) lines others)
    (hlabels : ∀ line ∈ lines, ∀ label, label? line = some label →
      Cursor.showsLabel refs label = Cursor.showsLabel refs' label) (s : Cursor) :
    outcomes filter refs s lines = outcomes filter refs' s others := by
  induction h generalizing s with
  | nil => rfl
  | @cons line other lines others hline _ ih =>
    have hstep := step_congr hline (hlabels line List.mem_cons_self) s
    have hrest := ih fun line hmem => hlabels line (List.mem_cons_of_mem _ hmem)
    rw [outcomes, outcomes, hstep, hrest]

lemma ofAssembly_congr (h : List.Forall₂ (ReadAlike filter) lines others)
    (hlabels : filter.labels = true → ∀ line ∈ lines, ∀ label, label? line = some label →
      ∀ c ∈ label.getLast?, isBlank c = false) (main : Option Text) :
    Listing.ofAssembly filter main lines = Listing.ofAssembly filter main others := by
  change Listing.ofLines (Cursor.read filter (referencesFor filter lines) _ lines) =
    Listing.ofLines (Cursor.read filter (referencesFor filter others) _ others)
  rw [read_eq_outcomes, read_eq_outcomes, outcomes_congr h fun line hline label hlabel =>
    showsLabel_congr h fun hfilter => hlabels hfilter line hline label hlabel]

end

/-- Where blanks keep behind the comments that they would unmake, the lines are read alike. -/
lemma readAlike_of_pads {filter : Filter} {t padded : Text} (hpads : PadsLines t padded)
    (hframed : filter.commentOnly = true ∨ filter.labels = true →
      Unpadded IsFramedByComments t padded) :
    List.Forall₂ (ReadAlike filter) (Text.splitLines t) (Text.splitLines padded) := by
  by_cases hfilter : filter.commentOnly = true ∨ filter.labels = true
  · refine List.Forall₂.mp ?_ (hframed hfilter) hpads
    rintro line _ hkept ⟨pad, hpad, rfl⟩
    have hblank := blank_of_padding hpad
    refine ⟨alike_append hblank line, fun _ => ((isComment_append_iff hblank line).mpr ?_).symm⟩
    by_cases hcomment : IsFramedByComments line
    · exact Or.inl (List.append_right_eq_self.mp (hkept hcomment))
    · exact Or.inr hcomment
  · refine hpads.imp ?_
    rintro line _ ⟨pad, hpad, rfl⟩
    have hblank := blank_of_padding hpad
    exact ⟨alike_append hblank line, fun h => absurd h hfilter⟩

/-! ### Disassembled code -/

section

variable {filter : Filter} {line digits t code pad : Text} {a b : Char}

/-- The digits of the address at the front of a line and what is behind its colon. -/
def afterAddress? (line : Text) : Option (Text × Text) := do
  let (digits, t) ← Scan.run1? isHexDigit (Scan.blanks line)
  let t ← Scan.char? ':' t
  return (digits, t)

lemma instructionRecord?_eq (line : Text) :
    instructionRecord? line = (afterAddress? line).map fun p =>
      (p.1, Scan.blanks (dropCodeBytes (Scan.blanks p.2))) := by
  unfold instructionRecord? afterAddress?
  cases Scan.run1? isHexDigit (Scan.blanks line) with
  | none => rfl
  | some p =>
    simp only [Option.bind_eq_bind, Option.bind_some]
    cases Scan.char? ':' p.2 with
    | none => rfl
    | some rest => rfl

lemma isBlank_of_hexDigit {c : Char} (h : isHexDigit c = true) : isBlank c = false := by
  by_contra hblank
  rw [isHexDigit_of_blank (by simpa using hblank)] at h
  cases h

lemma char?_eq_some_iff {c : Char} {rest : Text} : Scan.char? c t = some rest ↔ t = c :: rest := by
  cases t with
  | nil => simp [Scan.char?]
  | cons d t => simp [Scan.char?, ite_eq_iff]

lemma afterAddress?_iff : afterAddress? line = some (digits, t) ↔
    ∃ indent, (∀ c ∈ indent, isBlank c = true) ∧ (Part.many isHexDigit).Spells digits ∧
      line = indent ++ (digits ++ ':' :: t) := by
  constructor
  · intro h
    simp only [afterAddress?, Option.bind_eq_bind, Option.bind_eq_some_iff] at h
    obtain ⟨⟨digits', rest⟩, hrun, t', hchar, heq⟩ := h
    obtain ⟨rfl, rfl⟩ : digits' = digits ∧ t' = t := by simpa using heq
    obtain ⟨hne, rfl, hrest⟩ := run1?_eq_some_iff.mp hrun
    refine ⟨line.takeWhile isBlank, fun c hc => List.mem_takeWhile_imp hc,
      ⟨hne, fun c hc => List.mem_takeWhile_imp hc⟩, ?_⟩
    rw [← char?_eq_some_iff.mp hchar, hrest, List.takeWhile_append_dropWhile]
    exact List.takeWhile_append_dropWhile.symm
  · rintro ⟨indent, hindent, ⟨hne, hdigits⟩, rfl⟩
    have hhead : ∀ c ∈ (digits ++ ':' :: t).head?, isBlank c = false := by
      obtain ⟨d, rest, rfl⟩ := List.exists_cons_of_ne_nil hne
      have hd : isBlank d = false := isBlank_of_hexDigit (hdigits d List.mem_cons_self)
      simpa using hd
    have hblanks : Scan.blanks (indent ++ (digits ++ ':' :: t)) = digits ++ ':' :: t := by
      rw [Scan.blanks, List.dropWhile_append_of_pos hindent]
      exact blanks_of_head hhead
    have hrun : Scan.run1? isHexDigit (digits ++ ':' :: t) = some (digits, ':' :: t) := by
      have hcolon : ∀ c ∈ (':' :: t).head?, isHexDigit c = false := by
        simpa using (by decide : isHexDigit ':' = false)
      exact run1?_append hne hdigits hcolon
    simp only [afterAddress?, hblanks, hrun, Option.bind_eq_bind, Option.bind_some, Scan.char?,
      if_true, Option.pure_def]

lemma dropCodeBytes_code (hcode : IsCode code) (t : Text) :
    dropCodeBytes (code ++ t) = dropCodeBytes t := by
  induction hcode with
  | nil => rfl
  | byte ha hb hc _ ih => simpa [dropCodeBytes, ha, hb, hc] using ih

lemma exists_code (t : Text) : ∃ code, IsCode code ∧ t = code ++ dropCodeBytes t := by
  fun_induction dropCodeBytes t with
  | case1 a b c rest hbyte ih =>
    obtain ⟨code, hcode, heq⟩ := ih
    simp only [Bool.and_eq_true, Bool.or_eq_true, beq_iff_eq] at hbyte
    refine ⟨a :: b :: c :: code, .byte hbyte.1.1 hbyte.1.2 hbyte.2 hcode, ?_⟩
    simp only [List.cons_append, ← heq]
  | case2 => exact ⟨[], .nil, rfl⟩
  | case3 => exact ⟨[], .nil, rfl⟩

/-- A byte of code stands at the front, but for what has to follow it. -/
def OpensByte (t : Text) : Prop :=
  ∃ a b rest, isHexDigit a = true ∧ isHexDigit b = true ∧ t = a :: b :: rest

lemma dropCodeBytes_of_not_opens (h : ¬OpensByte t) : dropCodeBytes t = t := by
  unfold dropCodeBytes
  split
  · next a b c rest =>
    refine if_neg fun hbyte => h ?_
    simp only [Bool.and_eq_true] at hbyte
    exact ⟨a, b, c :: rest, hbyte.1.1, hbyte.1.2, rfl⟩
  · rfl

/-- Behind blanks no byte of code begins. -/
lemma not_opens_of_blank (h : ∀ c ∈ t.head?, isBlank c = true) : ¬OpensByte t := by
  rintro ⟨a, b, rest, ha, -, rfl⟩
  rw [isHexDigit_of_blank (h a rfl)] at ha
  cases ha

lemma last_of_endsInByte (h : EndsInByte line) :
    ∃ b, line.getLast? = some b ∧ isHexDigit b = true := by
  obtain ⟨indent, address, gap, code, a, b, -, -, -, -, -, hb, rfl⟩ := h
  exact ⟨b, by simp [List.getLast?_cons], hb⟩

/-- Blanks behind a text make a byte of code of two digits that are left, and do nothing else. -/
lemma dropCodeBytes_append (hpad : ∀ c ∈ pad, c = ' ' ∨ c = '\t') (t : Text) :
    dropCodeBytes (t ++ pad) = dropCodeBytes t ++ pad ∨
      ∃ a b, isHexDigit a = true ∧ isHexDigit b = true ∧ dropCodeBytes t = [a, b] := by
  fun_induction dropCodeBytes t with
  | case1 a b c rest hbyte ih => simpa [dropCodeBytes, hbyte] using ih
  | case2 a b c rest hbyte =>
    left
    simp only [List.cons_append, dropCodeBytes, if_neg hbyte]
  | case3 t hshort =>
    have hblank : ∀ c ∈ pad, isHexDigit c = false := fun c hc =>
      isHexDigit_of_blank (blank_of_padding hpad c hc)
    by_cases hopens : OpensByte (t ++ pad)
    · -- both digits stand in the text, which is not longer
      obtain ⟨a, b, rest, ha, hb, heq⟩ := hopens
      refine Or.inr ⟨a, b, ha, hb, ?_⟩
      rcases t with _ | ⟨c, _ | ⟨d, _ | ⟨e, t⟩⟩⟩
      · obtain rfl : pad = a :: b :: rest := heq
        rw [hblank a List.mem_cons_self] at ha
        cases ha
      · obtain ⟨-, rfl⟩ := List.cons.inj heq
        rw [hblank b List.mem_cons_self] at hb
        cases hb
      · obtain ⟨rfl, hrest⟩ := List.cons.inj heq
        obtain ⟨rfl, -⟩ := List.cons.inj hrest
        rfl
      · exact (hshort c d e t rfl).elim
    · exact Or.inl (dropCodeBytes_of_not_opens hopens)

/-- What is left behind the bytes of code is a single byte. -/
def LeavesByte (t : Text) : Prop :=
  ∃ a b, isHexDigit a = true ∧ isHexDigit b = true ∧ dropCodeBytes (Scan.blanks t) = [a, b]

lemma endsInByte_iff :
    EndsInByte line ↔ ∃ digits t, afterAddress? line = some (digits, t) ∧ LeavesByte t := by
  constructor
  · rintro ⟨indent, address, gap, code, a, b, hindent, haddress, hgap, hcode, ha, hb, rfl⟩
    refine ⟨address, _, afterAddress?_iff.mpr ⟨indent, hindent, haddress, rfl⟩, a, b, ha, hb, ?_⟩
    have hhead : ∀ c ∈ (code ++ [a, b]).head?, isBlank c = false := by
      cases hcode with
      | nil => simpa using isBlank_of_hexDigit ha
      | byte hc _ _ _ => simpa using isBlank_of_hexDigit hc
    rw [Scan.blanks, List.dropWhile_append_of_pos hgap, dropWhile_eq_self hhead]
    exact dropCodeBytes_code hcode [a, b]
  · rintro ⟨digits, t, hafter, a, b, ha, hb, hbyte⟩
    obtain ⟨indent, hindent, hdigits, rfl⟩ := afterAddress?_iff.mp hafter
    obtain ⟨code, hcode, hblanks⟩ := exists_code (Scan.blanks t)
    refine ⟨indent, digits, t.takeWhile isBlank, code, a, b, hindent, hdigits,
      fun c hc => List.mem_takeWhile_imp hc, hcode, ha, hb, ?_⟩
    rw [← hbyte, ← hblanks]
    exact congrArg (fun t => indent ++ (digits ++ ':' :: t)) List.takeWhile_append_dropWhile.symm

/-! ### Padded records -/

/-- What is shown of the text behind an address and its colon. -/
def codeText (t : Text) : Text :=
  Text.displayForm (Scan.blanks (dropCodeBytes (Scan.blanks t)))

lemma blanks_pad (hpad : ∀ c ∈ pad, isBlank c = true) (t : Text) :
    (Scan.blanks t = [] ∧ Scan.blanks (t ++ pad) = []) ∨
      (Scan.blanks t ≠ [] ∧ Scan.blanks (t ++ pad) = Scan.blanks t ++ pad) := by
  by_cases ht : ∀ c ∈ t, isBlank c = true
  · left
    refine ⟨blanks_of_idle ht, blanks_of_idle fun c hc => ?_⟩
    exact (List.mem_append.mp hc).elim (ht c) (hpad c)
  · have hne : Scan.blanks t ≠ [] := fun hnil => ht (List.dropWhile_eq_nil_iff.mp hnil)
    refine Or.inr ⟨hne, ?_⟩
    rw [Scan.blanks, List.dropWhile_append]
    exact if_neg fun hempty => hne (List.isEmpty_iff.mp hempty)

lemma codeText_append (hpad : ∀ c ∈ pad, c = ' ' ∨ c = '\t') (hkept : ¬LeavesByte t) :
    codeText (t ++ pad) = codeText t := by
  have hblank := blank_of_padding hpad
  unfold codeText
  rcases blanks_pad hblank t with ⟨hnil, hnil'⟩ | ⟨-, happend⟩
  · rw [hnil, hnil']
  · rw [happend]
    rcases dropCodeBytes_append hpad (Scan.blanks t) with hdrop | hbyte
    · rw [hdrop]
      exact (blind_displayForm (alike_blanks (alike_append hblank _))).symm
    · exact absurd hbyte hkept

lemma codeText_append_ne {c : Char} (hpad : ∀ d ∈ c :: pad, d = ' ' ∨ d = '\t')
    (hbyte : LeavesByte t) : codeText (t ++ c :: pad) ≠ codeText t := by
  obtain ⟨a, b, ha, hb, hleft⟩ := hbyte
  have hblank := blank_of_padding hpad
  obtain ⟨code, hcode, ht⟩ := exists_code (Scan.blanks t)
  rw [hleft] at ht
  -- the byte is shown as the text, and dropped with blanks behind it
  have hshown : codeText t = [a, b] := by
    have hhead : ∀ d ∈ [a, b].head?, isBlank d = false := by simpa using isBlank_of_hexDigit ha
    have hlast : ∀ d ∈ [a, b].getLast?, isBlank d = false := by simpa using isBlank_of_hexDigit hb
    have htab : '\t' ∉ [a, b] := by
      have hne {d : Char} (hd : isHexDigit d = true) : '\t' ≠ d :=
        ne_of_blank (by decide) (isBlank_of_hexDigit hd)
      simp [hne ha, hne hb]
    rw [codeText, hleft, blanks_of_head hhead, displayForm_of_last hlast, Text.expandTabs,
      if_neg htab]
  have hdropped : codeText (t ++ c :: pad) = [] := by
    have happend : Scan.blanks (t ++ c :: pad) = code ++ [a, b, c] ++ pad := by
      rcases blanks_pad hblank t with ⟨hnil, -⟩ | ⟨-, happend⟩
      · simp [hnil] at ht
      · rw [happend, ht]
        simp
    have hcode' : IsCode [a, b, c] := .byte ha hb (hpad c List.mem_cons_self) .nil
    have hrest : ¬OpensByte pad := not_opens_of_blank fun d hd =>
      hblank d (List.mem_cons_of_mem c (List.mem_of_head? hd))
    rw [codeText, happend, List.append_assoc, dropCodeBytes_code hcode, dropCodeBytes_code hcode',
      dropCodeBytes_of_not_opens hrest, blanks_of_idle fun d hd => hblank d (List.mem_cons_of_mem c hd)]
    rfl
  rw [hshown, hdropped]
  exact List.cons_ne_nil a [b] ∘ Eq.symm

lemma blind_labelRecord : Blind labelRecord? := by
  refine Blind.run1 (fun _ => isHexDigit_of_blank) fun digits =>
    Blind.blanks1 (Blind.char (by decide : isBlank '<' = false) fun t u h => ?_) rfl
  rw [blind_trimEnd h]

lemma blind_address : Blind fun line => (afterAddress? line).map Prod.fst := by
  have hread : Blind fun line => (Scan.run1? isHexDigit (Scan.blanks line)).bind fun p =>
      (Scan.char? ':' p.2).bind fun _ => some p.1 :=
    Blind.blanks (Blind.run1 (fun _ => isHexDigit_of_blank) fun digits =>
      Blind.char (c := ':') (f := fun _ => some digits) (by decide) fun _ _ _ => rfl)
  simpa [afterAddress?, Option.map_bind, Function.comp_def] using hread

/-- A line with an address and a colon is no label. -/
lemma labelRecord?_of_address {p : Text × Text} (h : afterAddress? line = some p) :
    labelRecord? line = none := by
  unfold labelRecord?
  cases hrun : Scan.run1? isHexDigit line with
  | none => rfl
  | some q =>
    obtain ⟨digits, rest⟩ := q
    have hblanks : Scan.blanks line = line := blanks_of_head fun c hc => by
      obtain ⟨rest, rfl⟩ := List.head?_eq_some_iff.mp hc
      by_contra hblank
      have hhex : isHexDigit c = false := isHexDigit_of_blank (by simpa using hblank)
      simp [Scan.run1?, hhex] at hrun
    rw [afterAddress?, hblanks, hrun] at h
    cases hcolon : Scan.char? ':' rest with
    | none => simp [hcolon] at h
    | some t =>
      rw [char?_eq_some_iff.mp hcolon]
      rfl

lemma recordLine?_of_address (filter : Filter) (h : afterAddress? line = some (digits, t)) :
    recordLine? filter line = some { text := codeText t, address := address? digits } := by
  rw [recordLine?, labelRecord?_of_address h, instructionRecord?_eq, h]
  rfl

lemma recordLine?_of_none (filter : Filter) (h : afterAddress? line = none) :
    recordLine? filter line = match labelRecord? line with
      | some (digits, name) => some { text := name ++ [':'], address := address? digits }
      | none => if filter.directives then none else some { text := Text.displayForm line } := by
  rw [recordLine?, instructionRecord?_eq, h]
  rfl

/-- Blanks behind a line change the record that is read from it only if a byte of code ends it. -/
lemma recordLine?_append (hpad : ∀ c ∈ pad, c = ' ' ∨ c = '\t') (filter : Filter) (line : Text) :
    (recordLine? filter (line ++ pad)).isSome = (recordLine? filter line).isSome ∧
      (recordLine? filter (line ++ pad) = recordLine? filter line ↔
        (EndsInByte line → line ++ pad = line)) := by
  have halike := alike_append (blank_of_padding hpad) line
  cases hafter : afterAddress? line with
  | none =>
    have hpadded : afterAddress? (line ++ pad) = none := by
      simpa [hafter] using (blind_address halike).symm
    have heq : recordLine? filter (line ++ pad) = recordLine? filter line := by
      rw [recordLine?_of_none filter hafter, recordLine?_of_none filter hpadded,
        blind_labelRecord halike, blind_displayForm halike]
    have hkept : ¬EndsInByte line := by
      rw [endsInByte_iff, hafter]
      simp
    simp [heq, hkept]
  | some p =>
    obtain ⟨digits, t⟩ := p
    -- the address is read as before, and the blanks are behind the code
    have hpadded : afterAddress? (line ++ pad) = some (digits, t ++ pad) := by
      obtain ⟨indent, hindent, hdigits, rfl⟩ := afterAddress?_iff.mp hafter
      exact afterAddress?_iff.mpr ⟨indent, hindent, hdigits, by simp⟩
    have hends : EndsInByte line ↔ LeavesByte t := by
      rw [endsInByte_iff, hafter]
      simp
    rw [recordLine?_of_address filter hafter, recordLine?_of_address filter hpadded, hends]
    refine ⟨rfl, ?_⟩
    by_cases hbyte : LeavesByte t
    · cases pad with
      | nil => simp
      | cons c pad => simp [hbyte, codeText_append_ne hpad hbyte]
    · simp [hbyte, codeText_append hpad hbyte]

lemma filterMap_eq_iff {α β : Type} {f : α → Option β} {r : α → α → Prop} {xs ys : List α}
    (h : List.Forall₂ (fun x y => (f y).isSome = (f x).isSome ∧ (f y = f x ↔ r x y)) xs ys) :
    ys.filterMap f = xs.filterMap f ↔ List.Forall₂ r xs ys := by
  induction h with
  | nil => simp
  | @cons x y xs ys hxy _ ih =>
    obtain ⟨hsome, hiff⟩ := hxy
    rw [List.forall₂_cons, ← ih, ← hiff, List.filterMap_cons, List.filterMap_cons]
    cases hx : f x <;> cases hy : f y <;> simp_all

end

/-! ### Padded texts -/

def EndsInBlank (label : Text) : Prop :=
  ∃ c ∈ label.getLast?, isBlank c = true

instance (label : Text) : Decidable (EndsInBlank label) :=
  decidable_of_iff (label.getLast?.any isBlank = true) (Option.any_eq_true _ _)

/-- No label of the text ends in a blank. -/
def LabelsClosed (t : Text) : Prop :=
  ∀ line ∈ Text.splitLines t, ∀ label ∈ label? line, ¬EndsInBlank label

instance (t : Text) : Decidable (LabelsClosed t) :=
  inferInstanceAs (Decidable (∀ _ ∈ _, _))

/-- Spaces and tabs behind the lines of an assembly text leave its listing as it is if they are not put
behind comments between slashes and stars, which only matters where comments or labels are left out, and
if no label ends in a blank, which only matters where labels are left out. In disassembled code they do
exactly if they are not put behind a line that ends in a byte of code. -/
theorem listing_of_padded_text (filter : Filter) (main : Option Text) (t padded : Text)
    (hpads : PadsLines t padded) :
    (filter.binary = false →
      (filter.commentOnly = true ∨ filter.labels = true → Unpadded IsFramedByComments t padded) →
      (filter.labels = true → LabelsClosed t) →
      Listing.ofText filter main padded = Listing.ofText filter main t) ∧
    (filter.binary = true →
      (Listing.ofText filter main padded = Listing.ofText filter main t ↔
        Unpadded EndsInByte t padded)) := by
  constructor
  · intro hbinary hframed hlabels
    have hclosed (hfilter : filter.labels = true) (line) (hline : line ∈ Text.splitLines t) (label)
        (hlabel : label? line = some label) : ∀ c ∈ label.getLast?, isBlank c = false := by
      intro c hc
      simpa using fun hblank => hlabels hfilter line hline label hlabel ⟨c, hc, hblank⟩
    have hread := ofAssembly_congr (readAlike_of_pads hpads hframed) hclosed main
    simpa only [Listing.ofText, hbinary, Bool.false_eq_true, if_false] using hread.symm
  · intro hbinary
    -- the map is made from the lines
    have hrecords : Listing.ofText filter main padded = Listing.ofText filter main t ↔
        (Text.splitLines padded).filterMap (recordLine? filter) =
          (Text.splitLines t).filterMap (recordLine? filter) := by
      simp only [Listing.ofText, hbinary, if_true, Listing.ofDisassembly]
      constructor
      · intro h
        exact congrArg Listing.lines h
      · intro h
        rw [h]
    rw [hrecords]
    refine filterMap_eq_iff (hpads.imp ?_)
    rintro line _ ⟨pad, hpad, rfl⟩
    exact recordLine?_append hpad filter line

/-- A function that calls itself, and its code behind a byte that has a blank behind it. -/
theorem padded_call_reads_alike :
    let t := "f(int):\n\t/* once more */\n\tcall\tf(int)".toList
    let padded := "f(int): \n\t/* once more */\n\tcall\tf(int) \t".toList
    let dump := "  10:\tc3 \n  11:\t90".toList
    let wide := "  10:\tc3 \t\n  11:\t90".toList
    PadsLines t padded ∧ Unpadded IsFramedByComments t padded ∧ LabelsClosed t ∧
      Listing.ofText {} none padded = Listing.ofText {} none t ∧
      PadsLines dump wide ∧ Unpadded EndsInByte dump wide ∧
      Listing.ofText { binary := true } none wide = Listing.ofText { binary := true } none dump := by
  intro t padded dump wide
  have hpads : PadsLines t padded := by decide +kernel
  have hframed : Unpadded IsFramedByComments t padded := by
    have hcode : ∀ line : Text, isComment line = false → ¬IsFramedByComments line := by
      intro line hline hframed
      rw [isComment_of_framed hframed] at hline
      cases hline
    exact .cons (fun h => absurd h (hcode _ (by decide))) (.cons (fun _ => rfl)
      (.cons (fun h => absurd h (hcode _ (by decide))) .nil))
  have hclosed : LabelsClosed t := by decide +kernel
  have hwide : PadsLines dump wide := by decide +kernel
  have hbytes : Unpadded EndsInByte dump wide := by
    have hlines : Text.splitLines dump = ["  10:\tc3 ".toList, "  11:\t90".toList] := by
      decide +kernel
    have hother : Text.splitLines wide = ["  10:\tc3 \t".toList, "  11:\t90".toList] := by
      decide +kernel
    have hblank : "  10:\tc3 ".toList.getLast? = some ' ' := by decide +kernel
    rw [Unpadded, hlines, hother]
    refine .cons (fun hbyte => ?_) (.cons (fun _ => rfl) .nil)
    obtain ⟨b, hlast, hb⟩ := last_of_endsInByte hbyte
    obtain rfl := Option.some.inj (hblank.symm.trans hlast)
    exact absurd hb (by decide)
  have hread := (listing_of_padded_text {} none t padded hpads).1 rfl (fun _ => hframed)
    fun _ => hclosed
  have hrecords := (listing_of_padded_text { binary := true } none dump wide hwide).2 rfl
  exact ⟨hpads, hframed, hclosed, hread, hwide, hbytes, hrecords.mpr hbytes⟩

/-- A comment in a function, with a text behind it. -/
def noteText (pad : Text) : Text :=
  "\t.globl\tmain\nmain:\n\t/* note */".toList ++ pad ++ "\n\tret\n".toList

/-- A function with a blank in front of the colon, and a call of it with a text behind it. -/
def callText (pad : Text) : Text :=
  "f (int) :\n\tret\n\tcall\tf (int)".toList ++ pad ++ "\n".toList

/-- An instruction of a single byte, with a text behind it. -/
def byteText (pad : Text) : Text :=
  "  10:\tc3".toList ++ pad ++ "\n".toList

/-- With a blank behind it, the comment is shown, the call refers to the function, and the byte is not
taken for the text of its instruction. -/
theorem single_blank_changes_listing :
    PadsLines (noteText []) (noteText [' ']) ∧
      (Listing.ofText {} none (noteText [])).lines =
        [{ text := "main:".toList }, { text := "        ret".toList }] ∧
      (Listing.ofText {} none (noteText [' '])).lines =
        [{ text := "main:".toList }, { text := "        /* note */".toList },
          { text := "        ret".toList }] ∧
      PadsLines (callText []) (callText [' ']) ∧
      (Listing.ofText {} none (callText [])).lines =
        [{ text := "        ret".toList }, { text := "        call    f (int)".toList }] ∧
      (Listing.ofText {} none (callText [' '])).lines =
        [{ text := "f (int) :".toList }, { text := "        ret".toList },
          { text := "        call    f (int)".toList }] ∧
      PadsLines (byteText []) (byteText [' ']) ∧
      (Listing.ofText { binary := true } none (byteText [])).lines =
        [{ text := "c3".toList, address := some 16 }] ∧
      (Listing.ofText { binary := true } none (byteText [' '])).lines =
        [{ text := [], address := some 16 }] := by
  decide +kernel

end AsmExplorer.Proofs
