import AsmExplorer.Proofs.KeptLines
import AsmExplorer.Proofs.LabelReferences
import AsmExplorer.Proofs.RenderedLines

/-!
# Trailing blanks

What is read of a line does not hang on the blanks at its end: neither its marker, its directive, its
label and its symbols nor the form in which it is displayed. One reading is the exception. A comment
between slashes and stars has to end the line, so that blanks behind it make it code.
-/

namespace AsmExplorer.Proofs
open AsmExplorer.Assembly

/-- Two texts differ in the blanks at their ends alone. -/
inductive Alike : Text → Text → Prop
  | idle {t u : Text} (ht : ∀ c ∈ t, isBlank c = true) (hu : ∀ c ∈ u, isBlank c = true) : Alike t u
  | cons (c : Char) {t u : Text} (h : Alike t u) : Alike (c :: t) (c :: u)

/-- A reading does not hang on the blanks at the end of what is read. -/
def Blind {α : Type} (f : Text → α) : Prop :=
  ∀ ⦃t u : Text⦄, Alike t u → f t = f u

section

variable {t u : Text} {inClass : Char → Bool}

lemma alike_refl (t : Text) : Alike t t := by
  induction t with
  | nil => exact .idle (by simp) (by simp)
  | cons c t ih => exact .cons c ih

lemma alike_symm (h : Alike t u) : Alike u t := by
  induction h with
  | idle ht hu => exact .idle hu ht
  | cons c _ ih => exact .cons c ih

lemma alike_append {pad : Text} (hpad : ∀ c ∈ pad, isBlank c = true) (t : Text) :
    Alike t (t ++ pad) := by
  induction t with
  | nil => exact .idle (by simp) hpad
  | cons c t ih => exact .cons c ih

lemma alike_append_left (front : Text) (h : Alike t u) : Alike (front ++ t) (front ++ u) := by
  induction front with
  | nil => exact h
  | cons c front ih => exact .cons c ih

/-- Both texts are one text with blanks behind it. -/
lemma split_of_alike (h : Alike t u) :
    ∃ core a b, t = core ++ a ∧ u = core ++ b ∧ (∀ c ∈ a, isBlank c = true) ∧
      ∀ c ∈ b, isBlank c = true := by
  induction h with
  | @idle t u ht hu => exact ⟨[], t, u, rfl, rfl, ht, hu⟩
  | cons c _ ih =>
    obtain ⟨core, a, b, rfl, rfl, ha, hb⟩ := ih
    exact ⟨c :: core, a, b, rfl, rfl, ha, hb⟩

/-! ### Runs -/

lemma ne_of_blank {c d : Char} (hc : isBlank c = true) (hd : isBlank d = false) : c ≠ d := by
  rintro rfl
  rw [hc] at hd
  cases hd

lemma isSymbolChar_of_blank {c : Char} (hc : isBlank c = true) : isSymbolChar c = false := by
  have hdollar : c ≠ '$' := ne_of_blank hc (by decide)
  have hdot : c ≠ '.' := ne_of_blank hc (by decide)
  simp [isSymbolChar, isWord_eq_false_of_isBlank hc, hdollar, hdot]

lemma isLabelChar_of_blank {c : Char} (hc : isBlank c = true) : isLabelChar c = false := by
  have hat : c ≠ '@' := ne_of_blank hc (by decide)
  simp [isLabelChar, isSymbolChar_of_blank hc, hat]

lemma blanks_of_idle (ht : ∀ c ∈ t, isBlank c = true) : Scan.blanks t = [] :=
  List.dropWhile_eq_nil_iff.mpr ht

lemma head_iff_of_alike {d : Char} (hd : isBlank d = false) (h : Alike t u) :
    (∃ rest, t = d :: rest) ↔ ∃ rest, u = d :: rest := by
  have hidle : ∀ t : Text, (∀ c ∈ t, isBlank c = true) → ¬∃ rest, t = d :: rest := by
    rintro _ ht ⟨rest, rfl⟩
    rw [ht d List.mem_cons_self] at hd
    cases hd
  cases h with
  | idle ht hu => exact iff_of_false (hidle _ ht) (hidle _ hu)
  | cons c h => simp

/-- Behind the blanks at the front, both texts are at their ends or at one character. -/
lemma blanks_cases (h : Alike t u) :
    (Scan.blanks t = [] ∧ Scan.blanks u = []) ∨ ∃ c x y, isBlank c = false ∧
      Scan.blanks t = c :: x ∧ Scan.blanks u = c :: y ∧ Alike x y := by
  induction h with
  | idle ht hu => exact Or.inl ⟨blanks_of_idle ht, blanks_of_idle hu⟩
  | @cons c t u h ih =>
    by_cases hc : isBlank c = true
    · simpa [Scan.blanks, hc] using ih
    · right
      refine ⟨c, t, u, by simpa using hc, ?_, ?_, h⟩
      · exact List.dropWhile_cons_of_neg hc
      · exact List.dropWhile_cons_of_neg hc

lemma alike_blanks (h : Alike t u) : Alike (Scan.blanks t) (Scan.blanks u) := by
  rcases blanks_cases h with ⟨ht, hu⟩ | ⟨c, x, y, -, ht, hu, hxy⟩
  · rw [ht, hu]
    exact alike_refl []
  · rw [ht, hu]
    exact .cons c hxy

/-- A run of characters that are no blanks ends before the blanks. -/
lemma alike_run (hclass : ∀ c, isBlank c = true → inClass c = false) (h : Alike t u) :
    t.takeWhile inClass = u.takeWhile inClass ∧
      Alike (t.dropWhile inClass) (u.dropWhile inClass) := by
  induction h with
  | @idle t u ht hu =>
    have hstop : ∀ t : Text, (∀ c ∈ t, isBlank c = true) →
        t.takeWhile inClass = [] ∧ t.dropWhile inClass = t := by
      intro t ht
      cases t with
      | nil => exact ⟨rfl, rfl⟩
      | cons c t => simp [hclass c (ht c List.mem_cons_self)]
    rw [(hstop t ht).1, (hstop u hu).1, (hstop t ht).2, (hstop u hu).2]
    exact ⟨rfl, .idle ht hu⟩
  | @cons c t u h ih =>
    by_cases hc : inClass c = true
    · simpa [hc] using ih
    · simpa [hc] using Alike.cons c h

lemma blind_trimEnd : Blind (Text.trimEnd isBlank) := by
  have hdrop (core : Text) {a : Text} (ha : ∀ c ∈ a, isBlank c = true) :
      Text.trimEnd isBlank (core ++ a) = Text.trimEnd isBlank core := by
    have hreverse : ∀ c ∈ a.reverse, isBlank c = true := by simpa using ha
    rw [Text.trimEnd, List.reverse_append, List.dropWhile_append_of_pos hreverse]
    rfl
  intro t u h
  obtain ⟨core, a, b, rfl, rfl, ha, hb⟩ := split_of_alike h
  rw [hdrop core ha, hdrop core hb]

end

/-! ### Readers -/

section

variable {β : Type}

lemma Blind.blanks {f : Text → β} (hf : Blind f) : Blind fun t => f (Scan.blanks t) :=
  fun _ _ h => hf (alike_blanks h)

lemma char?_of_idle {c : Char} (hc : isBlank c = false) {t : Text}
    (ht : ∀ d ∈ t, isBlank d = true) : Scan.char? c t = none := by
  cases t with
  | nil => rfl
  | cons d t =>
    have hne : d ≠ c := ne_of_blank (ht d List.mem_cons_self) hc
    simp [Scan.char?, hne]

lemma Blind.char {c : Char} (hc : isBlank c = false) {f : Text → Option β} (hf : Blind f) :
    Blind fun t => (Scan.char? c t).bind f := by
  intro t u h
  beta_reduce
  cases h with
  | idle ht hu => rw [char?_of_idle hc ht, char?_of_idle hc hu]
  | cons d h =>
    unfold Scan.char?
    by_cases hd : d = c
    · simpa [hd] using hf h
    · simp [hd]

lemma Blind.run1 {inClass : Char → Bool} (hclass : ∀ c, isBlank c = true → inClass c = false)
    {f : Text × Text → Option β} (hf : ∀ taken, Blind fun rest => f (taken, rest)) :
    Blind fun t => (Scan.run1? inClass t).bind f := by
  intro t u h
  beta_reduce
  obtain ⟨htake, hdrop⟩ := alike_run hclass h
  unfold Scan.run1?
  rw [htake]
  split
  · rfl
  · exact hf _ hdrop

lemma Blind.digits {f : Text × Text → Option β} (hf : ∀ taken, Blind fun rest => f (taken, rest)) :
    Blind fun t => (Scan.digits? t).bind f :=
  Blind.run1 (fun _ => isDigit_of_blank) hf

/-- One or more blanks may be all that there is, and then nothing must be read behind them. -/
lemma Blind.blanks1 {f : Text → Option β} (hf : Blind f) (hnil : f [] = none) :
    Blind fun t => (Scan.blanks1? t).bind f := by
  have hidle : ∀ t : Text, (∀ c ∈ t, isBlank c = true) → (Scan.blanks1? t).bind f = none := by
    intro t ht
    cases t with
    | nil => rfl
    | cons c t =>
      have hrest : ∀ d ∈ t, isBlank d = true := fun d hd => ht d (List.mem_cons_of_mem c hd)
      simp [Scan.blanks1?, ht c List.mem_cons_self, blanks_of_idle hrest, hnil]
  intro t u h
  beta_reduce
  cases h with
  | idle ht hu => rw [hidle t ht, hidle u hu]
  | cons c h =>
    unfold Scan.blanks1?
    by_cases hc : isBlank c = true
    · simpa [hc] using hf (alike_blanks h)
    · simp [hc]

/-- The text up to a quote may hold blanks, but they are not at the end: the quote is behind them. -/
lemma Blind.upto_quote {f : Text × Text → Option β}
    (hf : ∀ taken, Blind fun rest => f (taken, rest)) :
    Blind fun t => (Scan.char? '"' (t.dropWhile (· ≠ '"'))).bind fun rest =>
      f (t.takeWhile (· ≠ '"'), rest) := by
  have hidle : ∀ t : Text, (∀ c ∈ t, isBlank c = true) → t.dropWhile (· ≠ '"') = [] := by
    intro t ht
    apply List.dropWhile_eq_nil_iff.mpr
    intro c hc
    have hne : c ≠ '"' := ne_of_blank (ht c hc) (by decide)
    simpa using hne
  intro t u h
  beta_reduce
  -- what is in front of the quote grows along the text, and the reader gets all of it
  induction h generalizing f with
  | idle ht hu =>
    rw [hidle _ ht, hidle _ hu]
    rfl
  | @cons c t u h ih =>
    by_cases hc : c = '"'
    · subst hc
      simpa [Scan.char?] using hf [] h
    · have hrest := ih (f := fun p => f (c :: p.1, p.2)) fun taken => hf (c :: taken)
      simpa [hc] using hrest

lemma Blind.quoted {f : Text × Text → Option β} (hf : ∀ taken, Blind fun rest => f (taken, rest)) :
    Blind fun t => (Scan.quoted? t).bind f := by
  have hopen := Blind.char (c := '"') (by decide) (Blind.upto_quote hf)
  simpa [Scan.quoted?, Option.bind_assoc] using hopen

/-- A directive has the same word at its front, and operands that are alike. -/
lemma blind_of_directive {f : Option Directive → β}
    (hf : ∀ name, Blind fun operands => f (some ⟨name, operands⟩)) :
    Blind fun line => f (Directive.ofLine? line) := by
  intro t u h
  beta_reduce
  unfold Directive.ofLine?
  rcases blanks_cases h with ⟨ht, hu⟩ | ⟨c, x, y, -, ht, hu, hxy⟩
  · simp [ht, hu]
  · rw [ht, hu]
    by_cases hc : c = '.'
    · subst hc
      obtain ⟨htake, hdrop⟩ := alike_run (fun _ => isWord_eq_false_of_isBlank) hxy
      simpa [htake] using hf _ hdrop
    · simp [hc]

end

/-! ### Readings of a line -/

lemma blind_marker : Blind Marker.ofLine? := by
  have hlocation : Blind Marker.location? :=
    Blind.blanks1 (Blind.digits fun file => Blind.blanks1
      (Blind.digits fun line _ _ _ => rfl) rfl) rfl
  have hstab : Blind Marker.stab? :=
    Blind.blanks1 (Blind.digits fun code => Blind.blanks (Blind.char (by decide)
      (Blind.blanks (Blind.char (by decide) (Blind.blanks (Blind.char (by decide)
        (Blind.blanks (Blind.digits fun line => Blind.blanks (Blind.char (by decide)
          fun _ _ _ => rfl))))))))) rfl
  refine blind_of_directive (f := fun d => d.bind fun d =>
    if d.name = "loc".toList then Marker.location? d.operands
    else if d.name = "stabn".toList then Marker.stab? d.operands else none) fun name t u h => ?_
  simp only [Option.bind_some, hlocation h, hstab h]

/-- Where a number stands, blanks have to follow it, and something behind them. -/
lemma Blind.fileIndex {β : Type} {f : Option Nat × Text → Option β}
    (hf : ∀ index, Blind fun rest => f (index, rest)) (hnil : ∀ index, f (index, []) = none) :
    Blind fun t => (fileIndex? t).bind f := by
  intro t u h
  beta_reduce
  obtain ⟨htake, hdrop⟩ := alike_run (fun _ => isDigit_of_blank) h
  unfold fileIndex? Scan.digits? Scan.run1?
  rw [htake]
  cases hdigits : u.takeWhile isDigit with
  | nil => exact hf none h
  | cons c digits =>
    have hrest := Blind.blanks1 (hf (some (lineNumeral (c :: digits)))) (hnil _) hdrop
    simpa [Option.bind_map, Function.comp_def] using hrest

/-- The entry with the path that was read, or with the one behind it. -/
def entryBehind (index : Option Nat) (first : Text × Text) : Option FileEntry :=
  ((Scan.blanks1? first.2).bind Scan.quoted?).elim (some ⟨index, first.1⟩) fun second =>
    some ⟨index, second.1⟩

lemma ofOperands?_eq (operands : Text) :
    FileEntry.ofOperands? operands = (Scan.blanks1? operands).bind fun t =>
      (fileIndex? t).bind fun p => (Scan.quoted? p.2).bind (entryBehind p.1) := by
  unfold FileEntry.ofOperands?
  refine Option.bind_congr fun t _ => Option.bind_congr fun p _ => Option.bind_congr fun q _ => ?_
  obtain ⟨first, rest⟩ := q
  dsimp only [entryBehind]
  cases (Scan.blanks1? rest).bind Scan.quoted? <;> rfl

lemma blind_fileEntry : Blind FileEntry.ofLine? := by
  have hsecond (index : Option Nat) (first : Text) : Blind fun t => entryBehind index (first, t) := by
    have hread := Blind.blanks1 (f := fun t => (Scan.quoted? t).map Prod.fst)
      (by simpa [Option.map_eq_bind] using Blind.quoted fun taken _ _ _ => rfl) rfl
    intro t u h
    have hpath : ((Scan.blanks1? t).bind Scan.quoted?).map Prod.fst =
        ((Scan.blanks1? u).bind Scan.quoted?).map Prod.fst :=
      Option.map_bind.trans ((hread h).trans Option.map_bind.symm)
    have hentry := congrArg (Option.elim · (some (FileEntry.mk index first)) fun second =>
      some ⟨index, second⟩) hpath
    simpa only [Option.elim_map, Function.comp_def, entryBehind] using hentry
  have hoperands : Blind FileEntry.ofOperands? := by
    intro t u h
    rw [ofOperands?_eq, ofOperands?_eq]
    exact Blind.blanks1 (Blind.fileIndex (f := fun p => (Scan.quoted? p.2).bind (entryBehind p.1))
      (fun index => Blind.quoted (hsecond index)) fun _ => rfl) rfl h
  refine blind_of_directive (f := fun d => d.bind fun d =>
    if d.name = "file".toList then FileEntry.ofOperands? d.operands else none) fun name t u h => ?_
  simp only [Option.bind_some, hoperands h]

lemma blind_section : Blind sectionSwitch? := by
  have hquote {t u : Text} (h : Alike t u) :
      Alike ((Scan.char? '"' t).getD t) ((Scan.char? '"' u).getD u) := by
    cases h with
    | idle ht hu =>
      rw [char?_of_idle (by decide) ht, char?_of_idle (by decide) hu]
      exact .idle ht hu
    | cons c h =>
      unfold Scan.char?
      by_cases hc : c = '"'
      · simpa [hc] using h
      · simpa [hc] using Alike.cons c h
  have hnamed : Blind namedSection? := by
    refine Blind.blanks1 (fun t u h => ?_) rfl
    have hclass : ∀ c, isBlank c = true → isSectionChar c = false := by
      intro c hc
      simp [isSectionChar, hc]
    exact Blind.run1 hclass (fun taken _ _ _ => rfl) (hquote h)
  refine blind_of_directive (f := fun d => d.bind fun d =>
    if ["text".toList, "data".toList, "bss".toList].contains d.name then some ('.' :: d.name)
    else if ["section".toList, "pushsection".toList].contains d.name then namedSection? d.operands
    else if ["popsection".toList, "previous".toList].contains d.name then some ".text".toList
    else none) fun name t u h => ?_
  simp only [Option.bind_some, hnamed h]

lemma blind_declared : Blind declaredSymbol? := by
  have hclass : ∀ c, isBlank c = true → (!isBlank c && c != ',') = false := by
    intro c hc
    simp [hc]
  have hoperand : Blind fun operands => (Scan.blanks1? operands).bind fun t =>
      (Scan.run1? (fun c => !isBlank c && c != ',') t).bind fun p => some p.1 :=
    Blind.blanks1 (Blind.run1 hclass fun name _ _ _ => rfl) rfl
  refine blind_of_directive (f := fun d => d.bind fun d =>
    if declarationNames.contains d.name then (Scan.blanks1? d.operands).bind fun t =>
      (Scan.run1? (fun c => !isBlank c && c != ',') t).bind fun p => some p.1
    else none) fun name t u h => ?_
  have hread := hoperand h
  simp only [Option.bind_some] at hread ⊢
  rw [hread]

lemma blind_directive : Blind isDirective :=
  blind_of_directive (f := Option.isSome) fun _ _ _ _ => rfl

lemma blind_data : Blind isDataDefinition := by
  have hany : isDataDefinition = fun line =>
      (Directive.ofLine? line).any fun d => dataNames.contains d.name := by
    funext line
    unfold isDataDefinition
    cases Directive.ofLine? line <;> rfl
  rw [hany]
  exact blind_of_directive (f := Option.any fun d => dataNames.contains d.name) fun _ _ _ _ => rfl

lemma blind_functionEnd : Blind isFunctionEnd := by
  have hany : isFunctionEnd = fun line =>
      (Directive.ofLine? line).any fun d => d.name = "cfi_endproc".toList := by
    funext line
    unfold isFunctionEnd
    cases Directive.ofLine? line <;> rfl
  rw [hany]
  exact blind_of_directive (f := Option.any fun d => d.name = "cfi_endproc".toList)
    fun _ _ _ _ => rfl

/-- A colon that no second colon follows stands at the front. -/
def opensCode : Text → Bool
  | [':'] => true
  | ':' :: d :: _ => d != ':'
  | _ => false

lemma plainLabel?_eq (line : Text) :
    plainLabel? line = match Scan.blanks line with
      | [] => none
      | c :: rest =>
        if isSymbolStart c && opensCode (rest.dropWhile isLabelChar) then
          some (c :: rest.takeWhile isLabelChar)
        else none := by
  unfold plainLabel?
  cases Scan.blanks line with
  | nil => rfl
  | cons c rest =>
    dsimp only
    by_cases hstart : isSymbolStart c = true
    · simp only [hstart, if_true, Bool.true_and]
      generalize rest.dropWhile isLabelChar = behind
      unfold opensCode
      rcases behind with _ | ⟨d, _ | ⟨e, behind⟩⟩
      · rfl
      · by_cases hd : d = ':' <;> simp [hd]
      · by_cases hd : d = ':' <;> by_cases he : e = ':' <;> simp [hd, he]
    · simp [hstart]

lemma blind_opensCode : Blind opensCode := by
  have hidle : ∀ t : Text, (∀ c ∈ t, isBlank c = true) →
      opensCode t = false ∧ opensCode (':' :: t) = true := by
    intro t ht
    cases t with
    | nil => exact ⟨rfl, rfl⟩
    | cons c t =>
      have hne : c ≠ ':' := ne_of_blank (ht c List.mem_cons_self) (by decide)
      simp [opensCode, hne]
  intro t u h
  cases h with
  | idle ht hu => rw [(hidle _ ht).1, (hidle _ hu).1]
  | cons c h =>
    by_cases hc : c = ':'
    · subst hc
      cases h with
      | idle ht hu => rw [(hidle _ ht).2, (hidle _ hu).2]
      | cons d h => rfl
    · simp [opensCode, hc]

lemma blind_plainLabel : Blind plainLabel? := by
  intro t u h
  rw [plainLabel?_eq, plainLabel?_eq]
  rcases blanks_cases h with ⟨ht, hu⟩ | ⟨c, x, y, -, ht, hu, hxy⟩
  · rw [ht, hu]
  · obtain ⟨htake, hdrop⟩ := alike_run (fun _ => isLabelChar_of_blank) hxy
    simp only [ht, hu, htake, blind_opensCode hdrop]

lemma blind_idleTail : Blind isIdleTail := by
  intro t u h
  unfold isIdleTail
  rcases blanks_cases h with ⟨ht, hu⟩ | ⟨c, x, y, -, ht, hu, -⟩ <;> simp [ht, hu]

lemma blind_freeLabel : Blind freeLabel? := by
  have hupto : Blind uptoIdleColon? := by
    have hidle : ∀ t : Text, (∀ c ∈ t, isBlank c = true) → uptoIdleColon? t = none := by
      intro t ht
      induction t with
      | nil => rfl
      | cons c t ih =>
        have hne : c ≠ ':' := ne_of_blank (ht c List.mem_cons_self) (by decide)
        rw [uptoIdleColon?, if_neg fun h => hne h.1, ih fun d hd => ht d (List.mem_cons_of_mem c hd)]
        rfl
    intro t u h
    induction h with
    | idle ht hu => rw [hidle _ ht, hidle _ hu]
    | cons c h ih => rw [uptoIdleColon?, uptoIdleColon?, blind_idleTail h, ih]
  have hidle : ∀ t : Text, (∀ c ∈ t, isBlank c = true) → freeLabel? t = none := by
    intro t ht
    cases t with
    | nil => rfl
    | cons c t => simp [freeLabel?, ht c List.mem_cons_self]
  intro t u h
  cases h with
  | idle ht hu => rw [hidle t ht, hidle u hu]
  | cons c h => rw [freeLabel?, freeLabel?, hupto h]

lemma blind_label : Blind label? := by
  intro t u h
  rw [label?, label?, blind_plainLabel h, blind_freeLabel h]

lemma blind_symbols : Blind symbols := by
  have hdrop (core : Text) {a : Text} (ha : ∀ c ∈ a, isBlank c = true) :
      symbols (core ++ a) = symbols core := by
    cases a with
    | nil => rw [List.append_nil]
    | cons c a =>
      -- the first blank ends a symbol in front of it, and no symbol begins behind it
      have hrest : ∀ d ∈ a, isSymbolStart d = false := fun d hd =>
        isSymbolStart_of_border (isSymbolChar_of_blank (ha d (List.mem_cons_of_mem c hd)))
      have hnone : symbols a = [] := by
        rw [← List.append_nil a, symbols_append_idle hrest, symbols]
      rw [symbols_append_border (isSymbolChar_of_blank (ha c List.mem_cons_self)), hnone,
        List.append_nil]
  intro t u h
  obtain ⟨core, a, b, rfl, rfl, ha, hb⟩ := split_of_alike h
  rw [hdrop core ha, hdrop core hb]

/-- A line without tabs need not be gone through. -/
lemma expandTabs_eq (t : Text) : Text.expandTabs t = Text.expandTabsFrom 0 t := by
  have hloop : ∀ (column : Nat) (t : Text), '\t' ∉ t → Text.expandTabsFrom column t = t := by
    intro column t ht
    induction t generalizing column with
    | nil => rfl
    | cons c t ih =>
      rw [List.mem_cons, not_or] at ht
      rw [Text.expandTabsFrom, if_neg (Ne.symm ht.1), ih _ ht.2]
  unfold Text.expandTabs
  split
  · rfl
  · next htab => exact (hloop 0 t htab).symm

lemma alike_expandTabsFrom {t u : Text} (column : Nat) (h : Alike t u) :
    Alike (Text.expandTabsFrom column t) (Text.expandTabsFrom column u) := by
  have hidle : ∀ t : Text, (∀ c ∈ t, isBlank c = true) → ∀ column,
      ∀ c ∈ Text.expandTabsFrom column t, isBlank c = true := by
    intro t ht column c hc
    rcases mem_of_mem_expandTabsFrom hc with rfl | hmem
    · decide
    · exact ht c hmem
  induction h generalizing column with
  | idle ht hu => exact .idle (hidle _ ht column) (hidle _ hu column)
  | cons c h ih =>
    rw [Text.expandTabsFrom, Text.expandTabsFrom]
    split
    · exact alike_append_left _ (ih _)
    · exact .cons c (ih _)

lemma blind_displayForm : Blind Text.displayForm := by
  intro t u h
  rw [Text.displayForm, Text.displayForm, expandTabs_eq, expandTabs_eq]
  exact blind_trimEnd (alike_expandTabsFrom 0 h)

/-! ### Comments -/

/-- A comment that goes on to the end of its line, whatever that is, begins on a text. -/
def OpensComment (line : Text) : Prop :=
  (∃ rest, Scan.blanks line = '/' :: '/' :: rest) ∨
    ∃ c rest, Scan.blanks line = c :: rest ∧ isCommentSign c = true

lemma opensComment_congr {t u : Text} (h : Alike t u) : OpensComment t ↔ OpensComment u := by
  unfold OpensComment
  rcases blanks_cases h with ⟨ht, hu⟩ | ⟨c, x, y, -, ht, hu, hxy⟩
  · rw [ht, hu]
  · have hsecond : (∃ rest, x = '/' :: rest) ↔ ∃ rest, y = '/' :: rest :=
      head_iff_of_alike (by decide) hxy
    simp only [ht, hu, List.cons.injEq, exists_and_left, hsecond]
    simp

lemma isComment_iff {line : Text} :
    isComment line = true ↔ OpensComment line ∨ IsFramedByComments line := by
  constructor
  · intro h
    rcases isComment_cases h with hline | hframed | hsign
    · exact Or.inl (Or.inl hline)
    · exact Or.inr hframed
    · exact Or.inl (Or.inr hsign)
  · rintro ((⟨rest, hblanks⟩ | ⟨c, rest, hblanks, hsign⟩) | hframed)
    · rw [isComment, hblanks]
      rfl
    · have hslash : c ≠ '/' := by
        rintro rfl
        exact absurd hsign (by decide)
      rw [isComment, hblanks]
      simpa [hslash] using hsign
    · exact isComment_of_framed hframed

lemma not_opensComment_of_framed {line : Text} (h : IsFramedByComments line) :
    ¬OpensComment line := by
  obtain ⟨middle, hframed⟩ := h
  have hblanks : Scan.blanks line = '/' :: '*' :: (middle ++ "*/".toList) := hframed
  rintro (⟨rest, hslashes⟩ | ⟨c, rest, hsign, hc⟩)
  · rw [hblanks] at hslashes
    simp at hslashes
  · rw [hblanks] at hsign
    obtain ⟨rfl, -⟩ := List.cons.inj hsign
    exact absurd hc (by decide)

lemma not_framed_of_pad {pad : Text} (hpad : ∀ c ∈ pad, isBlank c = true) (hne : pad ≠ [])
    (line : Text) : ¬IsFramedByComments (line ++ pad) := by
  rintro ⟨middle, hframed⟩
  obtain ⟨front, hfront⟩ := List.dropWhile_suffix (l := line ++ pad) isBlank
  have hend : line ++ pad = front ++ "/*".toList ++ middle ++ ['*'] ++ ['/'] := by
    rw [← hfront]
    change front ++ Scan.blanks (line ++ pad) = _
    rw [hframed]
    simp
  have hlast : pad.getLast? = some '/' := by
    rw [← List.getLast?_append_of_ne_nil line hne, hend]
    exact List.getLast?_concat
  exact absurd (hpad '/' (List.mem_of_getLast? hlast)) (by decide)

/-- A comment is still one with blanks behind it, unless it has to end the line: one that starts with a
slash and a star and ends with a star and a slash. -/
lemma isComment_append_iff {pad : Text} (hpad : ∀ c ∈ pad, isBlank c = true) (line : Text) :
    isComment (line ++ pad) = isComment line ↔ pad = [] ∨ ¬IsFramedByComments line := by
  by_cases hnil : pad = []
  · simp [hnil]
  · have hopens := opensComment_congr (alike_append hpad line)
    have hpadded := not_framed_of_pad hpad hnil line
    rw [Bool.eq_iff_iff, isComment_iff, isComment_iff, ← hopens]
    by_cases hframed : IsFramedByComments line
    · simp [hnil, hpadded, hframed, not_opensComment_of_framed hframed]
    · simp [hpadded, hframed]

/-! ### References -/

lemma mentions_congr {t u : Text} (h : Alike t u) (hcomment : isComment t = isComment u) :
    mentions? t = mentions? u := by
  unfold mentions?
  rw [hcomment, blind_declared h, blind_label h, blind_directive h, blind_data h,
    blind_symbols (alike_blanks h)]

/-- A piece that does not end in a blank does not reach into the blanks at the end. -/
lemma occursIn_congr {piece t u : Text} (hpiece : ∀ c ∈ piece.getLast?, isBlank c = false)
    (h : Alike t u) : Text.occursIn piece t = Text.occursIn piece u := by
  have hdrop (core : Text) {a : Text} (ha : ∀ c ∈ a, isBlank c = true) :
      piece <:+: core ++ a ↔ piece <:+: core := by
    induction a using List.reverseRecOn with
    | nil => rw [List.append_nil]
    | append_singleton a c ih =>
      have hfront : ∀ d ∈ a, isBlank d = true := fun d hd => ha d (List.mem_append_left _ hd)
      rw [← List.append_assoc, List.infix_concat_iff, ih hfront]
      refine or_iff_right_of_imp fun hsuffix => ?_
      rcases List.eq_nil_or_concat' piece with rfl | ⟨front, d, rfl⟩
      · exact List.nil_infix
      · -- the piece would end with the blank
        have hend : d = c := by
          obtain ⟨before, hbefore⟩ := hsuffix
          rw [← List.append_assoc] at hbefore
          exact (List.append_inj' hbefore rfl).2 |> List.singleton_inj.mp
        have hblank := ha c (by simp)
        rw [← hend, hpiece d (by simp)] at hblank
        cases hblank
  obtain ⟨core, a, b, rfl, rfl, ha, hb⟩ := split_of_alike h
  rw [Bool.eq_iff_iff, occursIn_iff, occursIn_iff, hdrop core ha, hdrop core hb]

end AsmExplorer.Proofs
