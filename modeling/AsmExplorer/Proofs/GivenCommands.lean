import AsmExplorer.Proofs.CommandWords

/-!
# The recorded command, given anew

A request may give a command in place of the recorded one, and it may give the recorded words
themselves. Outputs are left out of both alike. But the recorded words are freed of every spelling
of the source file, and given ones only of the canonical spelling, so a spelling of another kind
stays and the source file is passed twice.
-/

namespace AsmExplorer.Proofs

open Command

lemma keptArguments_eq_remaining (source : Text) (words : List Text) :
    CompileCommand.keptArguments source words = remaining [source] words := by
  rw [remaining_eq_filter, CompileCommand.keptArguments]
  congr 1
  funext word
  simp

lemma command_given (p : Pipeline) (i : Invocation) (program : Text) (rest : List Text) :
    p.command i (program :: rest) = ⟨program,
      remaining [i.source.text] rest ++ [i.source.text] ++ p.options.outputFlags⟩ := by
  rw [← keptArguments_eq_remaining]
  rfl

/-- With more spellings to leave out, what is left are those of the words that spell nothing. -/
lemma remaining_of_subset {fewer more : List Text} (h : fewer ⊆ more) (words : List Text) :
    remaining more words = (remaining fewer words).filter fun word => word ∉ more := by
  rw [remaining_eq_filter, remaining_eq_filter, List.filter_filter]
  apply List.filter_congr
  intro word _
  by_cases hmore : word ∈ more
  · simp [hmore]
  · have hfewer : word ∉ fewer := fun hmem => hmore (h hmem)
    simp [hmore, hfewer]

lemma remaining_eq_iff {fewer more : List Text} (h : fewer ⊆ more) (words : List Text) :
    remaining fewer words = remaining more words ↔
      ∀ word ∈ remaining fewer words, word ∉ more := by
  rw [remaining_of_subset h, eq_comm, List.filter_eq_self]
  simp only [decide_eq_true_eq]

section

variable {host : Host} {e : CompileEntry} {base : Path} {program : Text} {rest : List Text}

lemma keptWords_of_program (hwords : e.words = program :: rest)
    (hoption : program ∉ [outputOption, "-c".toList, "-g".toList])
    (hspelling : program ∉ e.sourceWords host base) :
    e.keptWords host base = program :: remaining (e.sourceWords host base) rest := by
  have hstays : Stays (e.sourceWords host base) [] program := ⟨hoption, hspelling, Even.zero⟩
  have hne : program ≠ outputOption := fun heq => hoption (heq ▸ List.mem_cons_self)
  have hkept : e.keptWords host base = remaining (e.sourceWords host base) e.words :=
    (remaining_eq_filter _ _).symm
  rw [hkept, hwords, remaining, remainingAfter_cons, if_pos hstays, List.singleton_append,
    remaining_eq_filter]
  congr 1
  exact remainingAfter_eq_filter _ _ _ (even_outputsAtEnd_of_ne hne)

lemma invocation?_of_program (hwords : e.words = program :: rest)
    (hoption : program ∉ [outputOption, "-c".toList, "-g".toList])
    (hspelling : program ∉ e.sourceWords host base) :
    e.invocation? host base =
      some ⟨e.source host base, e.directoryFrom base, program,
        remaining (e.sourceWords host base) rest⟩ := by
  rw [CompileEntry.invocation?, keptWords_of_program hwords hoption hspelling]

end

/-- The words of an entry, given as a command, make the recorded command exactly if no word that is
left behind the program is a spelling of the source file other than the canonical one. -/
theorem given_words_agree_iff (p : Pipeline) (host : Host) (e : CompileEntry) (base : Path)
    (program : Text) (rest : List Text) (hwords : e.words = program :: rest)
    (hoption : program ∉ [outputOption, "-c".toList, "-g".toList])
    (hspelling : program ∉ e.sourceWords host base) :
    ∃ i, e.invocation? host base = some i ∧ i.source = e.source host base ∧
      p.command i e.words = ⟨program,
        remaining [i.source.text] rest ++ [i.source.text] ++ p.options.outputFlags⟩ ∧
      p.command i [] = ⟨program,
        remaining (e.sourceWords host base) rest ++ [i.source.text] ++ p.options.outputFlags⟩ ∧
      (p.command i e.words = p.command i [] ↔
        ∀ word ∈ remaining [i.source.text] rest, word ∉ e.sourceWords host base) := by
  have hsource : [(e.source host base).text] ⊆ e.sourceWords host base := by
    intro word hword
    rw [List.mem_singleton.mp hword]
    exact List.mem_cons_of_mem _ (List.mem_cons_of_mem _ List.mem_cons_self)
  refine ⟨_, invocation?_of_program hwords hoption hspelling, rfl, ?_, rfl, ?_⟩
  · rw [hwords, command_given]
  · rw [hwords, command_given, ← remaining_eq_iff hsource]
    simp [Pipeline.command, CompileCommand.ofInvocation, CompileCommand.start]

/-- An entry that writes its source file in full and has outputs everywhere. -/
def fullEntry : CompileEntry where
  directory := .ofString "/src"
  file := .ofString "/src/main.c"
  arguments := some (["g++", "-c", "-O2", "-o", "-o", "/src/main.c", "-g"].map String.toList)

theorem given_words_agree_on_full_entry :
    ∃ i, fullEntry.invocation? default (.ofString "/w") = some i ∧
      (default : Pipeline).command i fullEntry.words = (default : Pipeline).command i [] := by
  obtain ⟨i, hi, hsource, -, -, hagree⟩ :=
    given_words_agree_iff default default fullEntry (.ofString "/w") "g++".toList
      (["-c", "-O2", "-o", "-o", "/src/main.c", "-g"].map String.toList) rfl (by decide)
      (by decide +kernel)
  refine ⟨i, hi, hagree.mpr ?_⟩
  rw [hsource]
  decide +kernel

/-- An entry that writes its source file as seen from its directory. -/
def shortEntry : CompileEntry where
  directory := .ofString "/src"
  file := .ofString "main.c"
  arguments := some (["g++", "-O2", "-c", "main.c", "-o", "main.o"].map String.toList)

def shortInvocation : Invocation :=
  ⟨.ofString "/src/main.c", .ofString "/src", "g++".toList, ["-O2".toList]⟩

/-- Given its own words, the short entry passes the source file twice. -/
theorem short_entry_passes_source_twice :
    shortEntry.words.head? = some "g++".toList ∧
      "g++".toList ∉ [outputOption, "-c".toList, "-g".toList] ∧
      "g++".toList ∉ shortEntry.sourceWords default (.ofString "/w") ∧
      shortEntry.invocation? default (.ofString "/w") = some shortInvocation ∧
      ((default : Pipeline).command shortInvocation []).arguments =
        ["-O2", "/src/main.c", "-g", "-S", "-o", "-"].map String.toList ∧
      ((default : Pipeline).command shortInvocation shortEntry.words).arguments =
        ["-O2", "main.c", "/src/main.c", "-g", "-S", "-o", "-"].map String.toList ∧
      (default : Pipeline).command shortInvocation shortEntry.words ≠
        (default : Pipeline).command shortInvocation [] := by
  decide +kernel

end AsmExplorer.Proofs
