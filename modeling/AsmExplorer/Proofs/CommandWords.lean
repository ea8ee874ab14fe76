import AsmExplorer.Explorer.Basic
import Mathlib.Algebra.Group.Nat.Even
import Mathlib.Tactic.Lemma

/-!
# Words of a command

Which words of a recorded or given command are left in the command that is run. A word is judged by
itself and by the words before it: of `-o`s that follow each other, every second one is the value of
the one before it, and so is whatever comes behind an odd number of them.
-/

namespace AsmExplorer.Proofs

open Command

/-- The option that has a value. -/
def outputOption : Text := "-o".toList

/-- How many `-o`s end a list of words. -/
def outputsAtEnd (words : List Text) : Nat :=
  (words.reverse.takeWhile (· = outputOption)).length

/-- Whether a word is left when it stands behind other words: it is no option about outputs, it is
no value of one, and it does not spell the source file. -/
def Stays (spellings before : List Text) (word : Text) : Prop :=
  word ∉ [outputOption, "-c".toList, "-g".toList] ∧ word ∉ spellings ∧ Even (outputsAtEnd before)

instance (spellings before : List Text) (word : Text) : Decidable (Stays spellings before word) :=
  inferInstanceAs (Decidable (_ ∧ _ ∧ _))

/-- What is left of words that stand behind others. -/
def remainingAfter (spellings before words : List Text) : List Text :=
  ((words.zipIdx before.length).filter fun p =>
    Stays spellings ((before ++ words).take p.2) p.1).map Prod.fst

/-- What is left of words. -/
def remaining (spellings words : List Text) : List Text :=
  remainingAfter spellings [] words

lemma dropOutputArguments_output (value : Text) (rest : List Text) :
    dropOutputArguments (outputOption :: value :: rest) = dropOutputArguments rest := by
  rw [dropOutputArguments.eq_def]
  exact if_pos rfl

lemma dropOutputArguments_cons {word : Text} (h : word ≠ outputOption) (rest : List Text) :
    dropOutputArguments (word :: rest) =
      (if word = "-c".toList ∨ word = "-g".toList then [] else [word]) ++
        dropOutputArguments rest := by
  rw [dropOutputArguments.eq_def]
  refine (if_neg h).trans ?_
  split
  · rfl
  · rfl

lemma outputsAtEnd_append (before : List Text) (word : Text) :
    outputsAtEnd (before ++ [word]) =
      if word = outputOption then outputsAtEnd before + 1 else 0 := by
  rw [outputsAtEnd, List.reverse_append, List.reverse_singleton, List.singleton_append,
    List.takeWhile_cons]
  by_cases hword : word = outputOption
  · simp [hword, outputsAtEnd]
  · simp [hword]

lemma even_outputsAtEnd_of_ne {before : List Text} {word : Text} (h : word ≠ outputOption) :
    Even (outputsAtEnd (before ++ [word])) := by
  rw [outputsAtEnd_append, if_neg h]
  exact Even.zero

section

variable {spellings before words : List Text} {word : Text}

lemma remainingAfter_nil : remainingAfter spellings before [] = [] := rfl

lemma remainingAfter_cons (spellings before words : List Text) (word : Text) :
    remainingAfter spellings before (word :: words) =
      (if Stays spellings before word then [word] else []) ++
        remainingAfter spellings (before ++ [word]) words := by
  have hhere : (before ++ word :: words).take before.length = before := List.take_left
  have hrest : before ++ word :: words = before ++ [word] ++ words := by simp
  have hlength : (before ++ [word]).length = before.length + 1 := List.length_append
  rw [remainingAfter, remainingAfter, hlength, List.zipIdx_cons, List.filter_cons, hhere, hrest]
  split
  · next h => rw [if_pos (of_decide_eq_true h), List.map_cons, List.singleton_append]
  · next h => rw [if_neg (by simpa using h), List.nil_append]

/-- Where no `-o` waits for its value, the words are judged as if they stood alone. The invariant
along the words is that an even number of `-o`s has just been read. -/
lemma remainingAfter_eq_filter (spellings : List Text) (before words : List Text)
    (heven : Even (outputsAtEnd before)) :
    remainingAfter spellings before words =
      (dropOutputArguments words).filter fun word => !spellings.contains word := by
  induction words using dropOutputArguments.induct generalizing before with
  | case1 => rfl
  | case2 =>
    rw [remainingAfter_cons, remainingAfter_nil, if_neg (fun h => h.1 List.mem_cons_self)]
    rfl
  | case3 value rest ih =>
    have hodd : ¬Even (outputsAtEnd (before ++ [outputOption])) := by
      rw [outputsAtEnd_append, if_pos rfl, Nat.even_add_one, not_not]
      exact heven
    have hpair : Even (outputsAtEnd (before ++ [outputOption] ++ [value])) := by
      rw [outputsAtEnd_append]
      split
      · rw [Nat.even_add_one]
        exact hodd
      · exact Even.zero
    rw [show "-o".toList = outputOption from rfl, dropOutputArguments_output, remainingAfter_cons,
      remainingAfter_cons, if_neg (fun h => h.1 List.mem_cons_self), if_neg (fun h => hodd h.2.2),
      List.nil_append, List.nil_append, ih _ hpair]
  | case4 word rest hoption hflag ih =>
    have hgone : ¬Stays spellings before word := by
      intro h
      rcases hflag with rfl | rfl
      · exact h.1 (by decide)
      · exact h.1 (by decide)
    rw [dropOutputArguments_cons hoption, if_pos hflag, remainingAfter_cons, if_neg hgone,
      List.nil_append, List.nil_append, ih _ (even_outputsAtEnd_of_ne hoption)]
  | case5 word rest hoption hflag ih =>
    have hplain : word ∉ [outputOption, "-c".toList, "-g".toList] := by
      simp only [List.mem_cons, List.not_mem_nil, or_false]
      exact fun h => h.elim hoption hflag
    rw [dropOutputArguments_cons hoption, if_neg hflag, remainingAfter_cons,
      ih _ (even_outputsAtEnd_of_ne hoption), List.singleton_append, List.filter_cons]
    by_cases hspelling : word ∈ spellings
    · rw [if_neg (fun h => h.2.1 hspelling), if_neg (by simpa using hspelling), List.nil_append]
    · rw [if_pos ⟨hplain, hspelling, heven⟩, if_pos (by simpa using hspelling),
        List.singleton_append]

lemma remaining_eq_filter (spellings words : List Text) :
    remaining spellings words =
      (dropOutputArguments words).filter fun word => !spellings.contains word :=
  remainingAfter_eq_filter spellings [] words Even.zero

/-- The value of an `-o` may look like an option. -/
example : remaining ["a.c".toList] (["-o", "-o", "x", "a.c", "-O2", "-o"].map String.toList) =
    ["x".toList, "-O2".toList] := by
  decide

/-- The first word that is left, what stood before it and what is left behind it. -/
lemma exists_of_remainingAfter_eq_cons {rest : List Text}
    (h : remainingAfter spellings before words = word :: rest) :
    ∃ front after, words = front ++ word :: after ∧ remainingAfter spellings before front = [] ∧
      Stays spellings (before ++ front) word ∧
      rest = remainingAfter spellings (before ++ front ++ [word]) after := by
  induction words generalizing before with
  | nil => exact absurd h (List.cons_ne_nil word rest).symm
  | cons head words ih =>
    rw [remainingAfter_cons] at h
    by_cases hstays : Stays spellings before head
    · rw [if_pos hstays, List.singleton_append, List.cons.injEq] at h
      obtain ⟨rfl, rfl⟩ := h
      exact ⟨[], words, rfl, rfl, by simpa using hstays, by simp⟩
    · rw [if_neg hstays, List.nil_append] at h
      obtain ⟨front, after, rfl, hfront, hword, hrest⟩ := ih h
      refine ⟨head :: front, after, rfl, ?_, by simpa using hword, by simpa using hrest⟩
      rw [remainingAfter_cons, if_neg hstays, List.nil_append, hfront]

lemma exists_of_remaining_eq_cons {rest : List Text} (h : remaining spellings words = word :: rest) :
    ∃ front after, words = front ++ word :: after ∧ remaining spellings front = [] ∧
      rest = remaining spellings after := by
  obtain ⟨front, after, hwords, hfront, hstays, hrest⟩ := exists_of_remainingAfter_eq_cons h
  have hword : word ≠ outputOption := fun heq => hstays.1 (by simp [heq])
  refine ⟨front, after, hwords, hfront, ?_⟩
  rw [hrest, remaining_eq_filter]
  exact remainingAfter_eq_filter _ _ _ (even_outputsAtEnd_of_ne hword)

lemma stays_of_mem_remaining (h : word ∈ remaining spellings words) :
    word ∉ [outputOption, "-c".toList, "-g".toList] ∧ word ∉ spellings := by
  obtain ⟨p, hp, rfl⟩ := List.mem_map.mp h
  have hstays := of_decide_eq_true (List.mem_filter.mp hp).2
  exact ⟨hstays.1, hstays.2.1⟩

end

/-! ### Commands -/

/-- Where an invocation comes from. -/
inductive Origin where
  /-- An entry of a database in a directory. -/
  | entry (e : CompileEntry) (base : Path)
  /-- A request with a command of its own, for a source file that no database tells of. -/
  | own (source : Path) (command : List Text) (failure : Failure)

namespace Origin

def invocation? (host : Host) : Origin → Option Invocation
  | .entry e base => e.invocation? host base
  | .own source command failure =>
    (Explorer.orOwn (host.canonicalPath source) command (.error failure)).toOption

/-- The words that an invocation is made from. -/
def words : Origin → List Text
  | .entry e _ => e.words
  | .own _ command _ => command.take 1

/-- The spellings of the source file that such words may have: as written, joined with the directory
and canonical. -/
def spellings (host : Host) : Origin → List Text
  | .entry e base =>
    let joined := (base.join e.directory).join e.file
    [e.file.text, joined.text, (host.canonicalPath joined).text]
  | .own source _ _ => [(host.canonicalPath source).text]

/-- The words that a command is made from: those of the command given, if there is one. -/
def rawWords (o : Origin) : List Text → List Text
  | [] => o.words
  | given => given

/-- The spellings of the source file that are left out of them. -/
def rawSpellings (o : Origin) (host : Host) (i : Invocation) : List Text → List Text
  | [] => o.spellings host
  | _ => [i.source.text]

end Origin

lemma own_of_orOwn {source : Path} {command : List Text} {failure : Failure} {i : Invocation}
    (h : Explorer.orOwn source command (.error failure) = .ok i) :
    ∃ executable rest, command = executable :: rest ∧
      i = Explorer.ownInvocation source executable := by
  cases command with
  | nil =>
    cases failure <;> exact absurd h (by simp [Explorer.orOwn])
  | cons executable rest =>
    refine ⟨executable, rest, rfl, ?_⟩
    cases failure with
    | databaseNotFound p => exact (Except.ok.inj h).symm
    | noCommand p => exact (Except.ok.inj h).symm
    | malformedDatabase _ | cancelled | compileFailed _ _ _ | timedOut _ | invalidSettings _ | io _ =>
      exact absurd h (by simp [Explorer.orOwn])

/-- An invocation has the program that is the first word left, and the words left behind it. -/
lemma recorded_of_origin {host : Host} {o : Origin} {i : Invocation}
    (h : o.invocation? host = some i) :
    i.source.text ∈ o.spellings host ∧
      ∃ front after, o.words = front ++ i.executable :: after ∧
        remaining (o.spellings host) front = [] ∧
        i.arguments = remaining (o.spellings host) after := by
  cases o with
  | entry e base =>
    have hwords : e.keptWords host base =
        remaining ((Origin.entry e base).spellings host) e.words :=
      (remaining_eq_filter _ _).symm
    have hentry : e.invocation? host base = some i := h
    rw [CompileEntry.invocation?] at hentry
    split at hentry
    · exact absurd hentry (Option.some_ne_none i).symm
    · next executable arguments hkept =>
      obtain rfl := Option.some.inj hentry
      refine ⟨List.mem_cons_of_mem _ (List.mem_cons_of_mem _ List.mem_cons_self), ?_⟩
      exact exists_of_remaining_eq_cons (hwords.symm.trans hkept)
  | own source command failure =>
    have hown : Explorer.orOwn (host.canonicalPath source) command (.error failure) = .ok i := by
      simp only [Origin.invocation?] at h
      cases hr : Explorer.orOwn (host.canonicalPath source) command (.error failure) with
      | error e =>
        rw [hr] at h
        exact absurd h (Option.some_ne_none i).symm
      | ok j =>
        rw [hr] at h
        exact congrArg Except.ok (Option.some.inj h)
    obtain ⟨executable, rest, rfl, rfl⟩ := own_of_orOwn hown
    exact ⟨List.mem_cons_self, [], [], rfl, rfl, rfl⟩

/-- A command consists of its program, the words left behind that in the raw words, the source file
and the flags for the output. In front of a recorded program nothing is left, and in front of one
that is given there is nothing. -/
theorem command_of_origin (p : Pipeline) (host : Host) (o : Origin) (i : Invocation)
    (given : List Text) (h : o.invocation? host = some i) :
    ∃ front after, o.rawWords given = front ++ (p.command i given).program :: after ∧
      remaining (o.rawSpellings host i given) front = [] ∧ (given ≠ [] → front = []) ∧
      (p.command i given).arguments =
        remaining (o.rawSpellings host i given) after ++ [i.source.text] ++ p.options.outputFlags ∧
      ∀ word ∈ remaining (o.rawSpellings host i given) after,
        word ≠ "-o".toList ∧ word ≠ "-c".toList ∧ word ≠ "-g".toList ∧ word ≠ i.source.text := by
  obtain ⟨hsource, front, after, hwords, hfront, harguments⟩ := recorded_of_origin h
  have hleft : ∀ spellings words : List Text, i.source.text ∈ spellings →
      ∀ word ∈ remaining spellings words,
        word ≠ "-o".toList ∧ word ≠ "-c".toList ∧ word ≠ "-g".toList ∧ word ≠ i.source.text := by
    intro spellings words hspelled word hword
    obtain ⟨hoption, hspelling⟩ := stays_of_mem_remaining hword
    simp only [List.mem_cons, List.not_mem_nil, or_false, not_or] at hoption
    exact ⟨hoption.1, hoption.2.1, hoption.2.2, fun heq => hspelling (heq ▸ hspelled)⟩
  cases given with
  | nil =>
    refine ⟨front, after, hwords, hfront, fun hne => absurd rfl hne, ?_, hleft _ _ hsource⟩
    show i.arguments ++ [i.source.text] ++ p.options.outputFlags = _
    rw [harguments]
    rfl
  | cons program rest =>
    have hkept : CompileCommand.keptArguments i.source.text rest =
        remaining [i.source.text] rest := by
      rw [remaining_eq_filter, CompileCommand.keptArguments]
      congr 1
      funext word
      simp
    refine ⟨[], rest, rfl, rfl, fun _ => rfl, ?_, hleft _ _ List.mem_cons_self⟩
    show CompileCommand.keptArguments i.source.text rest ++ [i.source.text] ++ p.options.outputFlags = _
    rw [hkept]
    rfl

/-- An entry whose command has options before the program and an `-o` without a value at the end. -/
def oddEntry : CompileEntry where
  directory := .ofString "out/.."
  file := .ofString "a.c"
  command := some "-c cc -o -c '-O2' -o -o a.c /w/out/../a.c /w/a.c -g -o".toList

def oddInvocation : Invocation :=
  ⟨.ofString "/w/a.c", .ofString "/w/out/..", "cc".toList, ["-O2".toList]⟩

def oddOrigin : Origin := .entry oddEntry (.ofString "/w")

theorem command_of_odd_entry :
    oddOrigin.invocation? default = some oddInvocation ∧
      ∃ front after,
        oddOrigin.rawWords [] =
          front ++ ((default : Pipeline).command oddInvocation []).program :: after ∧
        remaining (oddOrigin.rawSpellings default oddInvocation []) front = [] ∧
        (([] : List Text) ≠ [] → front = []) ∧
        ((default : Pipeline).command oddInvocation []).arguments =
          remaining (oddOrigin.rawSpellings default oddInvocation []) after ++
            [oddInvocation.source.text] ++ (default : Pipeline).options.outputFlags ∧
        ∀ word ∈ remaining (oddOrigin.rawSpellings default oddInvocation []) after,
          word ≠ "-o".toList ∧ word ≠ "-c".toList ∧ word ≠ "-g".toList ∧
            word ≠ oddInvocation.source.text := by
  have h : oddOrigin.invocation? default = some oddInvocation := by decide +kernel
  exact ⟨h, command_of_origin default default oddOrigin oddInvocation [] h⟩

end AsmExplorer.Proofs
