import AsmExplorer.CommandLine.Arguments
import AsmExplorer.Proofs.ShellHost
import Mathlib.Data.List.Induction
import Mathlib.Tactic.Lemma

/-!
# Groups of words of a command line

The words of a command line that are read together make a group: an option without a value, an
option with the value behind it, or a plain word. When all groups are complete, only the last group
of each kind counts, and of the plain words only the first one. So groups of different kinds can
change places, and a value stays a value, whatever it looks like.
-/

namespace AsmExplorer.Proofs
open AsmExplorer.CommandLine

/-- How an option without a value is spelled. -/
def flagWord : Flag → Text
  | .binary => "--binary".toList
  | .keepDirectives => "--keep-directives".toList
  | .keepComments => "--keep-comments".toList
  | .keepLabels => "--keep-labels".toList
  | .llvmIr => "--llvm-ir".toList
  | .preprocess => "--preprocess".toList
  | .intel => "--intel".toList
  | .showMap => "--map".toList
  | .watch => "--watch".toList

/-- How an option with a value is spelled. -/
def valuedWord : Valued → Text
  | .buildDirectory => "--build-dir".toList
  | .settings => "--settings".toList
  | .command => "--args".toList
  | .timeout => "--timeout".toList

/-- A complete group of words. The value of an option may be any word. -/
inductive WordGroup where
  | flag (flag : Flag)
  | valued (option : Valued) (value : Text)
  | plain (word : Text) (h : ¬"--".toList <+: word)

/-- What a group decides about. The options for an output are of one kind. -/
inductive GroupKind where
  | flag (flag : Flag)
  | valued (option : Valued)
  | output
  | source
  deriving DecidableEq

namespace WordGroup

def words : WordGroup → List Text
  | .flag f => [flagWord f]
  | .valued option value => [valuedWord option, value]
  | .plain word _ => [word]

def kind : WordGroup → GroupKind
  | .flag .llvmIr => .output
  | .flag .preprocess => .output
  | .flag f => .flag f
  | .valued option _ => .valued option
  | .plain _ _ => .source

def value? : WordGroup → Option Text
  | .valued _ value => some value
  | _ => none

def output? : WordGroup → Option OutputKind
  | .flag .llvmIr => some .llvmIr
  | .flag .preprocess => some .preprocessed
  | _ => none

def plain? : WordGroup → Option Path
  | .plain word _ => some ⟨word⟩
  | _ => none

end WordGroup

/-- The words of a command line made of groups. -/
def wordsOf (groups : List WordGroup) : List Text :=
  groups.flatMap WordGroup.words

/-- The groups of a kind, in order. -/
def groupsOf (kind : GroupKind) (groups : List WordGroup) : List WordGroup :=
  groups.filter fun g => g.kind = kind

def lastOf (kind : GroupKind) (groups : List WordGroup) : Option WordGroup :=
  (groupsOf kind groups).getLast?

/-- The value in the last group of an option. -/
def lastValue (option : Valued) (groups : List WordGroup) : Option Text :=
  (lastOf (.valued option) groups).bind WordGroup.value?

def isGiven (flag : Flag) (groups : List WordGroup) : Bool :=
  (lastOf (.flag flag) groups).isSome

def lastOutput (groups : List WordGroup) : Option OutputKind :=
  (lastOf .output groups).bind WordGroup.output?

def firstPlain (groups : List WordGroup) : Option Path :=
  groups.findSome? WordGroup.plain?

/-- The settings that options are laid over: those in the file named last. -/
def fileSettings (host : Host) (groups : List WordGroup) : Except Failure Settings :=
  match lastValue .settings groups with
  | some file => Settings.load host ⟨file⟩
  | none => .ok {}

/-- Settings with the last group of each kind laid over them. -/
def overlaid (groups : List WordGroup) (s : Settings) : Settings :=
  { s with
    compilationDirectory := (lastValue .buildDirectory groups).getD s.compilationDirectory
    extraArguments := ((lastValue .command groups).map Command.splitWords).getD s.extraArguments
    timeoutSeconds := ((lastValue .timeout groups).bind seconds?).getD s.timeoutSeconds
    output := (lastOutput groups).getD s.output
    intel := s.intel || isGiven .intel groups
    filter :=
      { binary := s.filter.binary || isGiven .binary groups
        directives := s.filter.directives && !isGiven .keepDirectives groups
        commentOnly := s.filter.commentOnly && !isGiven .keepComments groups
        labels := s.filter.labels && !isGiven .keepLabels groups } }

/-- Two lists have the same groups, and those of one kind in the same order. -/
def Reordered (groups groups' : List WordGroup) : Prop :=
  ∀ kind, groupsOf kind groups = groupsOf kind groups'

/-! ### Reading one group -/

lemma valued_ofWord?_word (option : Valued) : Valued.ofWord? (valuedWord option) = some option := by
  cases option <;> rfl

lemma flag_ofWord?_word (flag : Flag) : Flag.ofWord? (flagWord flag) = some flag := by
  cases flag <;> rfl

lemma valued_ofWord?_flag (flag : Flag) : Valued.ofWord? (flagWord flag) = none := by
  cases flag <;> rfl

lemma eq_toList_of_ofList {word : Text} {s : String} (h : String.ofList word = s) :
    word = s.toList := by
  rw [← h, String.toList_ofList]

lemma eq_valuedWord {word : Text} {option : Valued} (h : Valued.ofWord? word = some option) :
    word = valuedWord option := by
  unfold Valued.ofWord? at h
  split at h
  case h_1 heq | h_2 heq | h_3 heq | h_4 heq =>
    obtain rfl := Option.some.inj h
    exact eq_toList_of_ofList heq
  case h_5 => cases h

lemma eq_flagWord {word : Text} {flag : Flag} (h : Flag.ofWord? word = some flag) :
    word = flagWord flag := by
  unfold Flag.ofWord? at h
  split at h
  case h_1 heq | h_2 heq | h_3 heq | h_4 heq | h_5 heq | h_6 heq | h_7 heq | h_8 heq | h_9 heq =>
    obtain rfl := Option.some.inj h
    exact eq_toList_of_ofList heq
  case h_10 => cases h

lemma dashes_valuedWord (option : Valued) : "--".toList <+: valuedWord option := by
  cases option <;> decide

lemma dashes_flagWord (flag : Flag) : "--".toList <+: flagWord flag := by
  cases flag <;> decide

section

variable {word : Text} (h : ¬"--".toList <+: word)

include h

lemma valued_ofWord?_plain : Valued.ofWord? word = none := by
  apply Option.eq_none_iff_forall_ne_some.mpr
  intro option hsome
  apply h
  rw [eq_valuedWord hsome]
  exact dashes_valuedWord option

lemma flag_ofWord?_plain : Flag.ofWord? word = none := by
  apply Option.eq_none_iff_forall_ne_some.mpr
  intro flag hsome
  apply h
  rw [eq_flagWord hsome]
  exact dashes_flagWord flag

/-- A plain word is the source file, unless there was one before. -/
lemma takeWord_plain (a : Arguments) :
    a.takeWord word = { a with source := a.source.or (some ⟨word⟩) } := by
  have hfront : ¬"--".toList.isPrefixOf word = true := by
    rwa [List.isPrefixOf_iff_prefix]
  rw [Arguments.takeWord, flag_ofWord?_plain h]
  show a.setSource word = _
  unfold Arguments.setSource
  cases hsource : a.source with
  | none =>
    simp only [hfront, Option.isSome_none, Bool.false_eq_true, or_self, if_false, Option.none_or]
  | some source =>
    simp only [Option.isSome_some, or_true, if_true, Option.some_or]
    rw [← hsource]

end

/-- What a group asks for beside what was asked for before. -/
def takeGroup (a : Arguments) : WordGroup → Arguments
  | .flag flag => a.setFlag flag
  | .valued option value => a.setValue value option
  | .plain word _ => { a with source := a.source.or (some ⟨word⟩) }

/-- A word that takes no value is read by itself. -/
lemma take_cons {word : Text} (h : Valued.ofWord? word = none) (a : Arguments) (rest : List Text) :
    a.take (word :: rest) = (a.takeWord word).take rest := by
  cases rest with
  | nil => rfl
  | cons value rest =>
    rw [Arguments.take, h]

lemma takeWord_flag (a : Arguments) (flag : Flag) :
    a.takeWord (flagWord flag) = a.setFlag flag := by
  rw [Arguments.takeWord, flag_ofWord?_word]

/-- A complete group is read as a whole, whatever comes behind it. -/
lemma take_words (a : Arguments) (g : WordGroup) (rest : List Text) :
    a.take (g.words ++ rest) = (takeGroup a g).take rest := by
  cases g with
  | flag flag =>
    rw [WordGroup.words, List.singleton_append, take_cons (valued_ofWord?_flag flag),
      takeWord_flag, takeGroup]
  | valued option value =>
    rw [WordGroup.words, List.cons_append, List.singleton_append, Arguments.take,
      valued_ofWord?_word, takeGroup]
  | plain word h =>
    rw [WordGroup.words, List.singleton_append, take_cons (valued_ofWord?_plain h),
      takeWord_plain h, takeGroup]

lemma take_wordsOf (a : Arguments) (groups : List WordGroup) :
    a.take (wordsOf groups) = groups.foldl takeGroup a := by
  induction groups generalizing a with
  | nil => rfl
  | cons g groups ih => rw [wordsOf, List.flatMap_cons, take_words, ← wordsOf, ih, List.foldl_cons]

/-! ### The last group of each kind -/

/-- What groups ask for. -/
def requested (groups : List WordGroup) : Arguments where
  source := firstPlain groups
  buildDirectory := lastValue .buildDirectory groups
  settings := (lastValue .settings groups).map Path.mk
  command := lastValue .command groups
  binary := isGiven .binary groups
  keepDirectives := isGiven .keepDirectives groups
  keepComments := isGiven .keepComments groups
  keepLabels := isGiven .keepLabels groups
  output := lastOutput groups
  intel := isGiven .intel groups
  timeout := (lastValue .timeout groups).bind seconds?
  showMap := isGiven .showMap groups
  watch := isGiven .watch groups

lemma groupsOf_concat (kind : GroupKind) (groups : List WordGroup) (g : WordGroup) :
    groupsOf kind (groups ++ [g]) =
      if g.kind = kind then groupsOf kind groups ++ [g] else groupsOf kind groups := by
  unfold groupsOf
  rw [List.filter_append]
  by_cases h : g.kind = kind
  · simp [h]
  · simp [h]

lemma lastOf_concat (kind : GroupKind) (groups : List WordGroup) (g : WordGroup) :
    lastOf kind (groups ++ [g]) = if g.kind = kind then some g else lastOf kind groups := by
  rw [lastOf, groupsOf_concat, lastOf]
  split
  · exact List.getLast?_concat
  · rfl

/-- A plain word counts if there was none before. -/
lemma firstPlain_concat (groups : List WordGroup) (g : WordGroup) :
    firstPlain (groups ++ [g]) = (firstPlain groups).or g.plain? := by
  rw [firstPlain, List.findSome?_append, firstPlain, List.findSome?_singleton]

lemma requested_concat (groups : List WordGroup) (g : WordGroup) :
    requested (groups ++ [g]) = takeGroup (requested groups) g := by
  -- a group writes one entry, and no other entry reads the last group of its kind
  cases g with
  | flag flag =>
    cases flag <;>
      simp [requested, takeGroup, Arguments.setFlag, lastValue, isGiven, lastOutput, lastOf_concat,
        firstPlain_concat, WordGroup.kind, WordGroup.output?, WordGroup.plain?]
  | valued option value =>
    cases option <;>
      simp [requested, takeGroup, Arguments.setValue, lastValue, isGiven, lastOutput, lastOf_concat,
        firstPlain_concat, WordGroup.kind, WordGroup.value?, WordGroup.plain?]
  | plain word h =>
    simp [requested, takeGroup, lastValue, isGiven, lastOutput, lastOf_concat,
      firstPlain_concat, WordGroup.kind, WordGroup.plain?]

lemma ofWords_wordsOf (groups : List WordGroup) :
    Arguments.ofWords (wordsOf groups) = requested groups := by
  rw [Arguments.ofWords, take_wordsOf]
  -- from the end, since it is the last group that counts
  induction groups using List.reverseRecOn with
  | nil => rfl
  | append_singleton groups g ih =>
    rw [List.foldl_append, ih, requested_concat, List.foldl_cons, List.foldl_nil]

lemma plain?_eq_none {g : WordGroup} (h : g.kind ≠ .source) : g.plain? = none := by
  cases g with
  | plain word _ => exact absurd rfl h
  | _ => rfl

lemma firstPlain_eq (groups : List WordGroup) :
    firstPlain groups = (groupsOf .source groups).findSome? WordGroup.plain? := by
  unfold firstPlain groupsOf
  induction groups with
  | nil => rfl
  | cons g groups ih =>
    by_cases h : g.kind = .source
    · rw [List.filter_cons_of_pos (by simpa using h), List.findSome?_cons, List.findSome?_cons, ih]
    · rw [List.filter_cons_of_neg (by simpa using h), List.findSome?_cons, plain?_eq_none h, ih]

lemma requested_of_reordered {groups groups' : List WordGroup} (h : Reordered groups groups') :
    requested groups = requested groups' := by
  have hlast : ∀ kind, lastOf kind groups = lastOf kind groups' := by
    intro kind
    rw [lastOf, h kind, lastOf]
  have hplain : firstPlain groups = firstPlain groups' := by
    rw [firstPlain_eq, firstPlain_eq, h .source]
  simp only [requested, lastValue, isGiven, lastOutput, hlast, hplain]

/-- A value counts for its option only. -/
lemma setValue_requested {option : Valued} {groups groups' : List WordGroup}
    (h : ∀ kind, kind ≠ .valued option → groupsOf kind groups = groupsOf kind groups')
    (value : Text) :
    (requested groups).setValue value option = (requested groups').setValue value option := by
  have hlast : ∀ kind, kind ≠ .valued option → lastOf kind groups = lastOf kind groups' := by
    intro kind hkind
    rw [lastOf, h kind hkind, lastOf]
  have hplain : firstPlain groups = firstPlain groups' := by
    rw [firstPlain_eq, firstPlain_eq, h .source (by simp)]
  cases option <;>
    simp [requested, Arguments.setValue, lastValue, isGiven, lastOutput, hlast, hplain]

/-! ### Settings -/

lemma overlay_requested (groups : List WordGroup) (s : Settings) :
    (requested groups).overlay s = overlaid groups s :=
  rfl

lemma settingsFor_requested (groups : List WordGroup) (host : Host) :
    (requested groups).settingsFor host = (fileSettings host groups).map (overlaid groups) := by
  have hoverlay : (requested groups).overlay = overlaid groups :=
    funext (overlay_requested groups)
  have hsettings : (requested groups).settings = (lastValue .settings groups).map Path.mk := rfl
  rw [Arguments.settingsFor, hsettings, hoverlay, fileSettings]
  cases lastValue .settings groups <;> rfl

/-- Of complete groups, the last one of each kind is laid over the settings in the file that was
named last, and the first plain word is the source file. Groups of different kinds can change places,
and whatever the value of an option is, all else is asked for alike. -/
theorem settings_of_groups (groups : List WordGroup) (host : Host) :
    (Arguments.ofWords (wordsOf groups)).source = firstPlain groups ∧
      (Arguments.ofWords (wordsOf groups)).settingsFor host =
        (fileSettings host groups).map (overlaid groups) ∧
      (∀ groups', Reordered groups groups' →
        Arguments.ofWords (wordsOf groups) = Arguments.ofWords (wordsOf groups')) ∧
      ∀ front behind option value value' other,
        (Arguments.ofWords (wordsOf (front ++ .valued option value :: behind))).setValue
            other option =
          (Arguments.ofWords (wordsOf (front ++ .valued option value' :: behind))).setValue
            other option := by
  simp only [ofWords_wordsOf]
  refine ⟨rfl, settingsFor_requested groups host, fun _ => requested_of_reordered, ?_⟩
  intro front behind option value value' other
  -- a group of one option is silent about all other kinds
  apply setValue_requested
  intro kind hkind
  have hsilent : ∀ v, groupsOf kind (front ++ .valued option v :: behind) =
      groupsOf kind front ++ groupsOf kind behind := by
    intro v
    simp [groupsOf, WordGroup.kind, hkind.symm]
  rw [hsilent, hsilent]

/-- Two files of settings. -/
def settingsHost : Host :=
  shellHost [("first.json", textFile "\x7b\"timeoutSecs\": 7\x7d"),
    ("last.json", textFile ("\x7b\"timeoutSecs\": 5, \"demangler\": \"filt\", \"intelSyntax\": true, " ++
      "\"filter\": \x7b\"labels\": false\x7d\x7d"))]

/-- A build directory, groups that the last one of their kind overrides, and a timeout that is no
number before one that is. -/
def oddGroups (directory : Text) : List WordGroup :=
  [.valued .settings "/first.json".toList, .valued .buildDirectory directory, .flag .llvmIr,
    .valued .timeout "soon".toList, .plain "main.c".toList (by decide), .flag .preprocess,
    .valued .command "cc -c".toList, .flag .keepComments, .plain "other.c".toList (by decide),
    .valued .settings "/last.json".toList, .valued .timeout "60".toList,
    .valued .command "cc -D'A B'".toList]

/-- The same groups, the plain words first. -/
def sortedGroups (directory : Text) : List WordGroup :=
  [.plain "main.c".toList (by decide), .plain "other.c".toList (by decide), .flag .keepComments,
    .flag .llvmIr, .flag .preprocess, .valued .settings "/first.json".toList,
    .valued .settings "/last.json".toList, .valued .timeout "soon".toList,
    .valued .timeout "60".toList, .valued .command "cc -c".toList,
    .valued .command "cc -D'A B'".toList, .valued .buildDirectory directory]

lemma reordered_oddGroups (directory : Text) :
    Reordered (oddGroups directory) (sortedGroups directory) := by
  intro kind
  cases kind with
  | flag flag => cases flag <;> rfl
  | valued option => cases option <;> rfl
  | output => rfl
  | source => rfl

/-- A build directory that is named like an option is no option. -/
theorem settings_of_odd_groups :
    (Arguments.ofWords (wordsOf (oddGroups "--binary".toList))).source = some (.ofString "main.c") ∧
      (Arguments.ofWords (wordsOf (oddGroups "--binary".toList))).settingsFor settingsHost =
        .ok
          { compilationDirectory := "--binary".toList
            timeoutSeconds := 60
            demangler := "filt".toList
            intel := true
            output := .preprocessed
            filter := { commentOnly := false, labels := false }
            extraArguments := ["cc".toList, "-DA B".toList] } ∧
      Arguments.ofWords (wordsOf (oddGroups "--binary".toList)) =
        Arguments.ofWords (wordsOf (sortedGroups "--binary".toList)) ∧
      (Arguments.ofWords (wordsOf (oddGroups "--binary".toList))).setValue [] .buildDirectory =
        (Arguments.ofWords (wordsOf (oddGroups "out".toList))).setValue [] .buildDirectory := by
  obtain ⟨hsource, hsettings, hsame, hvalue⟩ :=
    settings_of_groups (oddGroups "--binary".toList) settingsHost
  have hfile : fileSettings settingsHost (oddGroups "--binary".toList) =
      .ok
        { timeoutSeconds := 5
          demangler := "filt".toList
          intel := true
          filter := { labels := false } } :=
    eq_ok_of_toOption (by decide +kernel)
  rw [hfile] at hsettings
  exact ⟨hsource, hsettings, hsame _ (reordered_oddGroups _),
    hvalue [.valued .settings "/first.json".toList] (oddGroups []).tail.tail .buildDirectory _ _ []⟩

end AsmExplorer.Proofs
