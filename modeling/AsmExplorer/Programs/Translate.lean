import AsmExplorer.Programs.Options

/-!
# Translating characters

The program `tr`, which replaces, drops or squeezes characters of its input. A set of characters is
spelled by single characters, ranges, classes and repetitions.
-/

namespace AsmExplorer.Programs.Translate

/-- The letters that change their case together. -/
inductive Case where
  | upper
  | lower
  deriving DecidableEq, Repr

/-- A part of a set. -/
inductive Element where
  | single (c : Char)
  | range (first last : Char)
  | ofClass (letters : Option Case) (members : Text)
  | equivalent (c : Char)
  /-- A character so many times; without a number, as often as is needed. -/
  | repeated (c : Char) (count : Nat)
  deriving DecidableEq, Repr

def between (first last : Char) : Text :=
  (List.range (last.toNat + 1 - first.toNat)).map fun k => Char.ofNat (first.toNat + k)

def class? (name : Text) : Option Element :=
  let digits := between '0' '9'
  let lower := between 'a' 'z'
  let upper := between 'A' 'Z'
  let plain (t : Text) : Option Element := some (.ofClass none t)
  match String.ofList name with
  | "digit" => plain digits
  | "lower" => some (.ofClass (some .lower) lower)
  | "upper" => some (.ofClass (some .upper) upper)
  | "alpha" => plain (upper ++ lower)
  | "alnum" => plain (digits ++ upper ++ lower)
  | "space" => plain (between '\t' '\r' ++ [' '])
  | "blank" => plain ['\t', ' ']
  | "punct" =>
    plain (between '!' '/' ++ between ':' '@' ++ between '[' '\x60' ++ between '\x7b' '~')
  | "cntrl" => plain (between '\x00' '\x1f' ++ ['\x7f'])
  | "print" => plain (between ' ' '~')
  | "graph" => plain (between '!' '~')
  | "xdigit" => plain (digits ++ between 'A' 'F' ++ between 'a' 'f')
  | _ => none

/-- A character of a set as it is spelled, and whether it was escaped. -/
abbrev Spelled := Char × Bool

/-- The character of a one-letter escape. -/
def escape : Char → Char
  | 'a' => '\x07'
  | 'b' => '\x08'
  | 'f' => '\x0c'
  | 'n' => '\n'
  | 'r' => '\r'
  | 't' => '\t'
  | 'v' => '\x0b'
  | c => c

def octal? (c : Char) : Option Nat :=
  if '0' ≤ c ∧ c ≤ '7' then some (c.toNat - 48) else none

/-- A character that is spelled by up to three octal digits: its value, the number of digits, and
whether a third digit was too much. -/
def octalCharacter (t : Text) : Nat × Nat × Bool :=
  match t.map octal? with
  | some a :: some b :: some c :: _ =>
    if 8 * (8 * a + b) + c ≤ 255 then (8 * (8 * a + b) + c, 3, false) else (8 * a + b, 2, true)
  | some a :: some b :: _ => (8 * a + b, 2, false)
  | some a :: _ => (a, 1, false)
  | _ => (0, 0, false)

/-- What is said about an octal number that is no character. -/
def octalWarning (t : Text) : Text :=
  "warning: the ambiguous octal escape \\".toList ++ t.take 3 ++
    " is being\n\tinterpreted as the 2-byte sequence \\0".toList ++ t.take 2 ++
    ", ".toList ++ (t.drop 2).take 1

/-- The characters that a set is spelled with, and warnings about them. -/
def unescape : Nat → Text → List Spelled × List Text
  | 0, _ => ([], [])
  | fuel + 1, t =>
    match t with
    | [] => ([], [])
    | ['\\'] =>
      ([('\\', false)], ["warning: an unescaped backslash at end of string is not portable".toList])
    | '\\' :: c :: rest =>
      let (n, size, isTooMuch) := octalCharacter (c :: rest)
      if size = 0 then
        let (cs, ws) := unescape fuel rest
        ((escape c, true) :: cs, ws)
      else
        let (cs, ws) := unescape fuel ((c :: rest).drop size)
        ((Char.ofNat n, true) :: cs, if isTooMuch then octalWarning (c :: rest) :: ws else ws)
    | c :: rest =>
      let (cs, ws) := unescape fuel rest
      ((c, false) :: cs, ws)

def shownCharacter (c : Char) : Text :=
  if isVisible c then [c] else visibleEscape c

def shownWord (t : Text) : Text :=
  t.flatMap fun c => if c = '\\' then ['\\', '\\'] else shownCharacter c

/-- A number within the bounds of an octal or decimal numeral. -/
def repeatCount? (t : Text) : Option Nat :=
  let base := if t.head? = some '0' then 8 else 10
  if t.all fun c => isAsciiDigit c && decide (c.toNat - 48 < base) then
    let n := ofDigits base (t.map hexDigitValue)
    if n < Nat.pow 2 63 then some n else none
  else none

/-- What a bracket that opens a repetition comes to, if it is one. -/
def repetition? : List Spelled → Option (Except Text (Element × List Spelled))
  | (c, _) :: ('*', false) :: rest =>
    let inner := rest.takeWhile fun s => !s.2 && s.1 != ']'
    match rest.drop inner.length with
    | (']', false) :: behind =>
      let digits := inner.map Prod.fst
      if digits = [] then some (.ok (.repeated c 0, behind))
      else
        match repeatCount? digits with
        | some n => some (.ok (.repeated c n, behind))
        | none => some (.error ("invalid repeat count ".toList ++ spelled (shownWord digits) ++
            " in [c*n] construct".toList))
    | _ => none
  | _ => none

/-- The characters up to the mark and the bracket that close a class, and what is behind. -/
def closing? (mark : Char) : List Spelled → Option (Text × List Spelled)
  | (a, false) :: (']', false) :: rest =>
    if a = mark then some ([], rest)
    else (closing? mark ((']', false) :: rest)).map fun (t, rest) => (a :: t, rest)
  | (a, _) :: rest => (closing? mark rest).map fun (t, rest) => (a :: t, rest)
  | [] => none

/-- Whether a star, digits and a bracket follow. -/
def isStarred : List Spelled → Bool
  | ('*', false) :: rest =>
    match rest.dropWhile fun s => isAsciiDigit s.1 with
    | (']', false) :: _ => true
    | _ => false
  | _ => false

/-- What a bracket that opens a class comes to, if it is one. -/
def bracketed? (mark : Char) (rest : List Spelled) : Option (Except Text (Element × List Spelled)) :=
  match closing? mark rest with
  | none => none
  | some (name, behind) =>
    let refuse (e : Text) : Option (Except Text (Element × List Spelled)) :=
      if isStarred rest then none else some (.error e)
    if mark = ':' then
      if name = [] then some (.error "missing character class name '[::]'".toList)
      else
        match class? name with
        | some e => some (.ok (e, behind))
        | none => refuse ("invalid character class ".toList ++ spelled (shownWord name))
    else
      match name with
      | [] => some (.error "missing equivalence class character '[==]'".toList)
      | [c] => some (.ok (.equivalent c, behind))
      | name => refuse (shownWord name ++
          ": equivalence class operand must be a single character".toList)

/-- What an opening bracket comes to, if it is more than a character. -/
def bracket? (rest : List Spelled) : Option (Except Text (Element × List Spelled)) :=
  let named := match rest with
    | (':', false) :: more => bracketed? ':' more
    | ('=', false) :: more => bracketed? '=' more
    | _ => none
  match named with
  | some r => some r
  | none => repetition? rest

/-- The parts that a set is spelled with. -/
def elements : Nat → List Spelled → Except Text (List Element)
  | 0, _ => .ok []
  | fuel + 1, cs =>
    let single : Except Text (List Element) :=
      match cs with
      | (a, _) :: ('-', false) :: (b, _) :: rest =>
        if b < a then
          .error ("range-endpoints of '".toList ++ shownCharacter a ++ ['-'] ++ shownCharacter b ++
            "' are in reverse collating sequence order".toList)
        else do return .range a b :: (← elements fuel rest)
      | (a, _) :: rest => do return .single a :: (← elements fuel rest)
      | [] => .ok []
    match cs with
    | ('[', false) :: a :: b :: rest =>
      match bracket? (a :: b :: rest) with
      | some (.ok (e, rest)) => do return e :: (← elements fuel rest)
      | some (.error e) => .error e
      | none => single
    | _ => single

/-- A character of a set with its place in the set. -/
structure Member where
  char : Char
  letters : Option Case := none
  /-- Whether a part of the set begins here. -/
  begins : Bool := true
  deriving DecidableEq, Repr

/-- The characters of a part. -/
def Element.members (e : Element) : List Member :=
  let marked (letters : Option Case) : Text → List Member
    | [] => []
    | c :: cs => ⟨c, letters, true⟩ :: cs.map fun d => ⟨d, letters, false⟩
  match e with
  | .single c => [⟨c, none, true⟩]
  | .range a b => marked none (between a b)
  | .ofClass letters cs => marked letters cs
  | .equivalent c => [⟨c, none, true⟩]
  | .repeated c n => marked none (List.replicate n c)

/-- The number of characters of a part. -/
def Element.size : Element → Nat
  | .repeated _ n => n
  | e => e.members.length

def extent : List Element → Nat
  | [] => 0
  | e :: es => e.size + extent es

def members (es : List Element) : List Member :=
  es.flatMap Element.members

/-- Whether a character is repeated as often as is needed. -/
def Element.isOpen : Element → Bool
  | .repeated _ 0 => true
  | _ => false

/-- The members behind the part that has begun. -/
def skipPart (ms : List Member) : List Member :=
  ms.dropWhile fun m => !m.begins

/-- Whether each class of letters of the second set stands beside one of the first, and how many
characters fewer the sets count then, as a class counts once. -/
def alignment : Nat → List Member → List Member → Option (Nat × Nat)
  | 0, _, _ => some (0, 0)
  | fuel + 1, a :: as, b :: bs =>
    if b.letters.isNone then alignment fuel as bs
    else if b.begins ∧ !(a.begins ∧ a.letters.isSome) then none
    else (alignment fuel (skipPart as) (skipPart bs)).map fun (m, n) => (m + 25, n + 25)
  | _ + 1, [], b :: _ => if b.begins ∧ b.letters.isSome then none else some (0, 0)
  | _ + 1, _, [] => some (0, 0)

def octets : Text :=
  (List.range 256).map Char.ofNat

/-- A value for each octet. -/
structure OctetTable (α : Type) where
  entries : Array α

namespace OctetTable

variable {α : Type}

def tabulate (f : Char → α) : OctetTable α :=
  ⟨(octets.map f).toArray⟩

def get (t : OctetTable α) (c : Char) (default : α) : α :=
  t.entries.getD c.toNat default

/-- The octets that are among some characters. -/
def ofMembers (cs : Text) : OctetTable Bool :=
  tabulate cs.contains

end OctetTable

/-- What is done with characters: the ones that are dropped, what others are replaced by, and the ones
of which a run counts once. -/
structure Plan where
  drops : OctetTable Bool := .tabulate fun _ => false
  replaces : OctetTable Char := .tabulate id
  squeezes : OctetTable Bool := .tabulate fun _ => false

/-- What the options ask for. -/
structure Wishes where
  complements : Bool
  deletes : Bool
  squeezes : Bool
  truncates : Bool

/-- Where the second set has a character for each of the first, or what is wrong with them. -/
def fit (w : Wishes) (size : Nat) (first second : List Element) : Except Text (List Element) :=
  let isClass : Element → Bool
    | .ofClass .. => true
    | _ => false
  let isEquivalence : Element → Bool
    | .equivalent _ => true
    | _ => false
  let isRestricted : Element → Bool
    | .ofClass none _ => true
    | _ => false
  let checked : Option (Nat × Nat) :=
    if w.complements ∨ !second.any isClass then some (0, 0)
    else
      let a := members first
      alignment (a.length + 1) a (members second)
  if second.any isEquivalence then
    .error "[=c=] expressions may not appear in string2 when translating".toList
  else if second.any isRestricted then
    .error ("when translating, the only character classes that may appear in\n".toList ++
      "string2 are 'upper' and 'lower'".toList)
  else
    match checked with
    | none => .error "misaligned [:upper:] and/or [:lower:] construct".toList
    | some (m, n) =>
      let length := extent second
      let extended : Except Text (List Element) :=
        if length - n < size - m ∧ !w.truncates then
          let fill (c : Char) : Except Text (List Element) :=
            .ok (second ++ [.repeated c ((size - m) - (length - n))])
          if length - n = 0 then
            .error "when not truncating set1, string2 must be non-empty".toList
          else
            match second.getLast? with
            | some (.single c) => fill c
            | some (.range _ c) => fill c
            | some (.repeated c _) => fill c
            | some (.equivalent c) => fill c
            | some (.ofClass ..) =>
              .error ("when translating with string1 longer than string2,\n".toList ++
                "the latter string must not end with a character class".toList)
            | none => .ok second
        else .ok second
      match extended with
      | .error e => .error e
      | .ok second =>
        let cs := (members second).map Member.char
        let isUniform := decide (cs.length = size) && cs.all fun c => some c == cs.head?
        if w.complements ∧ first.any isClass ∧ !isUniform then
          .error ("when translating with complemented character classes,\n".toList ++
            "string2 must map all characters in the domain to one".toList)
        else .ok second

/-- The pairs of characters and what replaces them, the last pair first. -/
def pairs : Nat → List (Char × Char) → List Member → List Member → List (Char × Char)
  | 0, done, _, _ => done
  | fuel + 1, done, a :: as, b :: bs =>
    let upper := between 'A' 'Z'
    let lower := between 'a' 'z'
    let done := match a.letters, b.letters with
      | some .lower, some .upper => lower.zip upper ++ done
      | some .upper, some .lower => upper.zip lower ++ done
      | _, _ => (a.char, b.char) :: done
    if b.letters.isSome then pairs fuel done (skipPart as) (skipPart bs) else pairs fuel done as bs
  | _ + 1, done, _, _ => done

/-- The plan for sets that are spelled without a fault. -/
def planOf (w : Wishes) (first : List Element) (second : Option (List Element)) : Except Text Plan := do
  let named := OctetTable.ofMembers ((members first).map Member.char)
  let chosen := OctetTable.tabulate fun c => named.get c false != w.complements
  if first.any Element.isOpen then
    throw "the [c*] repeat construct may not appear in string1".toList
  match second with
  | none =>
    return if w.deletes then { drops := chosen } else { squeezes := chosen }
  | some second =>
    let size := if w.complements then (octets.filter (chosen.get · false)).length else extent first
    let length := extent second
    if 1 < (second.filter Element.isOpen).length then
      throw "only one [c*] repeat construct may appear in string2".toList
    if w.deletes ∧ second.any Element.isOpen then
      throw "the [c*] construct may appear in string2 only when translating".toList
    let second := second.map fun
      | .repeated c 0 => .repeated c (size - length)
      | e => e
    let squeezedBy (es : List Element) : OctetTable Bool :=
      .ofMembers (if w.squeezes then (members es).map Member.char else [])
    if w.deletes then
      return { drops := chosen, squeezes := squeezedBy second }
    else
      let second ← fit w size first second
      let table :=
        if w.complements then
          ((octets.filter (chosen.get · false)).zip ((members second).map Member.char)).reverse
        else
          let a := members first
          pairs (a.length + 1) [] a (members second)
      let replaces := OctetTable.tabulate fun c => (table.lookup c).getD c
      return { replaces := replaces, squeezes := squeezedBy second }

def table : OptionTable where
  short := "AcCdst".toList.map fun c => (c, .none)
  long :=
    [("complement", .none, 'c'), ("delete", .none, 'd'), ("squeeze-repeats", .none, 's'),
     ("truncate-set1", .none, 't')] ++ commonOptions
  stopsAtWords := true

/-- What is wrong with the number of sets, if anything is; a second line may explain it. -/
def countFault? (w : Wishes) (sets : List Text) : Option (Text × Text) :=
  let least := if w.deletes = w.squeezes then 2 else 1
  let most := if w.deletes ∧ !w.squeezes then 1 else 2
  if sets.length < least then
    match sets.getLast? with
    | none => some ("missing operand".toList, [])
    | some a => some ("missing operand after ".toList ++ spelled a,
        if w.squeezes then
          "Two strings must be given when both deleting and squeezing repeats.\n".toList
        else "Two strings must be given when translating.\n".toList)
  else
    match sets.drop most with
    | [] => none
    | a :: _ => some ("extra operand ".toList ++ spelled a,
        if sets.length = 2 then
          "Only one string may be given when deleting without squeezing repeats.\n".toList
        else [])

/-- A set as it is spelled; warnings about it are written. -/
def readSet (s : Start) (t : Text) : Program (List Element) := do
  let (cs, warnings) := unescape (t.length + 1) t
  for w in warnings do
    complain s w
  match elements (cs.length + 1) cs with
  | .ok es => return es
  | .error e => fail s e 1

def Plan.apply (p : Plan) (last : Option Char) (t : Text) : Text × Option Char :=
  let (done, last) := t.foldl
    (fun (done, last) c =>
      if p.drops.get c false then (done, last)
      else
        let d := p.replaces.get c c
        if last = some d ∧ p.squeezes.get d false then (done, last) else (d :: done, some d))
    (([] : Text), last)
  (done.reverse, last)

def run (s : Start) (p : Plan) : Nat → Option Char → Bytes → Program Status
  | 0, _, _ => Program.stuck
  | fuel + 1, last, held => do
    match ← Program.ask (.read 0 pieceSize) with
    | .error e =>
      checkOutput s (← Program.put 1 held)
      fail s ("read error: ".toList ++ e.text) 1
    | .ok [] =>
      checkOutput s (← Program.put 1 held)
      return .code 0
    | .ok bytes =>
      let (t, last) := p.apply last (Octets.ofBytes bytes)
      run s p fuel last (← emitSpooled s held (Octets.toBytes t))

end Translate

/-- Replaces, drops or squeezes characters of the input. -/
def tr (s : Start) : Program Status :=
  let r := Translate.table.read s.arguments
  match r.fault with
  | some e => misuse s e
  | none => do
    let w : Translate.Wishes := ⟨r.has 'c' || r.has 'C', r.has 'd', r.has 's', r.has 't'⟩
    match Translate.countFault? w r.words with
    | some (message, explanation) =>
      complain s message
      let _ ← Program.put 2 (Octets.toBytes (explanation ++
        "Try '".toList ++ s.program ++ " --help' for more information.\n".toList))
      return .code 1
    | none =>
      let sets ← r.words.mapM (Translate.readSet s)
      match sets with
      | [] => return .code 1
      | first :: rest =>
        match Translate.planOf w first rest.head? with
        | .error e => fail s e 1
        | .ok p => Translate.run s p Program.limit none []

end AsmExplorer.Programs
