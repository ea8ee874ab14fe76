import AsmExplorer.Text.Octets

/-!
# Regular expressions

Expressions over octets and what they match. Of all matches the leftmost counts, and of those that
begin there the longest. Inside a match each piece in turn is as long as it can be, which fixes what
the groups are. An expression that refers back to a group is matched by trying one way after the other;
any other one by computing the places at which it can end.
-/

namespace AsmExplorer

/-- A condition on a place in a text. -/
inductive Anchor where
  | lineStart
  | lineEnd
  | textStart
  | textEnd
  | wordStart
  | wordEnd
  | wordEdge
  | noWordEdge
  deriving DecidableEq, Repr

/-- A set of characters: those in some ranges of codes, or those that are not. -/
structure CharSet where
  ranges : List (Nat × Nat)
  negated : Bool := false
  deriving DecidableEq, Repr

namespace CharSet

/-- Whether the ranges hold a code. -/
def holds (s : CharSet) (code : Nat) : Bool :=
  s.ranges.any fun r => r.1 ≤ code && code ≤ r.2

def only (c : Char) : CharSet := ⟨[(c.toNat, c.toNat)], false⟩

end CharSet

inductive Regex where
  | empty
  | one (s : CharSet)
  | both (first second : Regex)
  | either (first second : Regex)
  /-- The expression repeated, at least and at most so many times. -/
  | times (least : Nat) (most : Option Nat) (r : Regex)
  | group (number : Nat) (r : Regex)
  /-- What a group has matched, once more. -/
  | back (number : Nat)
  | place (a : Anchor)
  deriving Repr

def asciiLower (c : Char) : Char :=
  if 'A' ≤ c ∧ c ≤ 'Z' then Char.ofNat (c.toNat + 32) else c

def asciiUpper (c : Char) : Char :=
  if 'a' ≤ c ∧ c ≤ 'z' then Char.ofNat (c.toNat - 32) else c

/-- Whether a character is a letter, a digit or a low line. -/
def isWordOctet (c : Char) : Bool :=
  ('a' ≤ c && c ≤ 'z') || ('A' ≤ c && c ≤ 'Z') || ('0' ≤ c && c ≤ '9') || c == '_'

/-- A text in which to look for matches. -/
structure Subject where
  text : Array Char
  /-- Whether the case of letters does not count. -/
  folds : Bool := false
  /-- Whether the text is read as lines. -/
  lines : Bool := false

namespace Subject

def inSet (t : Subject) (s : CharSet) (c : Char) : Bool :=
  let found := s.holds c.toNat ||
    (t.folds && (s.holds (asciiLower c).toNat || s.holds (asciiUpper c).toNat))
  if s.negated then !found && !(t.lines && c == '\n') else found

def wordBefore (t : Subject) (i : Nat) : Bool :=
  i != 0 && (t.text[i - 1]?).any isWordOctet

def wordAfter (t : Subject) (i : Nat) : Bool :=
  (t.text[i]?).any isWordOctet

def isAt (t : Subject) (i : Nat) : Anchor → Bool
  | .lineStart => i == 0 || (t.lines && t.text[i - 1]? == some '\n')
  | .lineEnd => i == t.text.size || (t.lines && t.text[i]? == some '\n')
  | .textStart => i == 0
  | .textEnd => i == t.text.size
  | .wordStart => !t.wordBefore i && t.wordAfter i
  | .wordEnd => t.wordBefore i && !t.wordAfter i
  | .wordEdge => t.wordBefore i != t.wordAfter i
  | .noWordEdge => t.wordBefore i == t.wordAfter i

/-- Whether two characters are the same. -/
def same (t : Subject) (c d : Char) : Bool :=
  c == d || (t.folds && asciiLower c == asciiLower d)

/-- Whether the text at two places is the same for a length. -/
def repeats (t : Subject) (i j : Nat) : Nat → Bool
  | 0 => true
  | n + 1 =>
    match t.text[i]?, t.text[j]? with
    | some c, some d => t.same c d && repeats t (i + 1) (j + 1) n
    | _, _ => false

end Subject

/-- The places of a decreasing list and those of another one, in decreasing order. -/
def mergePlaces : List Nat → List Nat → List Nat
  | [], ys => ys
  | xs, [] => xs
  | x :: xs, y :: ys =>
    if x = y then x :: mergePlaces xs ys
    else if y < x then x :: mergePlaces xs (y :: ys)
    else y :: mergePlaces (x :: xs) ys

/-- What groups have matched, from where to where; the last match of a group comes first. -/
abbrev Groups := List (Nat × Nat × Nat)

namespace Regex

/-- Whether an expression refers back to a group. -/
def refersBack : Regex → Bool
  | .both a b => a.refersBack || b.refersBack
  | .either a b => a.refersBack || b.refersBack
  | .times _ _ r => r.refersBack
  | .group _ r => r.refersBack
  | .back _ => true
  | _ => false

/-- The number of characters of a set from a place on, at most so many. -/
def run (t : Subject) (s : CharSet) : Nat → Nat → Nat
  | 0, _ => 0
  | fuel + 1, i =>
    match t.text[i]? with
    | some c => if t.inSet s c then run t s fuel (i + 1) + 1 else 0
    | none => 0

/-- The places that are reached from some places by one more round, again and again. -/
def closure (step : Nat → List Nat) : Nat → List Nat → List Nat → List Nat
  | 0, reached, _ => reached
  | _ + 1, reached, [] => reached
  | rounds + 1, reached, frontier =>
    let next := (frontier.foldl (fun places i => mergePlaces places (step i)) []).filter
      fun i => !reached.contains i
    closure step rounds (mergePlaces reached next) next

/-- The places at which a match that begins at a place can end, in decreasing order. -/
def ends (t : Subject) : Regex → Nat → List Nat
  | .empty, i => [i]
  | .one s, i =>
    match t.text[i]? with
    | some c => if t.inSet s c then [i + 1] else []
    | none => []
  | .both a b, i =>
    match ends t a i with
    | [] => []
    | [j] => ends t b j
    | js => js.foldl (fun places j => mergePlaces places (ends t b j)) []
  | .either a b, i => mergePlaces (ends t a i) (ends t b i)
  | .times least most (.one s), i =>
    let size := run t s ((most.getD t.text.size)) i
    if size < least then [] else (List.range (size + 1 - least)).map fun k => i + size - k
  | .times least most r, i =>
    let first := (List.range least).foldl
      (fun places _ => places.foldl (fun more j => mergePlaces more (ends t r j)) []) [i]
    let rounds := match most with
      | some n => n - least
      | none => t.text.size + 1
    closure (ends t r) rounds first first
  | .group _ r, i => ends t r i
  | .back _, _ => []
  | .place a, i => if t.isAt i a then [i] else []

/-- Whether an expression matches from one place to another. -/
def spans (t : Subject) (r : Regex) (i j : Nat) : Bool :=
  (ends t r i).contains j

/-- The rounds of a repetition that leads from one place to another, each as long as it can be. -/
def rounds (t : Subject) (r : Regex) (least : Nat) (most : Option Nat) :
    Nat → Nat → Nat → List (Nat × Nat)
  | 0, _, _ => []
  | fuel + 1, i, j =>
    if i = j ∧ least = 0 then []
    else
      let most' := most.map (· - 1)
      match (ends t r i).find? fun k =>
          (k ≠ i || least ≠ 0) && spans t (.times (least - 1) most' r) k j with
      | some k => (i, k) :: rounds t r (least - 1) most' fuel k j
      | none => []

/-- What the groups match when an expression matches from one place to another. -/
def groups (t : Subject) : Regex → Nat → Nat → Groups
  | .both a b, i, j =>
    match (ends t a i).find? fun k => spans t b k j with
    | some k => groups t b k j ++ groups t a i k
    | none => []
  | .either a b, i, j => if spans t a i j then groups t a i j else groups t b i j
  | .times least most r, i, j =>
    ((rounds t r least most (t.text.size + least + 1) i j).map
      fun round => groups t r round.1 round.2).reverse.flatten
  | .group n r, i, j => (n, i, j) :: groups t r i j
  | _, _, _ => []

/-- All matches that begin at a place, the preferred ones first, with what the groups match. -/
def ways (t : Subject) : Regex → Nat → Groups → List (Nat × Groups)
  | .both a b, i, gs => (ways t a i gs).flatMap fun w => ways t b w.1 w.2
  | .either a b, i, gs => ways t a i gs ++ ways t b i gs
  | .times least most r, i, gs =>
    let rec again : Nat → Nat → Option Nat → Nat → Groups → List (Nat × Groups)
      | 0, _, _, _, _ => []
      | fuel + 1, least, most, i, gs =>
        let stops := if least = 0 then [(i, gs)] else []
        if most = some 0 then stops
        else
          (((ways t r i gs).filter fun w => w.1 ≠ i || least ≠ 0).flatMap fun w =>
            again fuel (least - 1) (most.map (· - 1)) w.1 w.2) ++ stops
    again (t.text.size + least + 1) least most i gs
  | .group n r, i, gs => (ways t r i gs).map fun w => (w.1, (n, i, w.1) :: w.2)
  | .back n, i, gs =>
    match gs.lookup n with
    | some (a, b) => if t.repeats a i (b - a) then [(i + (b - a), gs)] else []
    | none => []
  | r, i, gs => (ends t r i).map fun j => (j, gs)

/-- A match: where it begins and ends, and what the groups match. -/
structure Found where
  first : Nat
  last : Nat
  groups : Groups
  deriving Repr

/-- The preferred one of the longest ways. -/
def longest : List (Nat × Groups) → Option (Nat × Groups)
  | [] => none
  | w :: ws =>
    match longest ws with
    | some v => if v.1 ≤ w.1 then some w else some v
    | none => some w

/-- The longest match that begins at a place. -/
def matchAt? (t : Subject) (r : Regex) (back : Bool) (i : Nat) : Option Found :=
  if back then (longest (ways t r i [])).map fun w => ⟨i, w.1, w.2⟩
  else (ends t r i).head?.map fun j => ⟨i, j, groups t r i j⟩

/-- The first match at one of so many places. -/
def searchFrom (t : Subject) (r : Regex) (back : Bool) : Nat → Nat → Option Found
  | 0, _ => none
  | fuel + 1, i =>
    match matchAt? t r back i with
    | some f => some f
    | none => searchFrom t r back fuel (i + 1)

/-- The first match from a place on. -/
def search (t : Subject) (r : Regex) (i : Nat) : Option Found :=
  searchFrom t r r.refersBack (t.text.size + 1 - i) i

end Regex

/-- What a group has matched in a text. -/
def Regex.Found.group (f : Regex.Found) (t : Subject) (n : Nat) : Text :=
  if n = 0 then (t.text.extract f.first f.last).toList
  else
    match f.groups.lookup n with
    | some (i, j) => (t.text.extract i j).toList
    | none => []

end AsmExplorer
