import AsmExplorer.Text.Basic
import AsmExplorer.Text.CharClass

/-!
# Patterns

Patterns for names and texts: a star stands for any text, a question mark for any character, and
brackets for one of some characters. A character behind a backslash stands for itself. Characters are
octets; those with the highest bit come before the others.
-/

namespace AsmExplorer.Shell

namespace Pattern

/-- What brackets allow. -/
inductive Choice where
  | range (first last : Char)
  | ofClass (name : String)
  deriving DecidableEq, Repr

/-- A part of a pattern. -/
inductive Token where
  | one (c : Char)
  | any
  | many
  | set (negated : Bool) (choices : List Choice)
  deriving DecidableEq, Repr

/-- The place of an octet in the order of octets. -/
def rank (c : Char) : Nat :=
  (c.toNat + 128) % 256

/-- Whether a character can be seen on paper. -/
def isGraphic (c : Char) : Bool :=
  33 ≤ c.toNat && c.toNat < 127

/-- The classes that have names, and what is in them. -/
def classes : List (String × (Char → Bool)) :=
  [("alnum", fun c => isAsciiLetter c || isAsciiDigit c),
   ("cntrl", fun c => c.toNat < 32 || c.toNat == 127),
   ("lower", fun c => isAsciiLetter c && c == c.toLower),
   ("space", fun c => c == ' ' || ('\t' ≤ c && c ≤ '\r')),
   ("alpha", isAsciiLetter),
   ("digit", isAsciiDigit),
   ("print", fun c => c == ' ' || isGraphic c),
   ("upper", fun c => isAsciiLetter c && c == c.toUpper),
   ("blank", fun c => c == ' ' || c == '\t'),
   ("graph", isGraphic),
   ("punct", fun c => isGraphic c && !(isAsciiLetter c || isAsciiDigit c)),
   ("xdigit", isHexDigit)]

namespace Choice

/-- Whether a character is allowed. -/
def allows (c : Char) : Choice → Bool
  | .range first last => rank first ≤ rank c && rank c ≤ rank last
  | .ofClass name => ((classes.lookup name).map fun inClass => inClass c).getD false

end Choice

/-- The class that a text behind a bracket names, and what follows. -/
def class? (t : Text) : Option (String × Text) :=
  classes.findSome? fun (name, _) =>
    ((':' :: name.toList ++ [':', ']']).isPrefixOf? t).map (name, ·)

/-- The choices between brackets, those before in reverse, and what follows the closing bracket. A
bracket that comes first does not close. -/
def choices? (isFirst : Bool) (reversed : List Choice) : Nat → Text → Option (List Choice × Text)
  | 0, _ => none
  | _ + 1, [] => none
  | n + 1, c :: rest =>
    if c = ']' ∧ ¬ isFirst then some (reversed.reverse, rest)
    else
      match if c = '[' then class? rest else none with
      | some (name, rest) => choices? false (.ofClass name :: reversed) n rest
      | none =>
        match if c = '\\' then rest else c :: rest with
        | [] => none
        | c :: rest =>
          let single : Option (List Choice × Text) := choices? false (.range c c :: reversed) n rest
          match rest with
          | '-' :: last :: more =>
            if last = ']' then single
            else if last = '\\' then
              match more with
              | last :: more => choices? false (.range c last :: reversed) n more
              | [] => none
            else choices? false (.range c last :: reversed) n more
          | ['-'] => none
          | _ => single

def tokens : Nat → Text → List Token
  | 0, _ => []
  | _ + 1, [] => []
  | n + 1, '\\' :: c :: rest => .one c :: tokens n rest
  | n + 1, '?' :: rest => .any :: tokens n rest
  | n + 1, '*' :: rest => .many :: tokens n rest
  | n + 1, '[' :: rest =>
    let (negated, inner) := match rest with
      | '!' :: inner => (true, inner)
      | inner => (false, inner)
    match choices? true [] (inner.length + 1) inner with
    | some (choices, rest) => .set negated choices :: tokens n rest
    | none => .one '[' :: tokens n rest
  | n + 1, c :: rest => .one c :: tokens n rest

def ofText (t : Text) : List Token :=
  tokens (t.length + 1) t

/-- All tails of a text, the longest first. -/
def tails : Text → List Text
  | [] => [[]]
  | c :: rest => (c :: rest) :: tails rest

def fits : List Token → Text → Bool
  | [], t => t.isEmpty
  | .many :: ts, t =>
    match ts with
    | [] => true
    | ts => (tails t).any (fits ts)
  | .any :: ts, _ :: t => fits ts t
  | .one c :: ts, d :: t => c == d && fits ts t
  | .set negated choices :: ts, d :: t =>
    (choices.any fun choice => choice.allows d) != negated && fits ts t
  | _, [] => false

/-- Whether a text has the pattern that another text spells. -/
def accepts (pattern t : Text) : Bool :=
  fits (ofText pattern) t

/-- How many characters go away where a head or a tail is trimmed that has the pattern. -/
def trimmed? (fromEnd longest : Bool) (pattern t : Text) : Option Nat :=
  let ts := ofText pattern
  let counts := List.range (t.length + 1)
  (if longest then counts.reverse else counts).find? fun k =>
    fits ts (if fromEnd then t.drop (t.length - k) else t.take k)

end Pattern

end AsmExplorer.Shell
