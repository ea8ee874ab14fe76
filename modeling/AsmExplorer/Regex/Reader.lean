import AsmExplorer.Regex.Basic

/-!
# Reading regular expressions

The two written forms of regular expressions. In the basic form groups, bounds and alternatives are
written with backslashes, and a star or a circumflex is special only where it makes sense; in the
extended form they are special by themselves.
-/

namespace AsmExplorer

/-- Why an expression cannot be read. -/
inductive RegexError where
  | className
  | collation
  | rangeEnd
  | trailingBackslash
  | backReference
  | openBracket
  | openGroup
  | openBounds
  | badBounds
  | repetition
  | closingGroup
  | tooBig
  /-- A class stands outside a bracket. -/
  | bareClass
  deriving DecidableEq, Repr

def RegexError.message : RegexError → Text
  | .className => "Invalid character class name".toList
  | .collation => "Invalid collation character".toList
  | .rangeEnd => "Invalid range end".toList
  | .trailingBackslash => "Trailing backslash".toList
  | .backReference => "Invalid back reference".toList
  | .openBracket => "Unmatched [, [^, [:, [., or [=".toList
  | .openGroup => "Unmatched ( or \\(".toList
  | .openBounds => ("Unmatched \\".toList ++ ['\x7b'])
  | .badBounds => "Invalid content of \\".toList ++ ['\x7b', '\\', '\x7d']
  | .repetition => "Invalid preceding regular expression".toList
  | .closingGroup => "Unmatched ) or \\)".toList
  | .tooBig => "Regular expression too big".toList
  | .bareClass => "character class syntax is [[:space:]], not [:space:]".toList

namespace CharSet

/-- The classes of characters with their names. -/
def classes : List (String × List (Nat × Nat)) :=
  [("alpha", [(65, 90), (97, 122)]), ("digit", [(48, 57)]),
   ("alnum", [(48, 57), (65, 90), (97, 122)]), ("upper", [(65, 90)]), ("lower", [(97, 122)]),
   ("space", [(9, 13), (32, 32)]), ("blank", [(9, 9), (32, 32)]),
   ("punct", [(33, 47), (58, 64), (91, 96), (123, 126)]), ("print", [(32, 126)]),
   ("graph", [(33, 126)]), ("cntrl", [(0, 31), (127, 127)]),
   ("xdigit", [(48, 57), (65, 70), (97, 102)])]

def class? (name : Text) : Option (List (Nat × Nat)) :=
  (classes.find? fun c => c.1.toList == name).map Prod.snd

def word : List (Nat × Nat) := [(48, 57), (65, 90), (95, 95), (97, 122)]

def space : List (Nat × Nat) := [(9, 13), (32, 32)]

def notWord : List (Nat × Nat) := [(0, 47), (58, 64), (91, 94), (96, 96), (123, 255)]

def notSpace : List (Nat × Nat) := [(0, 8), (14, 31), (33, 255)]

end CharSet

namespace Regex

/-- A sign of a written expression. -/
inductive Token where
  | char (c : Char)
  | any
  | set (s : CharSet)
  | bracket
  | star
  | plus
  | question
  | openBounds
  | closeBounds
  | bar
  | openGroup
  | closeGroup
  | anchor (a : Anchor)
  | back (n : Nat)
  | trailing
  | stop
  deriving DecidableEq

/-- How far an expression has been read. -/
structure Reading where
  rest : Text
  /-- Whether a circumflex here stands for the start of a line. -/
  atStart : Bool := true
  /-- The number of groups that have been opened. -/
  opened : Nat := 0
  /-- The groups that have been closed. -/
  closed : List Nat := []

/-- Whether a dollar sign in front of a text stands for the end of a line. -/
def endsLine (extended : Bool) (after : Text) : Bool :=
  extended ||
    match after with
    | [] => true
    | '\\' :: ')' :: _ => true
    | '\\' :: '|' :: _ => true
    | _ => false

/-- The sign that a backslash makes of a character. -/
def escaped (extended : Bool) (c : Char) : Token :=
  match c with
  | 'w' => .set ⟨CharSet.word, false⟩
  | 'W' => .set ⟨CharSet.notWord, false⟩
  | 's' => .set ⟨CharSet.space, false⟩
  | 'S' => .set ⟨CharSet.notSpace, false⟩
  | 'b' => .anchor .wordEdge
  | 'B' => .anchor .noWordEdge
  | '<' => .anchor .wordStart
  | '>' => .anchor .wordEnd
  | '\x60' => .anchor .textStart
  | '\'' => .anchor .textEnd
  | '|' => if extended then .char c else .bar
  | '(' => if extended then .char c else .openGroup
  | ')' => if extended then .char c else .closeGroup
  | '+' => if extended then .char c else .plus
  | '?' => if extended then .char c else .question
  | '\x7b' => if extended then .char c else .openBounds
  | '\x7d' => if extended then .char c else .closeBounds
  | _ => if '1' ≤ c ∧ c ≤ '9' then .back (c.toNat - 48) else .char c

def token (extended : Bool) (s : Reading) : Token × Text :=
  match s.rest with
  | [] => (.stop, [])
  | ['\\'] => (.trailing, [])
  | '\\' :: c :: rest => (escaped extended c, rest)
  | '[' :: rest => (.bracket, rest)
  | '.' :: rest => (.any, rest)
  | '*' :: rest => (.star, rest)
  | '^' :: rest => (if extended || s.atStart then .anchor .lineStart else .char '^', rest)
  | '$' :: rest => (if endsLine extended rest then .anchor .lineEnd else .char '$', rest)
  | c :: rest =>
    if extended then
      match c with
      | '|' => (.bar, rest)
      | '(' => (.openGroup, rest)
      | ')' => (.closeGroup, rest)
      | '+' => (.plus, rest)
      | '?' => (.question, rest)
      | '\x7b' => (.openBounds, rest)
      | '\x7d' => (.closeBounds, rest)
      | _ => (.char c, rest)
    else (.char c, rest)

/-- The text up to a character in front of a bracket, and what is behind the bracket. -/
def untilClosed (mark : Char) : Text → Option (Text × Text)
  | [] => none
  | c :: rest =>
    if c = mark ∧ rest.head? = some ']' then some ([], rest.drop 1)
    else (untilClosed mark rest).map fun (t, after) => (c :: t, after)

/-- An item of a bracket: a character, or a class. -/
inductive Item where
  | char (c : Char)
  | ranges (rs : List (Nat × Nat))

def item : Text → Except RegexError (Item × Text)
  | [] => .error .openBracket
  | '[' :: '.' :: rest =>
    match untilClosed '.' rest with
    | some ([c], after) => .ok (.char c, after)
    | some _ => .error .collation
    | none => .error .openBracket
  | '[' :: '=' :: rest =>
    match untilClosed '=' rest with
    | some ([c], after) => .ok (.ranges [(c.toNat, c.toNat)], after)
    | some _ => .error .collation
    | none => .error .openBracket
  | '[' :: ':' :: rest =>
    match untilClosed ':' rest with
    | some (name, after) =>
      match CharSet.class? name with
      | some rs => .ok (.ranges rs, after)
      | none => .error .className
    | none => .error .openBracket
  | c :: rest => .ok (.char c, rest)

/-- The items of a bracket up to its end; a closing bracket in front stands for itself. -/
def items (isFirst : Bool) : Nat → Text → Except RegexError (List (Nat × Nat) × Text)
  | 0, _ => .error .openBracket
  | fuel + 1, t =>
    match isFirst, t with
    | false, ']' :: rest => .ok ([], rest)
    | _, t => do
      let (first, rest) ← item t
      match first, rest with
      | .char _, '-' :: [] => .error .openBracket
      | .char c, '-' :: ']' :: _ =>
        let (more, after) ← items false fuel rest
        return ((c.toNat, c.toNat) :: more, after)
      | .char c, '-' :: rest =>
        match ← item rest with
        | (.char d, rest) =>
          if d < c then throw .rangeEnd
          let (more, after) ← items false fuel rest
          return ((c.toNat, d.toNat) :: more, after)
        | _ => throw .rangeEnd
      | .char c, rest =>
        let (more, after) ← items false fuel rest
        return ((c.toNat, c.toNat) :: more, after)
      | .ranges _, '-' :: d :: _ =>
        if d ≠ ']' then throw .rangeEnd
        let (more, after) ← items false fuel rest
        match first with
        | .ranges rs => return (rs ++ more, after)
        | .char _ => return (more, after)
      | .ranges rs, rest =>
        let (more, after) ← items false fuel rest
        return (rs ++ more, after)

/-- Whether the inside of a bracket looks like a class without its own bracket. -/
def looksLikeClass (inside : Text) : Bool :=
  inside.head? == some ':' && inside.getLast? == some ':' && 2 < inside.length &&
    !inside.contains '['

/-- Takes a bracket, behind its first sign. -/
def bracket (t : Text) : Except RegexError (CharSet × Text) := do
  let (negated, t) := match t with
    | '^' :: rest => (true, rest)
    | t => (false, t)
  let (ranges, rest) ← items true (t.length + 1) t
  if looksLikeClass (t.take (t.length - rest.length - 1)) then throw .bareClass
  return (⟨ranges, negated⟩, rest)

def greatestBound : Nat := 32767

/-- Takes the digits of a bound: the number, if there is one. Anything else in front of a comma or the
end of the bounds makes it invalid. -/
def bound (extended : Bool) (number : Option Nat) (valid : Bool) :
    Nat → Text → Except RegexError (Option Nat × Bool × Token × Text)
  | 0, _ => .error .openBounds
  | fuel + 1, t =>
    match token extended { rest := t, atStart := false } with
    | (.stop, _) => .error .openBounds
    | (.trailing, _) => .error .openBounds
    | (.closeBounds, rest) => .ok (number, valid, .closeBounds, rest)
    | (.char ',', rest) => .ok (number, valid, .char ',', rest)
    | (.char c, rest) =>
      if '0' ≤ c ∧ c ≤ '9' then
        bound extended (some (min (greatestBound + 1) (number.getD 0 * 10 + (c.toNat - 48)))) valid
          fuel rest
      else bound extended number false fuel rest
    | (_, rest) => bound extended number false fuel rest

/-- Takes bounds, behind their first sign. -/
def bounds (extended : Bool) (t : Text) : Except RegexError ((Nat × Option Nat) × Text) := do
  let fuel := t.length + 1
  let (first, valid, sign, rest) ← bound extended none true fuel t
  if !valid then
    if sign = .closeBounds then throw .badBounds
    let _ ← bound extended none true fuel rest
    throw .badBounds
  if sign = .closeBounds then
    match first with
    | none => throw .badBounds
    | some n => if greatestBound < n then throw .tooBig else return ((n, some n), rest)
  let (second, valid, sign, rest) ← bound extended none true fuel rest
  if !valid ∨ sign ≠ .closeBounds then throw .badBounds
  let least := first.getD 0
  if second.any fun n => n < least then throw .badBounds
  if greatestBound < second.getD least then throw .tooBig
  return ((least, second), rest)

/-- The repetition of an expression that a sign asks for, if it is one of repetition. -/
def repeated (extended : Bool) (sign : Token) (rest : Text) (r : Regex) :
    Except RegexError (Option (Regex × Text)) :=
  match sign with
  | .star => .ok (some (.times 0 none r, rest))
  | .plus => .ok (some (.times 1 none r, rest))
  | .question => .ok (some (.times 0 (some 1) r, rest))
  | .openBounds => (bounds extended rest).map fun (b, rest) => some (.times b.1 b.2 r, rest)
  | _ => .ok none

def repetitions (extended : Bool) (r : Regex) : Nat → Reading → Except RegexError (Regex × Reading)
  | 0, s => .ok (r, s)
  | fuel + 1, s => do
    let (sign, rest) := token extended s
    match ← repeated extended sign rest r with
    | none => return (r, s)
    | some (r, rest) =>
      let s := { s with rest := rest, atStart := false }
      let (next, _) := token extended s
      if !extended ∧ (next = .star ∨ next = .openBounds) then throw .repetition
      repetitions extended r fuel s

mutual

/-- Takes alternatives. One of them cannot refer back to a group in another one. -/
def alternatives (extended : Bool) (depth : Nat) :
    Nat → Reading → Except RegexError (Regex × Reading)
  | 0, s => .ok (.empty, s)
  | fuel + 1, s => do
    let (r, after) ← branch extended depth fuel s
    match token extended after with
    | (.bar, rest) =>
      let (more, last) ← alternatives extended depth fuel
        { after with rest := rest, atStart := true, closed := s.closed }
      return (.either r more, { last with closed := last.closed ++ after.closed })
    | _ => return (r, after)

/-- Takes pieces that follow one another. -/
def branch (extended : Bool) (depth : Nat) : Nat → Reading → Except RegexError (Regex × Reading)
  | 0, s => .ok (.empty, s)
  | fuel + 1, s =>
    match token extended s with
    | (.stop, _) => .ok (.empty, s)
    | (.bar, _) => .ok (.empty, s)
    | (.closeGroup, _) =>
      if depth = 0 then .error .closingGroup else .ok (.empty, s)
    | _ => do
      let (r, s) ← piece extended depth fuel s
      let (more, s) ← branch extended depth fuel s
      return (match more with
        | .empty => r
        | more => .both r more, s)

/-- Takes a piece with its repetitions. -/
def piece (extended : Bool) (depth : Nat) : Nat → Reading → Except RegexError (Regex × Reading)
  | 0, s => .ok (.empty, s)
  | fuel + 1, s =>
    let (sign, rest) := token extended s
    let behind (r : Regex) (rest : Text) : Except RegexError (Regex × Reading) :=
      repetitions extended r (rest.length + 1) { s with rest := rest, atStart := false }
    let literal : Except RegexError (Regex × Reading) :=
      if extended then .error .repetition
      else behind (.one (.only (match sign with
        | .plus => '+'
        | .question => '?'
        | _ => '*'))) rest
    match sign with
    | .char c => behind (.one (.only c)) rest
    | .closeBounds => behind (.one (.only '\x7d')) rest
    | .any => behind (.one ⟨[], true⟩) rest
    | .set cs => behind (.one cs) rest
    | .bracket => do
      let (cs, rest) ← bracket rest
      behind (.one cs) rest
    | .star => literal
    | .plus => literal
    | .question => literal
    | .openBounds => .error .repetition
    | .anchor a => .ok (.place a, { s with rest := rest, atStart := true })
    | .back n =>
      if s.closed.contains n then behind (.back n) rest else .error .backReference
    | .trailing => .error .trailingBackslash
    | .openGroup => do
      let number := s.opened + 1
      let (r, s) ← alternatives extended (depth + 1) fuel
        { s with rest := rest, atStart := true, opened := number }
      match token extended s with
      | (.closeGroup, rest) =>
        repetitions extended (.group number r) (rest.length + 1)
          { s with rest := rest, atStart := false, closed := number :: s.closed }
      | _ => throw .openGroup
    | _ => .ok (.empty, s)

end

/-- Reads an expression: what it is, and the number of its groups. -/
def ofText (extended : Bool) (t : Text) : Except RegexError (Regex × Nat) := do
  let (r, s) ← alternatives extended 0 (4 * t.length + 8) { rest := t }
  return (r, s.opened)

end Regex

end AsmExplorer
