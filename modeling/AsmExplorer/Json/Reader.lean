import AsmExplorer.Json.Basic

/-!
# Reading JSON

A reader for the JSON grammar. The whole text has to be one value with blanks around it. Each reader
takes the text from its position on and gives what is left; the nesting is bounded by the length of
the text, so fuel of that size never runs out.
-/

namespace AsmExplorer.Json

/-- The blanks of JSON. -/
def isSpace (c : Char) : Bool :=
  c == ' ' || c == '\n' || c == '\t' || c == '\r'

def skipSpace (t : Text) : Text :=
  t.dropWhile isSpace

/-- Takes a whole number part: a zero, or digits that begin with another one. -/
def wholePart? (t : Text) : Option (Text × Text) :=
  match t.takeWhile isAsciiDigit with
  | [] => none
  | ['0'] => some (['0'], t.drop 1)
  | '0' :: _ => none
  | digits => some (digits, t.dropWhile isAsciiDigit)

/-- Takes a decimal point and digits, if a point stands there. -/
def fractionPart? : Text → Option (Text × Text)
  | '.' :: rest =>
    match rest.takeWhile isAsciiDigit with
    | [] => none
    | digits => some ('.' :: digits, rest.dropWhile isAsciiDigit)
  | t => some ([], t)

def signPart : Text → Text × Text
  | '+' :: rest => (['+'], rest)
  | '-' :: rest => (['-'], rest)
  | t => ([], t)

def exponentPart? : Text → Option (Text × Text)
  | [] => some ([], [])
  | c :: rest =>
    if c = 'e' ∨ c = 'E' then
      let (sign, rest) := signPart rest
      match rest.takeWhile isAsciiDigit with
      | [] => none
      | digits => some (c :: sign ++ digits, rest.dropWhile isAsciiDigit)
    else some ([], c :: rest)

def number? (t : Text) : Option (Text × Text) := do
  let (minus, t) := match t with
    | '-' :: rest => (['-'], rest)
    | t => ([], t)
  let (whole, t) ← wholePart? t
  let (fraction, t) ← fractionPart? t
  let (exponent, t) ← exponentPart? t
  return (minus ++ whole ++ fraction ++ exponent, t)

/-- Takes the four digits of a numeric escape. -/
def escapeUnit? (t : Text) : Option (Nat × Text) :=
  match t with
  | a :: b :: c :: d :: rest =>
    if [a, b, c, d].all isHexDigit then some (ofDigits 16 ([a, b, c, d].map hexDigitValue), rest)
    else none
  | _ => none

def escapeChar? : Char → Option Char
  | '"' => some '"'
  | '\\' => some '\\'
  | '/' => some '/'
  | 'b' => some '\x08'
  | 'f' => some '\x0c'
  | 'n' => some '\n'
  | 'r' => some '\r'
  | 't' => some '\t'
  | _ => none

/-- Takes a low surrogate escape. -/
def lowSurrogate? : Text → Option (Nat × Text)
  | '\\' :: 'u' :: rest =>
    match escapeUnit? rest with
    | some (unit, rest) => if 0xDC00 ≤ unit ∧ unit < 0xE000 then some (unit, rest) else none
    | none => none
  | _ => none

/-- Takes a string behind its opening quote. The characters come in reverse, or not at all once half
a surrogate pair has been met. -/
def stringTail? : Nat → Option Text → Text → Option (Option Text × Text)
  | 0, _, _ => none
  | fuel + 1, read, t =>
    match t with
    | [] => none
    | '"' :: rest => some (read.map List.reverse, rest)
    | '\\' :: 'u' :: rest =>
      match escapeUnit? rest with
      | none => none
      | some (unit, rest) =>
        if unit < 0xD800 ∨ 0xE000 ≤ unit then
          stringTail? fuel (read.map (Char.ofNat unit :: ·)) rest
        else
          match lowSurrogate? rest with
          | some (low, after) =>
            if unit < 0xDC00 then
              let code := 0x10000 + (unit - 0xD800) * 0x400 + (low - 0xDC00)
              stringTail? fuel (read.map (Char.ofNat code :: ·)) after
            else stringTail? fuel none rest
          | none => stringTail? fuel none rest
    | '\\' :: c :: rest =>
      match escapeChar? c with
      | some d => stringTail? fuel (read.map (d :: ·)) rest
      | none => none
    | c :: rest =>
      if c.toNat < 0x20 ∨ c = '\\' then none else stringTail? fuel (read.map (c :: ·)) rest

def string? : Text → Option (Option Text × Text)
  | '"' :: rest => stringTail? (rest.length + 1) (some []) rest
  | _ => none

mutual

def value? : Nat → Text → Option (Json × Text)
  | 0, _ => none
  | fuel + 1, t =>
    match t with
    | 'n' :: 'u' :: 'l' :: 'l' :: rest => some (.null, rest)
    | 't' :: 'r' :: 'u' :: 'e' :: rest => some (.bool true, rest)
    | 'f' :: 'a' :: 'l' :: 's' :: 'e' :: rest => some (.bool false, rest)
    | '"' :: rest =>
      match stringTail? (rest.length + 1) (some []) rest with
      | some (s, rest) => some (.string s, rest)
      | none => none
    | '[' :: rest =>
      match skipSpace rest with
      | ']' :: rest => some (.array [], rest)
      | rest => elements? fuel [] rest
    | '{' :: rest =>
      match skipSpace rest with
      | '}' :: rest => some (.object [], rest)
      | rest => members? fuel [] rest
    | t =>
      match number? t with
      | some (literal, rest) => some (.number literal, rest)
      | none => none

/-- Takes the elements of an array, the ones read before in reverse, and the closing bracket. -/
def elements? : Nat → List Json → Text → Option (Json × Text)
  | 0, _, _ => none
  | fuel + 1, read, t =>
    match value? fuel t with
    | none => none
    | some (v, rest) =>
      match skipSpace rest with
      | ',' :: rest => elements? fuel (v :: read) (skipSpace rest)
      | ']' :: rest => some (.array (v :: read).reverse, rest)
      | _ => none

/-- Takes the members of an object, the ones read before in reverse, and the closing brace. -/
def members? : Nat → List (Option Text × Json) → Text → Option (Json × Text)
  | 0, _, _ => none
  | fuel + 1, read, t =>
    match string? t with
    | none => none
    | some (name, rest) =>
      match skipSpace rest with
      | ':' :: rest =>
        match value? fuel (skipSpace rest) with
        | none => none
        | some (v, rest) =>
          match skipSpace rest with
          | ',' :: rest => members? fuel ((name, v) :: read) (skipSpace rest)
          | '}' :: rest => some (.object ((name, v) :: read).reverse, rest)
          | _ => none
      | _ => none

end

def parse? (t : Text) : Option Json :=
  match value? (t.length + 1) (skipSpace t) with
  | some (v, rest) => if skipSpace rest = [] then some v else none
  | none => none

end AsmExplorer.Json
