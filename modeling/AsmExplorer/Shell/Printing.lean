import AsmExplorer.Text.Integer
import AsmExplorer.Text.Quantity

/-!
# Printing in scripts

What the commands `echo` and `printf` write for their arguments.
-/

namespace AsmExplorer.Shell

namespace Escape

/-- The character of a one-letter escape. -/
def letter? : Char → Option Char
  | 'a' => some '\x07'
  | 'b' => some '\x08'
  | 'e' => some '\x1b'
  | 'f' => some '\x0c'
  | 'n' => some '\n'
  | 'r' => some '\r'
  | 't' => some '\t'
  | 'v' => some '\x0b'
  | '\\' => some '\\'
  | _ => none

def isOctal (c : Char) : Bool :=
  '0' ≤ c && c ≤ '7'

/-- What the text behind a backslash comes to: a character and the rest. -/
def read (t : Text) : Char × Text :=
  match t with
  | [] => ('\\', [])
  | c :: rest =>
    if isOctal c then
      let digits := (t.take 3).takeWhile isOctal
      (Char.ofNat (ofDigits 8 (digits.map hexDigitValue) % 256), t.drop digits.length)
    else
      match letter? c with
      | some d => (d, rest)
      | none => ('\\', t)

/-- A text with its escapes resolved as in an argument, and whether the writing stops there. The
characters before come in reverse. -/
def resolve (reversed : Text) : Nat → Text → Text × Bool
  | 0, _ => (reversed.reverse, false)
  | _ + 1, [] => (reversed.reverse, false)
  | _ + 1, '\\' :: 'c' :: _ => (reversed.reverse, true)
  | n + 1, '\\' :: '0' :: d :: rest =>
    let (c, rest) := read (if isOctal d then d :: rest else '0' :: d :: rest)
    resolve (c :: reversed) n rest
  | n + 1, '\\' :: rest =>
    let (c, rest) := read rest
    resolve (c :: reversed) n rest
  | n + 1, c :: rest => resolve (c :: reversed) n rest

/-- A text with its escapes resolved as in an argument, and whether the writing stops there. -/
def resolveAll (t : Text) : Text × Bool :=
  if t.contains '\\' then resolve [] (t.length + 1) t else (t, false)

end Escape

/-- The words that `echo` writes, with blanks between them, up to where the writing stops. -/
def echoWords : List Text → Text × Bool
  | [] => ([], false)
  | [w] => Escape.resolveAll w
  | w :: ws =>
    match Escape.resolveAll w with
    | (t, true) => (t, true)
    | (t, false) =>
      let (rest, stops) := echoWords ws
      (t ++ ' ' :: rest, stops)

def echoText (arguments : List Text) : Text :=
  let (newline, words) := match arguments with
    | ['-', 'n'] :: rest => (false, rest)
    | words => (true, words)
  let (t, stops) := echoWords words
  if newline && !stops then t ++ ['\n'] else t

namespace Printf

/-- How a value is laid out. -/
structure Layout where
  left : Bool := false
  zeros : Bool := false
  plus : Bool := false
  blank : Bool := false
  /-- Whether the base of a number is shown, or its point. -/
  alternate : Bool := false
  width : Nat := 0
  precision : Option Nat := none

/-- What is written so far, what is left, and what has gone wrong. -/
structure Progress where
  /-- The pieces that are written, the last one first. -/
  written : List Text := []
  arguments : List Text
  /-- Whether an argument has been asked for that was there. -/
  used : Bool := false
  stops : Bool := false
  /-- The arguments that were no good, and what is said about them, the last one first. -/
  warnings : List Text := []
  /-- What ends the writing, if anything does. -/
  failure : Option Text := none

namespace Progress

def next (p : Progress) : Option Text × Progress :=
  match p.arguments with
  | [] => (none, p)
  | a :: rest => (some a, { p with arguments := rest, used := true })

def add (p : Progress) (t : Text) : Progress :=
  { p with written := t :: p.written }

/-- Takes note of an argument that was no good. -/
def warn (p : Progress) (argument : Text) (complaint : String) : Progress :=
  { p with warnings := (argument ++ ": ".toList ++ complaint.toList) :: p.warnings }

/-- Takes note of an argument that has been read as a number up to a rest. -/
def check (p : Progress) (argument rest : Text) (isOutOfRange : Bool) : Progress :=
  if !rest.isEmpty then
    p.warn argument
      (if rest.length = argument.length then "expected numeric value" else "not completely converted")
  else if isOutOfRange then p.warn argument "Numerical result out of range"
  else p

/-- The character behind a quote in front of an argument, if there is a quote. -/
def quoted? : Text → Option Nat
  | q :: rest =>
    if q = '"' ∨ q = '\'' then some (match rest with
      | c :: _ => c.toNat
      | [] => 0)
    else none
  | [] => none

/-- The whole number that the next argument spells. -/
def integer (signed : Bool) (p : Progress) : Int × Progress :=
  match p.next with
  | (none, p) => (0, p)
  | (some a, p) =>
    match quoted? a with
    | some n => (n, p)
    | none =>
      let r := IntegerReading.read true a
      let greatest : Int := if signed then greatestInteger else (Nat.pow 2 64 : Nat) - 1
      let least : Int := if signed then leastInteger else -greatest
      let value :=
        if greatest < r.value then greatest
        else if r.value < least then (if signed then least else greatest)
        else r.value
      (value, p.check a r.rest (r.value < least || greatest < r.value))

/-- The quantity that the next argument spells. -/
def quantity (p : Progress) : Quantity × Progress :=
  match p.next with
  | (none, p) => (.finite false ⟨0, 1⟩, p)
  | (some a, p) =>
    match quoted? a with
    | some n => (.finite false ⟨n, 1⟩, p)
    | none =>
      match Quantity.read? a with
      | some r => (r.value, p.check a r.rest r.isOutOfRange)
      | none => (.finite false ⟨0, 1⟩, p.check a a false)

end Progress

def flags (l : Layout) : Text → Layout × Text
  | '-' :: rest => flags { l with left := true } rest
  | '0' :: rest => flags { l with zeros := true } rest
  | '+' :: rest => flags { l with plus := true } rest
  | ' ' :: rest => flags { l with blank := true } rest
  | '#' :: rest => flags { l with alternate := true } rest
  | t => (l, t)

def number (t : Text) : Nat × Text :=
  let digits := t.takeWhile isAsciiDigit
  (ofDigits 10 (digits.map hexDigitValue), t.drop digits.length)

/-- The number that an argument gives for a width or a precision. -/
def argumentSize (p : Progress) : Int × Progress :=
  let (a, p) := p.integer true
  (Int.bmod a (Nat.pow 2 32), p)

/-- Takes the layout behind a percent sign. -/
def layout (p : Progress) (t : Text) : Layout × Text × Progress :=
  let (l, t) := flags {} t
  let (l, t, p) : Layout × Text × Progress := match t with
    | '*' :: rest =>
      let (a, p) := argumentSize p
      ({ l with width := a.natAbs, left := l.left || a < 0 }, rest, p)
    | t =>
      let (width, t) := number t
      ({ l with width := width }, t, p)
  match t with
  | '.' :: '*' :: rest =>
    let (a, p) := argumentSize p
    ({ l with precision := if a < 0 then none else some a.toNat }, rest, p)
  | '.' :: rest =>
    let (precision, t) := number rest
    ({ l with precision := some precision }, t, p)
  | t => (l, t, p)

/-- A text filled up to the width. -/
def fill (l : Layout) (t : Text) : Text :=
  if l.left then t ++ List.replicate (l.width - t.length) ' ' else Text.padLeft l.width ' ' t

/-- A number with what stands in front of its digits, filled up to the width. -/
def laidOut (l : Layout) (head digits : Text) (takesZeros : Bool) : Text :=
  if l.zeros && !l.left && takesZeros then
    head ++ Text.padLeft (l.width - head.length) '0' digits
  else fill l (head ++ digits)

def sign (l : Layout) (negative : Bool) : Text :=
  if negative then ['-'] else if l.plus then ['+'] else if l.blank then [' '] else []

def digits (l : Layout) (base n : Nat) : Text :=
  match l.precision with
  | some p => if n = 0 ∧ p = 0 then [] else Text.padLeft p '0' (Nat.toDigits base n)
  | none => Nat.toDigits base n

def signed (l : Layout) (a : Int) : Text :=
  laidOut l (sign l (a < 0)) (digits l 10 a.natAbs) l.precision.isNone

def unsigned (l : Layout) (c : Char) (a : Int) : Text :=
  let n := (a % Int.ofNat (Nat.pow 2 64)).toNat
  match c with
  | 'o' =>
    let ds := digits l 8 n
    laidOut l [] (if l.alternate && ds.head? != some '0' then '0' :: ds else ds) l.precision.isNone
  | 'u' => laidOut l [] (digits l 10 n) l.precision.isNone
  | c =>
    let t := laidOut l (if l.alternate && n != 0 then ['0', 'x'] else []) (digits l 16 n)
      l.precision.isNone
    if c = 'X' then t.map Char.toUpper else t

def floating (l : Layout) (c : Char) (q : Quantity) : Text :=
  let form : Quantity.Form := match c.toLower with
    | 'e' => .scientific
    | 'f' => .fixed
    | 'g' => .general
    | _ => .hexadecimal
  let (negative, t) := q.write form l.precision l.alternate
  let isFinite := match q with
    | .finite .. => true
    | _ => false
  let (head, t) := match form, t with
    | .hexadecimal, '0' :: 'x' :: rest => (sign l negative ++ ['0', 'x'], rest)
    | _, t => (sign l negative, t)
  let t := laidOut l head t isFinite
  if c.isUpper then t.map Char.toUpper else t

/-- Writes what a conversion asks for. -/
def convert (l : Layout) (c : Char) (p : Progress) : Option Progress :=
  let cut (t : Text) : Text := match l.precision with
    | some n => t.take n
    | none => t
  match c with
  | 's' =>
    let (a, p) := p.next
    some (p.add (fill l (cut (a.getD []))))
  | 'b' =>
    let (a, p) := p.next
    let (t, stops) := Escape.resolveAll (a.getD [])
    some { p.add (fill l (cut t)) with stops := stops }
  | 'c' =>
    let (a, p) := p.next
    some (p.add (fill l [(a.getD []).headD '\x00']))
  | _ =>
    if c = 'd' ∨ c = 'i' then
      let (a, p) := p.integer true
      some (p.add (signed l a))
    else if "ouxX".toList.contains c then
      let (a, p) := p.integer false
      some (p.add (unsigned l c a))
    else if "aAeEfFgG".toList.contains c then
      let (q, p) := p.quantity
      some (p.add (floating l c q))
    else none

/-- Goes through a format once. -/
def pass : Nat → Text → Progress → Progress
  | 0, _, p => p
  | _ + 1, [], p => p
  | n + 1, '\\' :: rest, p =>
    let (c, rest) := Escape.read rest
    pass n rest (p.add [c])
  | n + 1, '%' :: '%' :: rest, p => pass n rest (p.add ['%'])
  | n + 1, '%' :: rest, p =>
    let (l, behind, p) := layout p rest
    match behind with
    | [] => { p with failure := some "missing format character".toList }
    | c :: after =>
      match convert l c p with
      | some p => if p.stops then p else pass n after p
      | none =>
        let directive := '%' :: rest.take (rest.length - after.length)
        { p with failure := some (directive ++ ": invalid directive".toList) }
  | n + 1, c :: rest, p =>
    let run := (c :: rest).takeWhile fun d => d != '\\' && d != '%'
    pass n ((c :: rest).drop run.length) (p.add run)

/-- Goes through a format until no argument is left. -/
def passes (format : Text) : Nat → Progress → Progress
  | 0, p => p
  | n + 1, p =>
    let p := pass (format.length + 1) format p
    if p.stops ∨ p.failure.isSome ∨ !p.used ∨ p.arguments.isEmpty then p else passes format n p

/-- What `printf` writes for a format and arguments, and what goes wrong. -/
def run (format : Text) (arguments : List Text) : Progress :=
  passes format (arguments.length + 1) { arguments := arguments }

end Printf

end AsmExplorer.Shell
