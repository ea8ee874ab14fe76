import AsmExplorer.Text.Numeral

/-!
# Quantities

Numerals with a fraction and an exponent. A quantity that is read becomes the nearest number with a
53-bit significand and an exponent within bounds, a tie going to the even significand; it is written
from its exact value, and there too a tie goes to the even digit.
-/

namespace AsmExplorer

/-- A number as programs compute with it. -/
inductive Quantity where
  | finite (negative : Bool) (value : Fraction)
  | infinite (negative : Bool)
  | undefined (negative : Bool)
  deriving DecidableEq, Repr

namespace Fraction

/-- The greatest exponent of two that is taken out of a significand. -/
def leastExponent : Int := -1074

/-- The fraction over a power of two. -/
def scaled (x : Fraction) (e : Int) : Fraction :=
  if 0 ≤ e then ⟨x.num, x.den * Nat.pow 2 e.toNat⟩ else ⟨x.num * Nat.pow 2 (-e).toNat, x.den⟩

/-- The nearest number within bounds, unless it is too great. -/
def toBounded? (x : Fraction) : Option Fraction :=
  if x.num = 0 then some ⟨0, 1⟩
  else
    let e := max x.scale leastExponent
    let y := x.scaled e
    let m := roundDiv y.num y.den
    let value : Fraction :=
      if 0 ≤ e then ⟨m * Nat.pow 2 e.toNat, 1⟩ else ⟨m, Nat.pow 2 (-e).toNat⟩
    if Nat.pow 2 1024 * value.den ≤ value.num then none else some value

def same (x y : Fraction) : Bool :=
  x.num * y.den == y.num * x.den

/-- The exponent of ten of the first digit of a positive fraction. -/
def decimalExponent (x : Fraction) : Int :=
  let size (n : Nat) : Int := (Nat.toDigits 10 n).length
  let k := size x.num - size x.den
  let reaches : Bool :=
    if 0 ≤ k then decide (x.den * Nat.pow 10 k.toNat ≤ x.num)
    else decide (x.den ≤ x.num * Nat.pow 10 (-k).toNat)
  if reaches then k else k - 1

/-- The fraction over a power of ten, rounded. -/
def roundTo (x : Fraction) (k : Int) : Nat :=
  if 0 ≤ k then roundDiv x.num (x.den * Nat.pow 10 k.toNat)
  else roundDiv (x.num * Nat.pow 10 (-k).toNat) x.den

end Fraction

namespace Quantity

/-- A numeral that has been read: its number, whether that is out of range, and the rest. -/
structure Reading where
  value : Quantity
  isOutOfRange : Bool
  rest : Text

/-- The digits of a number with a point: the digits, how many of them are behind the point, and the
rest. -/
def digits (isDigit : Char → Bool) (t : Text) : Text × Nat × Text :=
  let whole := t.takeWhile isDigit
  match t.drop whole.length with
  | '.' :: rest =>
    let part := rest.takeWhile isDigit
    (whole ++ part, part.length, rest.drop part.length)
  | rest => (whole, 0, rest)

/-- An exponent behind one of two letters, and the rest. -/
def exponent (lower upper : Char) (t : Text) : Int × Text :=
  let read (negative : Bool) (u : Text) : Int × Text :=
    let ds := u.takeWhile isAsciiDigit
    if ds = [] then (0, t)
    else
      let n : Int := min (ofDigits 10 (ds.map hexDigitValue)) 1000000000
      (if negative then -n else n, u.drop ds.length)
  match t with
  | c :: '-' :: u => if c = lower ∨ c = upper then read true u else (0, t)
  | c :: '+' :: u => if c = lower ∨ c = upper then read false u else (0, t)
  | c :: u => if c = lower ∨ c = upper then read false u else (0, t)
  | [] => (0, t)

/-- The number that digits in a base stand for, times a power of another base. -/
def ofParts (negative : Bool) (base : Nat) (ds : Text) (power : Nat) (e : Int) (rest : Text) :
    Reading :=
  let m := ofDigits base (ds.map hexDigitValue)
  let size : Int := ds.length
  if m = 0 then ⟨.finite negative ⟨0, 1⟩, false, rest⟩
  else if 1100 < e then ⟨.infinite negative, true, rest⟩
  else if e + 4 * size < -1200 then ⟨.finite negative ⟨0, 1⟩, true, rest⟩
  else
    let x : Fraction :=
      if 0 ≤ e then ⟨m * Nat.pow power e.toNat, 1⟩ else ⟨m, Nat.pow power (-e).toNat⟩
    match x.toBounded? with
    | none => ⟨.infinite negative, true, rest⟩
    | some y =>
      let isSmall := decide (y.num * Nat.pow 2 1022 < y.den)
      ⟨.finite negative y, isSmall && !(x.same y), rest⟩

/-- Whether a text begins with a word, whatever the case of its letters; the rest. -/
def word? (w : String) (t : Text) : Option Text :=
  let n := w.length
  if (t.take n).map Char.toLower = w.toList then some (t.drop n) else none

/-- Reads a number behind a sign. -/
def readUnsigned (negative : Bool) (t : Text) : Option Reading :=
  let decimal (t : Text) : Option Reading :=
    let (ds, places, rest) := digits isAsciiDigit t
    if ds = [] then none
    else
      let (e, rest) := exponent 'e' 'E' rest
      some (ofParts negative 10 ds 10 (e - places) rest)
  match t with
  | '0' :: x :: u =>
    if x = 'x' ∨ x = 'X' then
      let (ds, places, rest) := digits isHexDigit u
      if ds = [] then decimal t
      else
        let (e, rest) := exponent 'p' 'P' rest
        some (ofParts negative 16 ds 2 (e - 4 * places) rest)
    else decimal t
  | t =>
    match word? "infinity" t, word? "inf" t, word? "nan" t with
    | some rest, _, _ => some ⟨.infinite negative, false, rest⟩
    | none, some rest, _ => some ⟨.infinite negative, false, rest⟩
    | none, none, some rest => some ⟨.undefined negative, false, rest⟩
    | none, none, none => decimal t

/-- Whether numerals may have a character in front of them. -/
def isGap (c : Char) : Bool :=
  c == ' ' || ('\t' ≤ c && c ≤ '\r')

/-- Reads a number at the front of a text. -/
def read? (t : Text) : Option Reading :=
  match t.dropWhile isGap with
  | '-' :: u => readUnsigned true u
  | '+' :: u => readUnsigned false u
  | u => readUnsigned false u

/-- How a quantity is written. -/
inductive Form where
  | fixed
  | scientific
  | general
  | hexadecimal
  deriving DecidableEq, Repr

/-- Digits with a point in front of the last ones. -/
def pointed (places : Nat) (keepsPoint : Bool) (n : Nat) : Text :=
  let ds := Text.padLeft (places + 1) '0' (Text.ofNat n)
  let k := ds.length - places
  ds.take k ++ (if 0 < places ∨ keepsPoint then ['.'] else []) ++ ds.drop k

/-- A fraction with a number of places. -/
def fixedText (x : Fraction) (places : Nat) (keepsPoint : Bool) : Text :=
  pointed places keepsPoint (x.roundTo (-places))

/-- An exponent with its letter, its sign and at least so many digits. -/
def exponentText (letter : Char) (width : Nat) (e : Int) : Text :=
  letter :: (if e < 0 then '-' else '+') :: Text.padLeft width '0' (Text.ofNat e.natAbs)

/-- The digits of a fraction with a number of places behind the first one, and the exponent of the
first. -/
def scientificDigits (x : Fraction) (places : Nat) : Nat × Int :=
  if x.num = 0 then (0, 0)
  else
    let k := x.decimalExponent
    let n := x.roundTo (k - places)
    if Nat.pow 10 (places + 1) ≤ n then (n / 10, k + 1) else (n, k)

/-- A fraction with an exponent. -/
def scientificText (x : Fraction) (places : Nat) (keepsPoint : Bool) : Text :=
  let (n, k) := scientificDigits x places
  pointed places keepsPoint n ++ exponentText 'e' 2 k

/-- A numeral without zeros at the end of its fraction. -/
def withoutZeros (t : Text) : Text :=
  if t.contains '.' then
    let t := Text.trimEnd (· == '0') t
    if t.getLast? = some '.' then t.dropLast else t
  else t

/-- A fraction with a number of digits, in the shorter form. -/
def generalText (x : Fraction) (digits : Nat) (keepsZeros : Bool) : Text :=
  let count := max digits 1
  let (n, k) := scientificDigits x (count - 1)
  let trim (t : Text) : Text := if keepsZeros then t else withoutZeros t
  if -4 ≤ k ∧ k < count then
    trim (fixedText x (count - 1 - k).toNat keepsZeros)
  else trim (pointed (count - 1) keepsZeros n) ++ exponentText 'e' 2 k

/-- A fraction in hexadecimal digits with an exponent of two. -/
def hexadecimalText (x : Fraction) (places : Option Nat) (keepsPoint : Bool) : Text :=
  let e : Int := if x.num = 0 then 0 else max (x.scale + 52) (-1022)
  let y := x.scaled (e - 52)
  let m := y.num / y.den
  let (whole, part) : Nat × Text := match places with
    | some p =>
      if p < 13 then
        let n := roundDiv m (Nat.pow 16 (13 - p))
        (n / Nat.pow 16 p,
          if p = 0 then [] else Text.padLeft p '0' (Text.hexOfNat (n % Nat.pow 16 p)))
      else
        (m / Nat.pow 16 13, Text.padLeft 13 '0' (Text.hexOfNat (m % Nat.pow 16 13)) ++
          List.replicate (p - 13) '0')
    | none =>
      (m / Nat.pow 16 13,
        Text.trimEnd (· == '0') (Text.padLeft 13 '0' (Text.hexOfNat (m % Nat.pow 16 13))))
  "0x".toList ++ Text.ofNat whole ++ (if part ≠ [] ∨ keepsPoint then ['.'] else []) ++ part ++
    exponentText 'p' 1 e

/-- The sign and the digits of a quantity. -/
def write (q : Quantity) (form : Form) (places : Option Nat) (keepsPoint : Bool) : Bool × Text :=
  match q with
  | .infinite negative => (negative, "inf".toList)
  | .undefined negative => (negative, "nan".toList)
  | .finite negative x =>
    (negative, match form with
      | .fixed => fixedText x (places.getD 6) keepsPoint
      | .scientific => scientificText x (places.getD 6) keepsPoint
      | .general => generalText x (places.getD 6) keepsPoint
      | .hexadecimal => hexadecimalText x places keepsPoint)

end Quantity

end AsmExplorer
