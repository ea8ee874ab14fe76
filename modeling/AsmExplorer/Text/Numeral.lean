import AsmExplorer.Text.CharClass
import AsmExplorer.Text.Basic

/-!
# Numerals

Reading and writing natural numbers: decimal and hexadecimal numerals with an upper bound, padding to
a width, and a duration in seconds with one decimal. A duration is first rounded to the nearest
number with a 53-bit significand, and its exact value is then rounded to tenths; both roundings send
a tie to the even neighbour.
-/

namespace AsmExplorer

/-- The value of a hexadecimal digit, and zero for any other character. -/
def hexDigitValue (c : Char) : Nat :=
  if isAsciiDigit c then c.toNat - '0'.toNat
  else if 'a' ≤ c ∧ c ≤ 'f' then c.toNat - 'a'.toNat + 10
  else if 'A' ≤ c ∧ c ≤ 'F' then c.toNat - 'A'.toNat + 10
  else 0

/-- The number whose digits in the base are given, the most significant first. -/
def ofDigits (base : Nat) (digits : List Nat) : Nat :=
  digits.foldl (fun n d => n * base + d) 0

namespace Text

/-- The value of a non-empty run of ASCII digits, if it is below the bound. -/
def decimal? (bound : Nat) (t : Text) : Option Nat :=
  if t ≠ [] ∧ t.all isAsciiDigit then
    let n := ofDigits 10 (t.map hexDigitValue)
    if n < bound then some n else none
  else none

/-- The value of a run of hexadecimal digits, if it is below the bound. -/
def hexadecimal? (bound : Nat) (t : Text) : Option Nat :=
  if t ≠ [] ∧ t.all isHexDigit then
    let n := ofDigits 16 (t.map hexDigitValue)
    if n < bound then some n else none
  else none

/-- The decimal numeral of a number. -/
def ofNat (n : Nat) : Text :=
  Nat.toDigits 10 n

/-- The hexadecimal numeral of a number, in lower case. -/
def hexOfNat (n : Nat) : Text :=
  Nat.toDigits 16 n

/-- The text filled up to the width with copies of the character on its left. -/
def padLeft (width : Nat) (c : Char) (t : Text) : Text :=
  List.replicate (width - t.length) c ++ t

end Text

/-- The quotient rounded to the nearest whole number, a tie to the even one. -/
def roundDiv (num den : Nat) : Nat :=
  let q := num / den
  let r := num % den
  if 2 * r > den ∨ (2 * r = den ∧ q % 2 = 1) then q + 1 else q

/-- A fraction with a natural numerator and denominator. -/
structure Fraction where
  num : Nat
  den : Nat
  deriving DecidableEq, Repr

/-- The exponent that scales a positive fraction to a significand of 53 bits: `2 ^ 52 ≤ x / 2 ^ e`. -/
def Fraction.scale (x : Fraction) : Int :=
  let k : Int := (x.num.log2 : Int) - x.den.log2
  let reaches : Bool :=
    if 0 ≤ k then decide (x.den * Nat.pow 2 k.toNat ≤ x.num) else decide (x.den ≤ x.num * Nat.pow 2 (-k).toNat)
  (if reaches then k else k - 1) - 52

/-- The nearest number with a 53-bit significand, a tie to the even significand. -/
def Fraction.toBinary53 (x : Fraction) : Fraction :=
  if x.num = 0 then ⟨0, 1⟩
  else
    let e := x.scale
    if 0 ≤ e then ⟨roundDiv x.num (x.den * Nat.pow 2 e.toNat) * Nat.pow 2 e.toNat, 1⟩
    else ⟨roundDiv (x.num * Nat.pow 2 (-e).toNat) x.den, Nat.pow 2 (-e).toNat⟩

def Fraction.add (x y : Fraction) : Fraction :=
  ⟨x.num * y.den + y.num * x.den, x.den * y.den⟩

/-- A number of milliseconds as seconds: whole seconds and the rest are rounded apart, then added. -/
def secondsOfMillis (millis : Nat) : Fraction :=
  ((Fraction.toBinary53 ⟨millis / 1000, 1⟩).add
    (Fraction.toBinary53 ⟨millis % 1000, 1000⟩)).toBinary53

/-- A fraction with one decimal, a tie to the even tenth. -/
def Fraction.oneDecimal (x : Fraction) : Text :=
  let tenths := roundDiv (x.num * 10) x.den
  Text.ofNat (tenths / 10) ++ ['.'] ++ Text.ofNat (tenths % 10)

end AsmExplorer
