import AsmExplorer.Text.Numeral

/-!
# Whole numbers at the front of a text

A whole number is spelled by digits behind a sign and blanks. Where the base is not fixed, a numeral
that begins with `0x` is hexadecimal and another one that begins with `0` is octal.
-/

namespace AsmExplorer

/-- What has been read of a text: a whole number and the rest. -/
structure IntegerReading where
  value : Int
  rest : Text
  /-- Whether there was a numeral. -/
  isNumeral : Bool

namespace IntegerReading

/-- Whether a character may stand in front of a number or behind it. -/
def isGap (c : Char) : Bool :=
  c == ' ' || ('\t' ≤ c && c ≤ '\r')

/-- The number at the front of a text, and the rest, if there is a digit. -/
def unsigned? (base : Nat) (inBase : Char → Bool) (t : Text) : Option (Nat × Text) :=
  let digits := t.takeWhile inBase
  if digits.isEmpty then none
  else some (ofDigits base (digits.map hexDigitValue), t.drop digits.length)

/-- The number at the front of a text in the base that it shows. -/
def shown? (t : Text) : Option (Nat × Text) :=
  let isOctal (c : Char) : Bool := '0' ≤ c && c ≤ '7'
  match t with
  | '0' :: x :: rest =>
    if x = 'x' ∨ x = 'X' then
      match unsigned? 16 isHexDigit rest with
      | some r => some r
      | none => some (0, x :: rest)
    else unsigned? 8 isOctal t
  | t => unsigned? 10 isAsciiDigit t

def read (showsBase : Bool) (t : Text) : IntegerReading :=
  let number (negative : Bool) (u : Text) : IntegerReading :=
    match if showsBase then shown? u else unsigned? 10 isAsciiDigit u with
    | some (n, rest) => ⟨if negative then -n else n, rest, true⟩
    | none => ⟨0, t, false⟩
  match t.dropWhile isGap with
  | '-' :: u => number true u
  | '+' :: u => number false u
  | u => number false u

end IntegerReading

/-- The least whole number of 64 bits. -/
def leastInteger : Int := -(Nat.pow 2 63 : Nat)

/-- The greatest whole number of 64 bits. -/
def greatestInteger : Int := (Nat.pow 2 63 : Nat) - 1

/-- The whole number that a text spells, which has 64 bits and may have blanks around it. A text of
blanks counts as zero if that is allowed. -/
def Text.integer? (showsBase mayBeBlank : Bool) (t : Text) : Option Int :=
  let r := IntegerReading.read showsBase t
  if r.value < leastInteger ∨ greatestInteger < r.value then none
  else if !r.isNumeral && !mayBeBlank then none
  else if r.rest.all IntegerReading.isGap then some r.value
  else none

def Text.ofInt (a : Int) : Text :=
  if a < 0 then '-' :: Text.ofNat a.natAbs else Text.ofNat a.natAbs

end AsmExplorer
