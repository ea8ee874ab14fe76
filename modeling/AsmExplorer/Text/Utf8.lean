import AsmExplorer.Text.Basic

/-!
# UTF-8

Texts as bytes and back. Reading goes octet by octet through a small machine. Where the bytes are
malformed the strict reader refuses them, and the lenient reader puts one replacement character for
each maximal piece that could still have begun a character.
-/

namespace AsmExplorer

/-- A sequence of octets. -/
abbrev Bytes := List UInt8

namespace Utf8

def encode (t : Text) : Bytes :=
  t.flatMap String.utf8EncodeChar

/-- The character that stands for a malformed piece. -/
def replacement : Char := Char.ofNat 0xFFFD

/-- A reader between two octets: the characters read so far in reverse, whether a piece was
malformed, and the character begun: how many octets it still lacks, the range of the next one, and
the value so far. -/
structure Reader where
  read : Text := []
  malformed : Bool := false
  missing : Nat := 0
  low : Nat := 0x80
  high : Nat := 0xBF
  value : Nat := 0
  deriving DecidableEq, Repr

namespace Reader

/-- A character is complete. -/
def emit (r : Reader) (value : Nat) : Reader :=
  ⟨Char.ofNat value :: r.read, r.malformed, 0, 0x80, 0xBF, 0⟩

/-- A malformed piece is over. -/
def replace (r : Reader) : Reader :=
  ⟨replacement :: r.read, true, 0, 0x80, 0xBF, 0⟩

/-- A character begins that lacks `missing` more octets. -/
def begin (r : Reader) (missing low high value : Nat) : Reader :=
  ⟨r.read, r.malformed, missing, low, high, value⟩

def first (r : Reader) (b : Nat) : Reader :=
  if b < 0x80 then r.emit b
  else if b < 0xC2 then r.replace
  else if b < 0xE0 then r.begin 1 0x80 0xBF (b - 0xC0)
  else if b < 0xF0 then
    r.begin 2 (if b = 0xE0 then 0xA0 else 0x80) (if b = 0xED then 0x9F else 0xBF) (b - 0xE0)
  else if b < 0xF5 then
    r.begin 3 (if b = 0xF0 then 0x90 else 0x80) (if b = 0xF4 then 0x8F else 0xBF) (b - 0xF0)
  else r.replace

/-- Takes one octet. An octet that cannot go on with the character begun ends it as malformed and is
then read as a first octet. -/
def step (r : Reader) (octet : UInt8) : Reader :=
  let b := octet.toNat
  match r.missing with
  | 0 => r.first b
  | n + 1 =>
    if r.low ≤ b ∧ b ≤ r.high then
      let value := r.value * 64 + (b - 0x80)
      if n = 0 then r.emit value else r.begin n 0x80 0xBF value
    else r.replace.first b

/-- The reader at the end of the bytes: a character still open is malformed. -/
def finish (r : Reader) : Reader :=
  if r.missing = 0 then r else r.replace

end Reader

def readAll (bytes : Bytes) : Reader :=
  (bytes.foldl Reader.step {}).finish

/-- The text of the bytes, with a replacement character for each malformed piece. -/
def decodeLossy (bytes : Bytes) : Text :=
  (readAll bytes).read.reverse

/-- The text of the bytes, if they are well formed. -/
def decode? (bytes : Bytes) : Option Text :=
  let r := readAll bytes
  if r.malformed then none else some r.read.reverse

end Utf8

end AsmExplorer
