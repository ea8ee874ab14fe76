import AsmExplorer.Shell.Script
import AsmExplorer.Text.Integer

/-!
# Arithmetic in scripts

Whole numbers of 64 bits, variables, and the usual operators by their ranks. A variable can be assigned
to; the assignments come with the value, the last one first. An operand that does not count is read but
has no effect.
-/

namespace AsmExplorer.Shell.Arithmetic

/-- An operator between two operands. -/
inductive Operator where
  | times
  | quotient
  | remainder
  | plus
  | minus
  | shiftLeft
  | shiftRight
  | less
  | lessEqual
  | greater
  | greaterEqual
  | equal
  | unequal
  | bitAnd
  | bitXor
  | bitOr
  deriving DecidableEq, Repr

/-- The rank of an operator; a lesser one binds more tightly. -/
def Operator.rank : Operator → Nat
  | .times | .quotient | .remainder => 0
  | .plus | .minus => 1
  | .shiftLeft | .shiftRight => 2
  | .less | .lessEqual | .greater | .greaterEqual => 3
  | .equal | .unequal => 4
  | .bitAnd => 5
  | .bitXor => 6
  | .bitOr => 7

def rankCount : Nat := 8

/-- A token of an expression. -/
inductive Token where
  | number (n : Int)
  | name (t : Text)
  | operator (o : Operator)
  /-- Sets a variable, perhaps to what an operator makes of its value. -/
  | assign (o : Option Operator)
  | openParen
  | closeParen
  | question
  | colon
  | both
  | either
  | bang
  | tilde
  | unknown
  deriving DecidableEq, Repr

/-- The number of values that a whole number can have. -/
def range : Nat := Nat.pow 2 64

/-- The whole number in range that differs by a multiple of the number of values. -/
def wrap (a : Int) : Int := Int.bmod a range

def bits (a : Int) : Nat := (a % Int.ofNat range).toNat

def ofBits (n : Nat) : Int := wrap (Int.ofNat n)

def ofBool (b : Bool) : Int := if b then 1 else 0

/-- The value of an operator; division by zero has none. -/
def Operator.compute? (o : Operator) (a b : Int) : Option Int :=
  match o with
  | .times => some (wrap (a * b))
  | .quotient => if b = 0 then none else some (wrap (Int.tdiv a b))
  | .remainder => if b = 0 then none else some (Int.tmod a b)
  | .plus => some (wrap (a + b))
  | .minus => some (wrap (a - b))
  | .shiftLeft => some (wrap (a * Int.ofNat (Nat.pow 2 (bits b % 64))))
  | .shiftRight => some (a / Int.ofNat (Nat.pow 2 (bits b % 64)))
  | .less => some (ofBool (a < b))
  | .lessEqual => some (ofBool (a ≤ b))
  | .greater => some (ofBool (b < a))
  | .greaterEqual => some (ofBool (b ≤ a))
  | .equal => some (ofBool (a == b))
  | .unequal => some (ofBool (a != b))
  | .bitAnd => some (ofBits (bits a &&& bits b))
  | .bitXor => some (ofBits (bits a ^^^ bits b))
  | .bitOr => some (ofBits (bits a ||| bits b))

/-- The token that a text of signs begins with, and the rest. -/
def signs (t : Text) : Token × Text :=
  match t with
  | '<' :: '<' :: '=' :: rest => (.assign (some .shiftLeft), rest)
  | '>' :: '>' :: '=' :: rest => (.assign (some .shiftRight), rest)
  | '<' :: '<' :: rest => (.operator .shiftLeft, rest)
  | '>' :: '>' :: rest => (.operator .shiftRight, rest)
  | '<' :: '=' :: rest => (.operator .lessEqual, rest)
  | '>' :: '=' :: rest => (.operator .greaterEqual, rest)
  | '<' :: rest => (.operator .less, rest)
  | '>' :: rest => (.operator .greater, rest)
  | '=' :: '=' :: rest => (.operator .equal, rest)
  | '=' :: rest => (.assign none, rest)
  | '!' :: '=' :: rest => (.operator .unequal, rest)
  | '!' :: rest => (.bang, rest)
  | '&' :: '&' :: rest => (.both, rest)
  | '&' :: '=' :: rest => (.assign (some .bitAnd), rest)
  | '&' :: rest => (.operator .bitAnd, rest)
  | '|' :: '|' :: rest => (.either, rest)
  | '|' :: '=' :: rest => (.assign (some .bitOr), rest)
  | '|' :: rest => (.operator .bitOr, rest)
  | '^' :: '=' :: rest => (.assign (some .bitXor), rest)
  | '^' :: rest => (.operator .bitXor, rest)
  | '*' :: '=' :: rest => (.assign (some .times), rest)
  | '*' :: rest => (.operator .times, rest)
  | '/' :: '=' :: rest => (.assign (some .quotient), rest)
  | '/' :: rest => (.operator .quotient, rest)
  | '%' :: '=' :: rest => (.assign (some .remainder), rest)
  | '%' :: rest => (.operator .remainder, rest)
  | '+' :: '=' :: rest => (.assign (some .plus), rest)
  | '+' :: rest => (.operator .plus, rest)
  | '-' :: '=' :: rest => (.assign (some .minus), rest)
  | '-' :: rest => (.operator .minus, rest)
  | '(' :: rest => (.openParen, rest)
  | ')' :: rest => (.closeParen, rest)
  | '?' :: rest => (.question, rest)
  | ':' :: rest => (.colon, rest)
  | '~' :: rest => (.tilde, rest)
  | _ :: rest => (.unknown, rest)
  | [] => (.unknown, [])

/-- The tokens of a text, up to the first one that is not known. -/
def tokens : Nat → Text → List Token
  | 0, _ => []
  | _ + 1, [] => []
  | n + 1, c :: rest =>
    if c = ' ' ∨ c = '\t' ∨ c = '\n' then tokens n rest
    else if isAsciiDigit c then
      match IntegerReading.shown? (c :: rest) with
      | some (m, rest) => .number (min (m : Int) greatestInteger) :: tokens n rest
      | none => [.unknown]
    else if Name.canBegin c then
      let name := (c :: rest).takeWhile Name.canContain
      .name name :: tokens n ((c :: rest).drop name.length)
    else
      match signs (c :: rest) with
      | (.unknown, _) => [.unknown]
      | (t, rest) => t :: tokens n rest

/-- Why an expression has no value. -/
inductive Fault where
  /-- The expression is not well-formed, or divides by zero. -/
  | malformed (reason : String)
  /-- The value of a variable is no number. -/
  | notNumber (value : Text)

/-- How far an expression has been read, and what has been assigned. -/
structure Calculation where
  tokens : List Token
  assigned : List (Text × Int) := []

/-- A part of a calculation. -/
abbrev Calculator := StateT Calculation (Except Fault)

namespace Calculator

def fail {α : Type} (reason : String) : Calculator α :=
  fun _ => .error (.malformed reason)

/-- The token that comes next. -/
def peek : Calculator (Option Token) := do
  return (← get).tokens.head?

/-- Goes behind the token that comes next. -/
def skip : Calculator Unit :=
  modify fun s => { s with tokens := s.tokens.drop 1 }

def valueOf (lookup : Text → Text) (name : Text) : Calculator Int := do
  match (← get).assigned.lookup name with
  | some a => return a
  | none =>
    match Text.integer? true true (lookup name) with
    | some a => return a
    | none => fun _ => .error (.notNumber (lookup name))

def compute (o : Operator) (a b : Int) : Calculator Int :=
  match o.compute? a b with
  | some c => pure c
  | none => fail "division by zero"

mutual

def operand (lookup : Text → Text) (counts : Bool) : Nat → Calculator Int
  | 0 => fail "expecting primary"
  | n + 1 => do
    match ← peek with
    | some .openParen =>
      skip
      let a ← expression lookup counts n
      match ← peek with
      | some .closeParen =>
        skip
        return a
      | _ => fail "expecting ')'"
    | some (.number a) =>
      skip
      return a
    | some (.name t) =>
      skip
      if counts then valueOf lookup t else return 0
    | some (.operator .plus) =>
      skip
      operand lookup counts n
    | some (.operator .minus) =>
      skip
      return wrap (-(← operand lookup counts n))
    | some .bang =>
      skip
      return ofBool ((← operand lookup counts n) == 0)
    | some .tilde =>
      skip
      return -(← operand lookup counts n) - 1
    | _ => fail "expecting primary"

/-- The value of operands joined by operators of lesser ranks than the given one, behind the first
operand. -/
def joined (lookup : Text → Text) (counts : Bool) (rank : Nat) (a : Int) : Nat → Calculator Int
  | 0 => fail "expecting primary"
  | n + 1 => do
    match ← peek with
    | some (.operator o) =>
      if o.rank < rank then
        skip
        let b ← operand lookup counts n
        let b ← joined lookup counts o.rank b n
        let c ← if counts then compute o a b else pure b
        joined lookup counts rank c n
      else return a
    | _ => return a

def conjunction (lookup : Text → Text) (counts : Bool) : Nat → Calculator Int
  | 0 => fail "expecting primary"
  | n + 1 => do
    let first ← operand lookup counts n
    let a ← joined lookup counts rankCount first n
    match ← peek with
    | some .both =>
      skip
      let b ← conjunction lookup (counts && a != 0) n
      return ofBool (a != 0 && b != 0)
    | _ => return a

def disjunction (lookup : Text → Text) (counts : Bool) : Nat → Calculator Int
  | 0 => fail "expecting primary"
  | n + 1 => do
    let a ← conjunction lookup counts n
    match ← peek with
    | some .either =>
      skip
      let b ← disjunction lookup (counts && a == 0) n
      return ofBool (a != 0 || b != 0)
    | _ => return a

/-- The value of a choice between two expressions, or of what stands in for one. -/
def choice (lookup : Text → Text) (counts : Bool) : Nat → Calculator Int
  | 0 => fail "expecting primary"
  | n + 1 => do
    let test ← disjunction lookup counts n
    match ← peek with
    | some .question =>
      skip
      let a ← expression lookup (counts && test != 0) n
      match ← peek with
      | some .colon =>
        skip
        let b ← choice lookup (counts && test == 0) n
        return if test != 0 then a else b
      | _ => fail "expecting ':'"
    | _ => return test

def expression (lookup : Text → Text) (counts : Bool) : Nat → Calculator Int
  | 0 => fail "expecting primary"
  | n + 1 => do
    match (← get).tokens with
    | .name t :: .assign o :: rest =>
      modify fun s => { s with tokens := rest }
      let b ← expression lookup counts n
      if !counts then return b
      let value ← match o with
        | some o => compute o (← valueOf lookup t) b
        | none => pure b
      modify fun s => { s with assigned := (t, value) :: s.assigned }
      return value
    | _ => choice lookup counts n

end

end Calculator

/-- The value of an expression that is the whole text, and the assignments in it. -/
def value (lookup : Text → Text) (t : Text) : Except Fault (Int × List (Text × Int)) := do
  let ts := tokens (t.length + 1) t
  let (a, s) ← Calculator.expression lookup true (12 * ts.length + 24) { tokens := ts }
  if s.tokens.isEmpty then return (a, s.assigned) else throw (.malformed "expecting EOF")

/-- What is said about an expression that has no value. -/
def Fault.message (expression : Text) : Fault → Text
  | .malformed reason =>
    "arithmetic expression: ".toList ++ reason.toList ++ ": \"".toList ++ expression ++ ['"']
  | .notNumber value => "Illegal number: ".toList ++ value

end AsmExplorer.Shell.Arithmetic
