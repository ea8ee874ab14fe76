import AsmExplorer.Files.Access
import AsmExplorer.Text.Integer
import AsmExplorer.Text.Octets

/-!
# Conditions in scripts

What the command `test` decides: about files, about texts and about whole numbers, with negation,
conjunction, disjunction and parentheses. A word is taken for an operator only where it can be one.
-/

namespace AsmExplorer.Shell.Condition

/-- What a condition sees: the files and the current directory. -/
structure View where
  files : FileSystem
  directory : Location

/-- How many operands an operator has, or what else it does. -/
inductive Kind where
  | unary
  | binary
  | negation
  | conjunction
  | disjunction
  | openParen
  | closeParen
  deriving DecidableEq, Repr

def unaryOperators : List Text :=
  ["-r".toList, "-w".toList, "-x".toList, "-e".toList, "-f".toList, "-d".toList, "-c".toList,
   "-b".toList, "-p".toList, "-u".toList, "-g".toList, "-k".toList, "-s".toList, "-t".toList,
   "-z".toList, "-n".toList, "-h".toList, "-O".toList, "-G".toList, "-L".toList, "-S".toList]

def binaryOperators : List Text :=
  [['='], "!=".toList, ['<'], ['>'], "-eq".toList, "-ne".toList, "-ge".toList, "-gt".toList,
   "-le".toList, "-lt".toList, "-nt".toList, "-ot".toList, "-ef".toList]

def kind? (word : Text) : Option Kind :=
  match word with
  | ['!'] => some .negation
  | ['-', 'a'] => some .conjunction
  | ['-', 'o'] => some .disjunction
  | ['('] => some .openParen
  | [')'] => some .closeParen
  | word =>
    if unaryOperators.contains word then some .unary
    else if binaryOperators.contains word then some .binary
    else none

/-- What the word in front of others is. -/
inductive Role where
  | missing
  | operand
  | operator (k : Kind)
  deriving DecidableEq, Repr

/-- Whether the words behind a unary operator make it an operand. -/
def makeOperand : List Text → Bool
  | [] => true
  | [_] => false
  | word :: _ => kind? word == some .binary

/-- What the first of some words is. -/
def role : List Text → Role
  | [] => .missing
  | word :: rest =>
    match kind? word with
    | none => .operand
    | some .unary => if makeOperand rest then .operand else .operator .unary
    | some .openParen => if rest.isEmpty then .operand else .operator .openParen
    | some k => .operator k

def View.node? (v : View) (t : Text) : Option Node :=
  v.files.nodeAt? v.directory ⟨Octets.toText t⟩

def View.location? (v : View) (t : Text) : Option Location :=
  (v.files.locate v.directory ⟨Octets.toText t⟩).toOption.filter fun l => (v.files.node? l).isSome

/-- Whether a path itself is a link. -/
def View.isLink (v : View) (t : Text) : Bool :=
  match v.files.walkPath false v.directory ⟨Octets.toText t⟩ with
  | .found l =>
    match v.files.node? l with
    | some (.link _) => true
    | _ => false
  | _ => false

/-- The number of nanoseconds within which two times of a file count as one. -/
def tick : Nat := 4000000

/-- When the file at a path was last changed, in ticks. -/
def View.time? (v : View) (t : Text) : Option Nat :=
  (v.files.stamp? v.directory ⟨Octets.toText t⟩).map fun stamp => stamp.modified / tick

/-- Whether the file at a path was changed behind the one at another path. -/
def View.isNewer (v : View) (a b : Text) : Bool :=
  match v.time? a, v.time? b with
  | some m, some n => n < m
  | _, _ => false

def isRegular : Node → Bool
  | .file .. => true
  | .program _ => true
  | _ => false

/-- Whether a node is a file with bytes in it. -/
def hasBytes : Node → Bool
  | .directory => true
  | .program _ => true
  | n => FileSystem.sizeOf n != 0

def isDevice : Node → Bool
  | .device _ => true
  | _ => false

def number (t : Text) : Except Text Int :=
  match Text.integer? false false t with
  | some n => .ok n
  | none => .error ("Illegal number: ".toList ++ t)

def unary (v : View) (operator t : Text) : Except Text Bool :=
  match String.ofList operator with
  | "-n" => .ok !t.isEmpty
  | "-z" => .ok t.isEmpty
  | "-f" => .ok ((v.node? t).any isRegular)
  | "-d" => .ok (v.node? t == some .directory)
  | "-x" => .ok ((v.node? t).any fun n => n == .directory || FileSystem.isExecutable n)
  | "-s" => .ok ((v.node? t).any hasBytes)
  | "-h" => .ok (v.isLink t)
  | "-L" => .ok (v.isLink t)
  | "-t" => (number t).map fun _ => false
  | "-c" => .ok ((v.node? t).any isDevice)
  | "-b" => .ok false
  | "-p" => .ok false
  | "-u" => .ok false
  | "-g" => .ok false
  | "-k" => .ok false
  | "-S" => .ok false
  | _ => .ok (v.node? t).isSome

def binary (v : View) (operator a b : Text) : Except Text Bool :=
  let compare (p : Int → Int → Bool) : Except Text Bool := do
    let m ← number a
    let n ← number b
    return p m n
  match String.ofList operator with
  | "=" => .ok (a == b)
  | "!=" => .ok (a != b)
  | "<" => .ok (Text.compare a b == .lt)
  | ">" => .ok (Text.compare a b == .gt)
  | "-eq" => compare fun m n => m == n
  | "-ne" => compare fun m n => m != n
  | "-lt" => compare fun m n => m < n
  | "-le" => compare fun m n => m ≤ n
  | "-gt" => compare fun m n => n < m
  | "-ge" => compare fun m n => n ≤ m
  | "-nt" => .ok (v.isNewer a b)
  | "-ot" => .ok (v.isNewer b a)
  | _ => .ok ((v.location? a).isSome && v.location? a == v.location? b)

/-- What is said about a word. -/
def complaint (word : Text) (message : String) : Text :=
  if word.isEmpty then message.toList else word ++ ": ".toList ++ message.toList

mutual

/-- Decides a disjunction, given what the first of the words is. The words that are left begin with the
last one of it. -/
def disjunction (v : View) (r : Role) : Nat → List Text → Except Text (Bool × List Text)
  | 0, ws => .ok (false, ws)
  | n + 1, ws => do
    let (a, ws) ← conjunction v r n ws
    match role (ws.drop 1) with
    | .operator .disjunction =>
      let ws := ws.drop 2
      let (b, ws) ← disjunction v (role ws) n ws
      return (a || b, ws)
    | _ => return (a, ws)

def conjunction (v : View) (r : Role) : Nat → List Text → Except Text (Bool × List Text)
  | 0, ws => .ok (false, ws)
  | n + 1, ws => do
    let (a, ws) ← negation v r n ws
    match role (ws.drop 1) with
    | .operator .conjunction =>
      let ws := ws.drop 2
      let (b, ws) ← conjunction v (role ws) n ws
      return (a && b, ws)
    | _ => return (a, ws)

/-- Decides a condition that may be negated. -/
def negation (v : View) (r : Role) : Nat → List Text → Except Text (Bool × List Text)
  | 0, ws => .ok (false, ws)
  | n + 1, ws =>
    match r with
    | .operator .negation => do
      let next := role (ws.drop 1)
      let (a, ws) ← negation v next n (if next = .missing then ws else ws.drop 1)
      return (!a, ws)
    | r => primary v r n ws

/-- Decides a condition that is not joined from others, or one in parentheses. -/
def primary (v : View) (r : Role) : Nat → List Text → Except Text (Bool × List Text)
  | 0, ws => .ok (false, ws)
  | n + 1, ws =>
    match r, ws with
    | .missing, ws => .ok (false, ws)
    | .operator .openParen, _ :: ws =>
      match role ws with
      | .operator .closeParen => .ok (false, ws)
      | r => do
        let (a, ws) ← disjunction v r n ws
        match role (ws.drop 1) with
        | .operator .closeParen => return (a, ws.drop 1)
        | _ => .error "closing paren expected".toList
    | .operator .unary, operator :: ws =>
      match ws with
      | t :: _ => (unary v operator t).map (·, ws)
      | [] => .error (complaint operator "argument expected")
    | _, a :: ws =>
      match role ws, ws with
      | .operator .binary, operator :: ws =>
        match ws with
        | b :: _ => (binary v operator a b).map (·, ws)
        | [] => .error (complaint operator "argument expected")
      | _, _ => .ok (!a.isEmpty, a :: ws)
    | _, [] => .ok (false, [])

end

/-- Decides a condition that may be negated. The roles of up to four words are fixed by their number; there
negations in front of others are one. -/
def decideNegated (v : View) (negated : Bool) : Nat → List Text → Except Text Bool
  | 0, _ => .ok false
  | n + 1, words => do
    let whole (r : Role) (words : List Text) : Except Text Bool := do
      match ← disjunction v r (8 * words.length + 8) words with
      | (_, word :: _ :: _) => .error (complaint word "unexpected operator")
      | (a, _) => return a != negated
    let few : Except Text Bool :=
      if words.head? = some ['('] ∧ words.getLast? = some [')'] then
        let inner := (words.drop 1).dropLast
        whole (role inner) inner
      else if words.head? = some ['!'] then decideNegated v true n (words.drop 1)
      else whole (role words) words
    match words with
    | [] => return negated
    | [_, o, _] => if kind? o = some .binary then whole .operand words else few
    | [_, _, _, _] => few
    | words => whole (role words) words

def decide (v : View) (n : Nat) (words : List Text) : Except Text Bool :=
  decideNegated v false n words

end AsmExplorer.Shell.Condition
