import AsmExplorer.Process.Start
import AsmExplorer.Text.Numeral
import AsmExplorer.Text.Octets

/-!
# Options and messages

How the programs of the system take their words apart and how they complain. Options may stand among
the other words up to a double dash; the letters of short ones may be joined, and a long one may be cut
short as long as it is clear which is meant.
-/

namespace AsmExplorer.Programs

/-- Whether an option has an argument. -/
inductive Arity where
  | none
  | required
  | optional
  deriving DecidableEq, Repr

/-- The options that a program has: short ones, and long ones with the letter that each stands for. -/
structure OptionTable where
  short : List (Char × Arity)
  long : List (String × Arity × Char)
  /-- Whether the first word that is no option ends them. -/
  stopsAtWords : Bool := false

/-- What the words of a program ask for: options with their arguments, and the other words. -/
structure Request where
  options : List (Char × Option Text) := []
  words : List Text := []
  /-- What is wrong with the words behind the options, if anything is. -/
  fault : Option Text := none

namespace Request

def add (r : Request) (c : Char) (argument : Option Text) : Request :=
  { r with options := r.options ++ [(c, argument)] }

/-- The request with what is wrong behind it. -/
def refuse (r : Request) (message : Text) : Request :=
  { r with fault := some message }

end Request

namespace OptionTable

/-- What is wrong with a long option. -/
def longError (name : Text) (matching : List (String × Arity × Char)) : Text :=
  "option '--".toList ++ name ++ "' is ambiguous; possibilities:".toList ++
    matching.flatMap fun l => " '--".toList ++ l.1.toList ++ ['\'']

/-- The long option that a word with a name in it means. -/
def long? (o : OptionTable) (word name : Text) : Except Text (String × Arity × Char) :=
  match o.long.find? fun l => l.1.toList == name with
  | some l => .ok l
  | none =>
    match o.long.filter fun l => name.isPrefixOf l.1.toList with
    | [l] => .ok l
    | l :: ls =>
      if ls.all fun k => k.2 == l.2 then .ok l else .error (longError word (l :: ls))
    | [] => .error ("unrecognized option '--".toList ++ word ++ ['\''])

mutual

/-- Takes the letters of a word, the option letters before them being done with. -/
def letters (o : OptionTable) (r : Request) : Nat → Text → List Text → Request
  | 0, _, _ => r
  | fuel + 1, [], rest => words o r fuel rest
  | fuel + 1, c :: cs, rest =>
    match o.short.lookup c with
    | none => r.refuse ("invalid option -- '".toList ++ [c, '\''])
    | some .none => letters o (r.add c none) fuel cs rest
    | some .optional => words o (r.add c (if cs = [] then none else some cs)) fuel rest
    | some .required =>
      match cs, rest with
      | [], [] => r.refuse ("option requires an argument -- '".toList ++ [c, '\''])
      | [], word :: rest => words o (r.add c (some word)) fuel rest
      | cs, rest => words o (r.add c (some cs)) fuel rest

def words (o : OptionTable) (r : Request) : Nat → List Text → Request
  | 0, _ => r
  | _ + 1, [] => r
  | fuel + 1, word :: rest =>
    match word with
    | ['-', '-'] => { r with words := r.words ++ rest }
    | '-' :: '-' :: text =>
      let name := text.takeWhile (· ≠ '=')
      let value := if name.length < text.length then some (text.drop (name.length + 1)) else none
      match o.long? text name with
      | .error e => r.refuse e
      | .ok (full, arity, c) =>
        match arity, value with
        | .none, some _ => r.refuse ("option '--".toList ++ full.toList ++
            "' doesn't allow an argument".toList)
        | .required, none =>
          match rest with
          | [] => r.refuse ("option '--".toList ++ full.toList ++ "' requires an argument".toList)
          | v :: rest => words o (r.add c (some v)) fuel rest
        | _, value => words o (r.add c value) fuel rest
    | '-' :: c :: cs => letters o r fuel (c :: cs) rest
    | word =>
      if o.stopsAtWords then { r with words := r.words ++ word :: rest }
      else words o { r with words := r.words ++ [word] } fuel rest

end

/-- Takes the words of a program apart. -/
def read (o : OptionTable) (ws : List Text) : Request :=
  words o {} (ws.flatten.length + ws.length + 1) ws

end OptionTable

/-- The long options that all programs have. -/
def commonOptions : List (String × Arity × Char) :=
  [("help", .none, 'h'), ("version", .none, 'V')]

def Request.has (r : Request) (c : Char) : Bool :=
  r.options.any fun o => o.1 == c

/-- Whether a character makes a name unclear among other words. -/
def isUnclear (c : Char) : Bool :=
  c == '\'' || " !\"$&()*;<=>[^\x60|?\\".toList.contains c

def isVisible (c : Char) : Bool :=
  32 ≤ c.toNat && c.toNat < 127

/-- The letters of an octet that cannot be seen. -/
def visibleEscape (c : Char) : Text :=
  match c with
  | '\x07' => ['\\', 'a']
  | '\x08' => ['\\', 'b']
  | '\t' => ['\\', 't']
  | '\n' => ['\\', 'n']
  | '\x0b' => ['\\', 'v']
  | '\x0c' => ['\\', 'f']
  | '\r' => ['\\', 'r']
  | c => '\\' :: Text.padLeft 3 '0' (Nat.toDigits 8 c.toNat)

/-- A name between quotes, the parts that cannot be seen being spelled apart. -/
def quotedParts (hidden : Bool) : Text → Text
  | [] => ['\'']
  | c :: rest =>
    if c = '\'' then (if hidden then ['\''] else []) ++ "'\\''".toList.drop (if hidden then 1 else 0) ++
      quotedParts false rest
    else if isVisible c then (if hidden then ['\'', '\''] else []) ++ c :: quotedParts false rest
    else (if hidden then [] else "'$'".toList) ++ visibleEscape c ++ quotedParts true rest

def quoted (name : Text) : Text :=
  if name.contains '\'' ∧ name.all fun c => isVisible c && !("\"$\x60\\!".toList.contains c) then
    '"' :: name ++ ['"']
  else '\'' :: quotedParts false name

/-- A name as it is told in a message in front of a colon: between quotes if it would be unclear. -/
def named (name : Text) : Text :=
  let unclear := name = [] ∨ name.any (fun c => isUnclear c || !isVisible c || c == ':') ∨
    name.head? = some '#' ∨ name.head? = some '~' ∨ name = ['\x7b'] ∨ name = ['\x7d']
  if unclear then quoted name else name

/-- The letters that spell a character inside of plain quotes. -/
def spelledCharacter (c : Char) : Text :=
  if c = '\'' ∨ c = '\\' then ['\\', c]
  else if isVisible c then [c]
  else visibleEscape c

/-- A word between plain quotes. -/
def spelled (word : Text) : Text :=
  '\'' :: word.flatMap spelledCharacter ++ ['\'']

/-- Writes a message to the error stream. -/
def complain (s : Start) (message : Text) : Program Unit := do
  let _ ← Program.put 2 (Octets.toBytes (s.program ++ ": ".toList ++ message ++ ['\n']))

/-- Writes a message and ends. -/
def fail {α : Type} (s : Start) (message : Text) (code : Nat) : Program α := do
  complain s message
  Program.leave (.code code)

/-- Ends with a message about words that are not understood. -/
def misuse {α : Type} (s : Start) (message : Text) : Program α := do
  complain s message
  let _ ← Program.put 2 (Octets.toBytes
    ("Try '".toList ++ s.program ++ " --help' for more information.\n".toList))
  Program.leave (.code 1)

/-- Ends with a message about the output if it could not be written. -/
def checkOutput (s : Start) (r : Except FileError Unit) : Program Unit :=
  match r with
  | .ok _ => pure ()
  | .error e => fail s ("write error: ".toList ++ e.text) 1

/-- The number of bytes that are held back before they are written. -/
def spoolSize : Nat := 4096

/-- Writes bytes behind others that are held back. Whole pieces are written at once; the bytes that are
left are held back. -/
def spool (number : Nat) (held bytes : Bytes) : Program (Except FileError Bytes) := do
  let size := held.length + bytes.length
  if size ≤ spoolSize then return .ok (held ++ bytes)
  else
    let all := held ++ bytes
    let n := size - size % spoolSize
    match ← Program.put number (all.take n) with
    | .ok _ => return .ok (all.drop n)
    | .error e => return .error e

/-- Writes bytes to the output behind others that are held back, or ends with a message. -/
def emitSpooled (s : Start) (held bytes : Bytes) : Program Bytes := do
  match ← spool 1 held bytes with
  | .ok held => return held
  | .error e => fail s ("write error: ".toList ++ e.text) 1

/-- Writes to the output, or ends with a message. -/
def emit (s : Start) (bytes : Bytes) : Program Unit := do
  checkOutput s (← Program.put 1 bytes)

/-- The number of bytes that are read at once. -/
def pieceSize : Nat := 8192

def openInput (s : Start) (name : Text) : Program (Except FileError Nat) :=
  if name = ['-'] then pure (.ok 0) else Program.ask (.openFile s.directory name .reading)

def closeInput (number : Nat) : Program Unit := do
  if number ≠ 0 then
    let _ ← Program.ask (.close number)

end AsmExplorer.Programs
