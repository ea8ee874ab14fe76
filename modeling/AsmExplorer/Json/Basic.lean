import AsmExplorer.Text.Numeral

/-!
# JSON values

Values as they are written: a number keeps its literal, and a string with an escape for half a
surrogate pair is kept without a text. What is read from a value decides what is acceptable: a value
that nothing is read from need only be well formed.
-/

namespace AsmExplorer

/-- A JSON value. A string is `none` if it holds half a surrogate pair. -/
inductive Json where
  | null
  | bool (b : Bool)
  | number (literal : Text)
  | string (s : Option Text)
  | array (elements : List Json)
  | object (members : List (Option Text × Json))
  deriving Inhabited

namespace Json

def asText? : Json → Option Text
  | .string s => s
  | _ => none

def asBool? : Json → Option Bool
  | .bool b => some b
  | _ => none

/-- The value of a number that is written as a natural one below the bound. -/
def asNat? (bound : Nat) : Json → Option Nat
  | .number literal => Text.decimal? bound literal
  | _ => none

/-- A value that may be absent: `null` stands for absence. -/
def asOptional? {α : Type} (read? : Json → Option α) : Json → Option (Option α)
  | .null => some none
  | j => (read? j).map some

def asList? {α : Type} (read? : Json → Option α) : Json → Option (List α)
  | .array elements => elements.mapM read?
  | _ => none

/-- The value at a name, or `none` if it does not occur; a name that occurs twice is refused. -/
def member? (members : List (Option Text × Json)) (name : Text) : Option (Option Json) :=
  match members.filter fun m => m.1 = some name with
  | [] => some none
  | [m] => some (some m.2)
  | _ => none

/-- The values of a record's fields, which are given by their names in order. A record is written as
an object, in which other names do not matter, or as the array of its first fields. -/
def asRecord? (names : List Text) : Json → Option (List (Option Json))
  | .object members =>
    if members.all fun m => m.1.isSome then names.mapM (member? members) else none
  | .array elements =>
    if elements.length ≤ names.length then
      some (elements.map some ++ List.replicate (names.length - elements.length) none)
    else none
  | _ => none

/-- One of finitely many names, written as a string or as an object that maps it to `null`. -/
def asChoice? {α : Type} (choices : List (Text × α)) : Json → Option α
  | .string (some name) => choices.lookup name
  | .object [(some name, .null)] => choices.lookup name
  | _ => none

/-- The value of a field that may be missing. -/
def fieldOr {α : Type} (default : α) (read? : Json → Option α) : Option Json → Option α
  | none => some default
  | some j => read? j

end Json

end AsmExplorer
