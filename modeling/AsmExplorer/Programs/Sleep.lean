import AsmExplorer.Programs.Options
import AsmExplorer.Text.Quantity

/-!
# Programs that wait or only end

The program `sleep`, which waits for the sum of some times, and the programs `true` and `false`, which
only end.
-/

namespace AsmExplorer.Programs

namespace Sleep

/-- How long to wait. -/
inductive Delay where
  | nanos (n : Nat)
  | forever

def Delay.add : Delay → Delay → Delay
  | .nanos a, .nanos b => .nanos (a + b)
  | _, _ => .forever

/-- The number of seconds in a unit. -/
def unit? : Text → Option Nat
  | [] => some 1
  | ['s'] => some 1
  | ['m'] => some 60
  | ['h'] => some 3600
  | ['d'] => some 86400
  | _ => none

/-- The time that a word spells. -/
def delay? (word : Text) : Option Delay :=
  match Quantity.read? word with
  | none => none
  | some r =>
    match unit? r.rest, r.value with
    | none, _ => none
    | some _, .undefined _ => none
    | some _, .infinite negative => if negative then none else some .forever
    | some seconds, .finite negative x =>
      if negative ∧ x.num ≠ 0 then none
      else some (.nanos ((x.num * seconds * 1000000000 + x.den - 1) / x.den))

def table : OptionTable := ⟨[], commonOptions, false⟩

/-- The sum of the times, or the words that spell none. -/
def total (words : List Text) : Except (List Text) Delay :=
  match words.filter fun w => (delay? w).isNone with
  | [] => .ok ((words.filterMap delay?).foldl Delay.add (.nanos 0))
  | w :: ws => .error (w :: ws)

/-- Tells which words spell no time; with the last one comes a hint. -/
def refuse (s : Start) : List Text → Program Status
  | [] => Program.leave (.code 1)
  | [w] => misuse s ("invalid time interval ".toList ++ spelled w)
  | w :: ws => do
    complain s ("invalid time interval ".toList ++ spelled w)
    refuse s ws

end Sleep

/-- Waits for the sum of some times. -/
def sleep (s : Start) : Program Status :=
  let r := Sleep.table.read s.arguments
  match r.fault with
  | some e => misuse s e
  | none =>
    if s.arguments = [] then misuse s "missing operand".toList
    else
      match Sleep.total r.words with
      | .error ws => Sleep.refuse s ws
      | .ok .forever => Program.stuck
      | .ok (.nanos n) => do
        let _ ← Program.ask (.sleep n)
        return .code 0

def endWith (code : Nat) (_ : Start) : Program Status :=
  pure (.code code)

end AsmExplorer.Programs
