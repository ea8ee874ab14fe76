import AsmExplorer.Shell.Arithmetic
import AsmExplorer.Shell.PathPattern
import AsmExplorer.Shell.State

/-!
# Expansion

What the pieces of a word come to: values of parameters, what commands write, values of expressions,
and the home directories of users. Where a word is to be cut into fields, the parts of it that are not
quoted are marked as regions on the way.
-/

namespace AsmExplorer.Shell

namespace Expansion

/-- How a word is expanded. -/
structure Mode where
  /-- Whether it is cut into fields, which may be patterns. -/
  isFields : Bool := false
  /-- Whether it is a pattern. -/
  isPattern : Bool := false
  /-- Whether a tilde in front stands for a directory. -/
  hasTilde : Bool := false
  /-- Whether tildes behind an equals sign and colons stand for directories. -/
  isAssignment : Bool := false
  isQuoted : Bool := false
  /-- Whether it is the word of a parameter, of which also the plain parts are cut. -/
  isInner : Bool := false

/-- Whether quotes count in the row that a word comes to. -/
def Mode.keepsQuotes (m : Mode) : Bool :=
  m.isFields || m.isPattern

/-- Whether a character that is quoted could otherwise mean something else. -/
def isActive (c : Char) : Bool :=
  c == '!' || c == '*' || c == '?' || c == '[' || c == '=' || c == '~' || c == ':' || c == '/' ||
    c == '-' || c == ']' || c == '\\'

def valueCells (isQuoted : Bool) (t : Text) : List Cell :=
  if isQuoted then Cell.ofText isActive t else Cell.ofText (fun _ => false) t

/-- The cells of plain characters, in which tildes stand for directories. -/
def plainCells (home? : Text → Option Text) (m : Mode) (isLast : Bool) :
    Bool → Bool → Nat → Text → List Cell × Bool
  | _, hasEquals, 0, _ => ([], hasEquals)
  | _, hasEquals, _ + 1, [] => ([], hasEquals)
  | atTilde, hasEquals, n + 1, c :: rest =>
    let name := rest.takeWhile fun d => d != '/' && !(m.isAssignment && d == ':')
    let after := rest.drop name.length
    match if c = '~' ∧ atTilde ∧ (isLast ∨ ¬ after.isEmpty) then home? name else none with
    | some directory =>
      let (cells, hasEquals) := plainCells home? m isLast false hasEquals n after
      (valueCells true directory ++ cells, hasEquals)
    | none =>
      let isEquals := m.isAssignment && c == '=' && !hasEquals
      let (cells, hasEquals) := plainCells home? m isLast (isEquals || (m.isAssignment && c == ':'))
        (hasEquals || isEquals) n rest
      (.char c false :: cells, hasEquals)

/-- The home directory of a user; that of the script's own user is in a variable. -/
def home? (s : State) (user : Text) : Option Text :=
  if user.isEmpty then s.value? "HOME".toList
  else if user = "root".toList then some "/root".toList
  else none

/-- The arguments with something between them: where they are cut into fields an end that can be seen
there, and otherwise the first separator. -/
def argumentCells (s : State) (m : Mode) (each : Bool) : List Cell :=
  let separators := s.value? "IFS".toList
  let between : List Cell :=
    if m.isFields ∧ m.isQuoted ∧ each then [.char '\x00' false]
    else if m.isFields ∧ ¬ m.isQuoted ∧ separators.isSome then [.char '\x00' false]
    else
      match separators with
      | none => valueCells m.isQuoted [' ']
      | some [] => []
      | some (c :: _) => valueCells m.isQuoted [c]
  between.intercalate (s.parameters.map (valueCells m.isQuoted))

/-- The value of a parameter, if it has one. -/
def valueOf (s : State) (m : Mode) (name : Text) : Option (List Cell) :=
  let ofNat (n : Nat) : Option (List Cell) := some (valueCells m.isQuoted (Text.ofNat n))
  match name with
  | ['$'] => ofNat s.identity
  | ['?'] => ofNat s.status
  | ['#'] => ofNat s.parameters.length
  | ['!'] => s.background.bind ofNat
  | ['-'] => some (valueCells false s.options.letters)
  | ['@'] => some (argumentCells s m true)
  | ['*'] => some (argumentCells s m false)
  | ['0'] => some (valueCells m.isQuoted s.name)
  | c :: _ =>
    if c.isDigit then
      match Text.decimal? (Nat.pow 2 31) name with
      | some (n + 1) => (s.parameters[n]?).map (valueCells m.isQuoted)
      | _ => some (valueCells m.isQuoted s.name)
    else (s.value? name).map (valueCells m.isQuoted)
  | [] => none

/-- The row with a region from a place on, where a parameter has been put. -/
def noteParameter (s : State) (m : Mode) (name : Text) (start : Nat) (r : Row) : Row :=
  if !m.isQuoted then r.mark start false
  else if name = ['@'] ∧ ¬ s.parameters.isEmpty then r.mark start true
  else r

/-- A text without newlines at its end. -/
def withoutNewlines (t : Text) : Text :=
  if t.getLast? = some '\n' then Text.trimEnd (· == '\n') t else t

def calculate (expression : Text) : Act Int := do
  let s ← Act.state
  match Arithmetic.value (fun name => (s.value? name).getD []) expression with
  | .error e => Act.fail (e.message expression)
  | .ok (a, assigned) =>
    for (name, b) in assigned.reverse do
      Act.assign name (Text.ofInt b)
    return a

/-- Leaves, as a parameter has no value. -/
def refuse (name : Text) (message : Text) : Act Row :=
  Act.fail (name ++ ": ".toList ++ message)

/-- What is said about a parameter without a value. -/
def notSet : Text := "parameter not set".toList

mutual

/-- Puts pieces to the end of a row. -/
def pieces (substitute : Option Command → Act Text) (m : Mode) (hasEquals inQuotes : Bool) :
    Nat → List Piece → Row → Act Row
  | 0, _, _ => Act.stuck
  | _ + 1, [], r => pure r
  | n + 1, p :: rest, r => do
    let inner := { m with hasTilde := false, isQuoted := m.isQuoted || inQuotes }
    match p with
    | .mark =>
      match if inQuotes then none else allArguments? rest with
      | some rest =>
        let r ← parameter substitute { inner with isQuoted := true } hasEquals n ['@'] .keep false [] r
        pieces substitute { m with hasTilde := false } hasEquals inQuotes n rest r
      | none =>
        let r := if m.keepsQuotes then r.add [.mark] else r
        pieces substitute { m with hasTilde := false } hasEquals (!inQuotes) n rest r
    | .plain t =>
      let start := r.size
      let (r, hasEquals) ← do
        if t.contains '~' then
          let s ← Act.state
          let (cells, hasEquals) :=
            plainCells (home? s) m rest.isEmpty m.hasTilde hasEquals (t.length + 1) t
          pure (r.add cells, hasEquals)
        else pure (r.add (valueCells false t), hasEquals || t.contains '=')
      let r := if m.isInner && !m.isQuoted && !inQuotes then r.mark start false else r
      pieces substitute { m with hasTilde := false } hasEquals inQuotes n rest r
    | .quoted t =>
      pieces substitute { m with hasTilde := false } hasEquals inQuotes n rest (r.add (valueCells true t))
    | .escaped t =>
      pieces substitute { m with hasTilde := false } hasEquals inQuotes n rest
        (r.add (Cell.ofText (fun _ => true) t))
    | .parameter name change orEmpty word =>
      let r ← parameter substitute inner hasEquals n name change orEmpty word r
      pieces substitute { m with hasTilde := false } hasEquals inQuotes n rest r
    | .substitution body =>
      let start := r.size
      let t ← substitute body
      let r := r.add (valueCells inner.isQuoted (withoutNewlines t))
      let r := if inner.isQuoted then r else r.mark start false
      pieces substitute { m with hasTilde := false } hasEquals inQuotes n rest r
    | .arithmetic body =>
      let start := r.size
      let expression ← pieces substitute {} false false n body {}
      let a ← calculate (Cell.text expression.cells)
      let r := r.add (valueCells inner.isQuoted (Text.ofInt a))
      let r := if inner.isQuoted then r else r.mark start false
      pieces substitute { m with hasTilde := false } hasEquals inQuotes n rest r
where
  /-- What stands behind all arguments that are between quotes by themselves. -/
  allArguments? : List Piece → Option (List Piece)
    | .parameter ['@'] .keep _ _ :: .mark :: rest => some rest
    | _ => none

/-- Puts what a parameter comes to to the end of a row. -/
def parameter (substitute : Option Command → Act Text) (m : Mode) (hasEquals : Bool) :
    Nat → Text → Change → Bool → List Piece → Row → Act Row
  | 0, _, _, _, _, _ => Act.stuck
  | n + 1, name, change, orEmpty, word, r => do
    let start := r.size
    let s ← Act.state
    let value := valueOf s m name
    let isThere := match value with
      | none => false
      | some [] => !orEmpty
      | some _ => true
    let r' := r.add (value.getD [])
    match change with
    | .unknown => Act.fail "Bad substitution".toList
    | .alternative =>
      if isThere then
        pieces substitute { m with hasTilde := true, isInner := true } hasEquals false n word r
      else return noteParameter s m name start r
    | .fallback =>
      if isThere then return noteParameter s m name start r'
      else pieces substitute { m with hasTilde := true, isInner := true } hasEquals false n word r
    | .assign =>
      if isThere then return noteParameter s m name start r'
      else
        let inner ← pieces substitute { hasTilde := true } false false n word {}
        if !Name.isGood name then refuse name "bad variable name".toList
        else
          Act.assign name (Cell.text inner.cells)
          parameter substitute m hasEquals n name .keep false [] (r.unmark start)
    | .require =>
      if isThere then return noteParameter s m name start r'
      else
        let inner ← pieces substitute { hasTilde := true } false false n word {}
        if word.isEmpty then refuse name (notSet ++ if orEmpty then " or null".toList else [])
        else refuse name (Cell.text inner.cells)
    | .keep =>
      if !isThere && s.options.stopsOnUnset then refuse name notSet
      else if isThere then return noteParameter s m name start r'
      else return r
    | .length =>
      if !isThere && s.options.stopsOnUnset then refuse name notSet
      else
        let size := ((valueOf s { m with isFields := false } name).getD []).length
        return noteParameter s m name start (r.add (valueCells m.isQuoted (Text.ofNat size)))
    | .trim fromEnd longest =>
      if !isThere then
        if s.options.stopsOnUnset then refuse name notSet else return r
      else
        let inner ← pieces substitute { isPattern := true, hasTilde := true } false false n word {}
        let cells := value.getD []
        let r := match Pattern.trimmed? fromEnd longest (Cell.pattern inner.cells) (Cell.text cells) with
          | some k => r.add (if fromEnd then cells.take (cells.length - k) else cells.drop k)
          | none => r'
        return noteParameter s m name start (r.unmark start)

end

end Expansion

namespace Word

/-- The text of a word that needs no expansion to be a field. -/
def settled? : Word → Option Text
  | [.plain t] =>
    if t.any fun c => c == '~' || c == '*' || c == '?' || c == '[' then none else some t
  | [.mark, .quoted t, .mark] => some t
  | _ => none

def fields (substitute : Option Command → Act Text) (w : Word) : Act (List Text) := do
  match w.settled? with
  | some t => return [t]
  | none =>
    let r ← Expansion.pieces substitute { isFields := true, hasTilde := true } false false
      Program.limit w {}
    let s ← Act.state
    let fields := r.fields s.separators none
    if !s.options.keepsPatterns && fields.any Cell.mayBePattern then
      let fs ← Act.files
      return fields.flatMap (PathPattern.wordsOf fs s.directory)
    else return fields.map Cell.text

def expand (substitute : Option Command → Act Text) (m : Expansion.Mode) (w : Word) : Act Text := do
  let r ← Expansion.pieces substitute m false false Program.limit w {}
  return Cell.text r.cells

def pattern (substitute : Option Command → Act Text) (w : Word) : Act Text := do
  let r ← Expansion.pieces substitute { isPattern := true, hasTilde := true } false false
    Program.limit w {}
  return Cell.pattern r.cells

end Word

end AsmExplorer.Shell
