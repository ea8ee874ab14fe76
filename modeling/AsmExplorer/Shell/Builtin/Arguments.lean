import AsmExplorer.Shell.State

/-!
# Arguments of commands of the shell itself

The options in front of the other arguments, and texts between quotes that are read back as they were.
-/

namespace AsmExplorer.Shell

/-- The options of a command with the values of those that take one, and the other arguments. -/
structure Arguments where
  options : List (Char × Text) := []
  words : List Text := []

namespace Arguments

def has (a : Arguments) (c : Char) : Bool :=
  a.options.any fun o => o.1 == c

/-- What an option stands for among others: whether it takes a value. -/
def takesValue? (c : Char) : Text → Option Bool
  | [] => none
  | d :: ':' :: rest => if c = d then some true else takesValue? c rest
  | d :: rest => if c = d then some false else takesValue? c rest

/-- Takes the letters of an argument as options, those before coming in reverse. -/
def letters (known : Text) (reversed : List (Char × Text)) (rest : List Text) :
    Text → Except Text (List (Char × Text) × List Text)
  | [] => .ok (reversed, rest)
  | c :: more =>
    match takesValue? c known with
    | none => .error ("Illegal option -".toList ++ [c])
    | some false => letters known ((c, []) :: reversed) rest more
    | some true =>
      match more, rest with
      | [], [] => .error ("No arg for -".toList ++ c :: " option".toList)
      | [], value :: rest => .ok ((c, value) :: reversed, rest)
      | value, rest => .ok ((c, value) :: reversed, rest)

/-- Takes the options in front, those before coming in reverse. -/
def take (known : Text) (reversed : List (Char × Text)) : Nat → List Text → Except Text Arguments
  | n + 1, ('-' :: c :: more) :: rest =>
    if c = '-' ∧ more.isEmpty then .ok ⟨reversed.reverse, rest⟩
    else do
      let (reversed, rest) ← letters known reversed rest (c :: more)
      take known reversed n rest
  | _, words => .ok ⟨reversed.reverse, words⟩

/-- Reads the arguments of a command that knows some options; a colon behind one means that it takes a
value. -/
def read (known : String) (words : List Text) : Act Arguments :=
  match take known.toList [] (words.length + 1) words with
  | .ok a => pure a
  | .error message => Act.fail message

end Arguments

/-- A text between quotes. Quotes in it stand between quotes of another kind. -/
def quote (t : Text) : Text :=
  go (t.length + 1) t
where
  /-- The parts of the text in turn. -/
  go : Nat → Text → Text
    | 0, _ => []
    | n + 1, t =>
      let plain := t.takeWhile (· ≠ '\'')
      let rest := t.drop plain.length
      let marks := rest.takeWhile (· = '\'')
      let behind := rest.drop marks.length
      '\'' :: plain ++ ['\''] ++
        if marks.isEmpty then []
        else '"' :: marks ++ ['"'] ++ if behind.isEmpty then [] else go n behind

end AsmExplorer.Shell
