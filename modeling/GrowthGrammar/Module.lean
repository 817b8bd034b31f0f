import GrowthGrammar.Bracket
import GrowthGrammar.Text.Blank

/-!
# Modules

Axioms and rules are made of modules: a name, and arguments between brackets behind it.  `splitHead`
parts the name from the text between the brackets, and `splitArguments` cuts that text at the commas
that stand in no further brackets.
-/

namespace GrowthGrammar

open GrowthGrammar.Text

/-- The arguments between commas outside of brackets, when `depth` brackets are open. -/
def cutArguments : Nat → List Char → List (List Char)
  | _, [] => [[]]
  | depth, c :: r =>
    if c = '(' then consHead c (cutArguments (depth + 1) r)
    else if c = ')' then consHead c (cutArguments (depth - 1) r)
    else if c = ',' ∧ depth = 0 then [] :: cutArguments 0 r
    else consHead c (cutArguments depth r)

/-- The arguments in the text between brackets; blanks alone, or no brackets, hold none. -/
def splitArguments : Option (List Char) → List (List Char)
  | none => []
  | some inner => if isBlankText inner then [] else cutArguments 0 inner

/-- The trimmed name of a module and the text between its brackets, if it has some.  Only blanks may
stand behind the closing bracket; `kind` is the kind of error that anything else is. -/
def splitHead (kind : GrammarKind) (piece : List Char) :
    Except Error (List Char × Option (List Char)) :=
  match cutAt '(' piece with
  | (name, none) => .ok (trim name, none)
  | (name, some r) =>
    match closingIndex piece name.length "(" ")" with
    | .error e => .error (.bracket e)
    | .ok close =>
      let rest := trim (piece.drop (close + 1))
      if rest.isEmpty then .ok (trim name, some (r.take (close - name.length - 1)))
      else
        .error (.grammar (.textBehind kind (String.ofList rest)
          (String.ofList (trim (piece.take (close + 1))))))

end GrowthGrammar
