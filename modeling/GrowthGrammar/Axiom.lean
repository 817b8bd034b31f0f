import GrowthGrammar.Module
import GrowthGrammar.Quantity
import GrowthGrammar.Symbol

/-!
# Axioms

An axiom is the text of a word to begin with: modules between semicolons, whose arguments are
constant expressions.  `readAxiom` is the word; blank pieces between semicolons are skipped.
-/

namespace GrowthGrammar

open GrowthGrammar.Text

/-- An error of an expression as the error of a parameter in an axiom. -/
def Error.inAxiom (text : List Char) : Error → Error
  | .expression e => .grammar (.axiomParameter (String.ofList (trim text)) e)
  | e => e

/-- The double that an argument in an axiom is. -/
def readConstant (cs : List Char) : Except Error Float :=
  (do
    let q ← Quantity.readConstant cs
    q.evaluate .empty).mapError (.inAxiom cs)

/-- The symbol that a piece of an axiom is. -/
def readSymbol (piece : List Char) : Except Error Symbol := do
  let (name, inner) ← splitHead .axiomParameter piece
  if name.isEmpty then
    .error (.grammar (.axiomWithoutName (String.ofList (trim piece))))
  else
    let parameters ← (splitArguments inner).mapM readConstant
    return ⟨String.ofList name, parameters⟩

/-- The word that an axiom writes. -/
def readAxiom (cs : List Char) : Except Error (List Symbol) :=
  ((splitAt ';' cs).filter fun piece => !isBlankText piece).mapM readSymbol

end GrowthGrammar
