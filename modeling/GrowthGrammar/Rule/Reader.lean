import GrowthGrammar.Module
import GrowthGrammar.Rule.Basic
import GrowthGrammar.Text.Identifier

/-!
# Reading rules

A rule is written as `Name(p,q): condition --> R(e); S`.  The parts in brackets, the condition and
the successors may be missing.  `Rule.read` finds the parts from the outside inwards, so that the
first error is that of the coarsest structure.
-/

namespace GrowthGrammar.Rule

open GrowthGrammar.Text

/-- The sides of the one arrow in a rule. -/
def splitSides (cs : List Char) : Except Error (List Char × List Char) :=
  match splitAtArrow cs with
  | [left, right] => .ok (left, right)
  | [] | [_] => .error (.grammar (.arrowMissing (String.ofList (trim cs))))
  | _ => .error (.grammar (.arrowRepeated (String.ofList (trim cs))))

/-- The name of a rule is one word; `text` is the text of the rule. -/
def checkName (text name : List Char) : Except Error String :=
  if name.isEmpty then .error (.grammar (.ruleWithoutName (String.ofList (trim text))))
  else
    match words name with
    | w :: v :: r =>
      let rest := [' '].intercalate (v :: r)
      .error (.grammar (.arrowExpected (String.ofList w) (String.ofList rest)))
    | _ => .ok (String.ofList name)

/-- The parameter names of a rule: names of variables, no two of them alike. -/
def checkParameters (rule : String) (parameters : List (List Char)) : Except Error (List String) :=
  match parameters.find? fun p => !isVariableName p with
  | some p => .error (.grammar (.invalidParameter (String.ofList p) rule))
  | none =>
    let names := parameters.map String.ofList
    if names.Nodup then .ok names else .error (.grammar (.repeatedParameter rule))

/-- An error of an expression as the error of a rule's condition. -/
def inCondition (text : List Char) (rule : String) : Error → Error
  | .expression e => .grammar (.condition (String.ofList (trim text)) rule e)
  | e => e

/-- The condition between the colon and the arrow, if there is one. -/
def readCondition (rule : String) : Option (List Char) → Except Error (Option Condition)
  | none => .ok none
  | some cs =>
    if isBlankText cs then .ok none
    else ((Condition.read cs).mapError (inCondition cs rule)).map some

/-- An error of an expression as the error of a successor's parameter. -/
def inSuccessor (text : List Char) : Error → Error
  | .expression e => .grammar (.ruleParameter (String.ofList (trim text)) e)
  | e => e

/-- The parameter of a successor. -/
def readParameter (cs : List Char) : Except Error Quantity :=
  (Quantity.read cs).mapError (inSuccessor cs)

/-- The successor that a piece between semicolons is; a piece without a name is none. -/
def readSuccessor (piece : List Char) : Except Error (Option Template) := do
  let (name, inner) ← splitHead .ruleParameter piece
  if name.isEmpty then return none
  else
    let parameters ← (splitArguments inner).mapM readParameter
    return some ⟨String.ofList name, parameters⟩

/-- The successors behind the arrow. -/
def readSuccessors (cs : List Char) : Except Error (List Template) := do
  let found ← (splitAt ';' cs).mapM readSuccessor
  return found.filterMap id

/-- The rule that a text is, under global variables. -/
def read (globals : Environment) (cs : List Char) : Except Error Rule := do
  let (left, right) ← splitSides cs
  let (head, condition) := cutAt ':' left
  let (name, inner) ← splitHead .ruleParameter head
  let name ← checkName cs name
  let parameters ← checkParameters name ((splitArguments inner).map trim)
  let condition ← readCondition name condition
  let successors ← readSuccessors right
  return ⟨name, parameters, condition, successors, globals⟩

end GrowthGrammar.Rule
