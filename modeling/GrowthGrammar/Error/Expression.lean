import GrowthGrammar.Expression.Phrase
import GrowthGrammar.Text.Quoted
import GrowthGrammar.Value.Fault

/-!
# Errors of expressions

A text is refused as an expression for a `Refusal`, and an expression has no result in an
environment because of a `Failure`.  Both are worded with the text of the expression.
-/

namespace GrowthGrammar.Expression

open GrowthGrammar.Text

/-- Why a text is no expression of a rule. -/
inductive Refusal where
  | empty
  | ungrammatical
  | unsupported (e : Element)
  | notNumeric
  | unknownFunction
  | namedArguments
  | outOfRange
  | logical
  | notConstant (names : List String)
deriving Repr, DecidableEq

/-- The wording of a refusal of a text. -/
def Refusal.message (text : String) : Refusal → String
  | empty => "Empty expression"
  | ungrammatical => "Invalid expression: " ++ quote text
  | unsupported e => "Unsupported element " ++ e.name ++ " in " ++ quote text
  | notNumeric => "Only numeric literals allowed in " ++ quote text
  | unknownFunction => "Unknown function in " ++ quote text
  | namedArguments => "Keyword arguments not allowed in " ++ quote text
  | outOfRange => "Literal out of range in " ++ quote text
  | logical => "Expected a numeric expression, got " ++ quote text
  | notConstant names =>
    "Constant expression " ++ quote text ++ " references " ++ ", ".intercalate names

/-- Why an expression has no result. -/
inductive Failure where
  | undefined (name : String)
  | fault (f : Fault)
  /-- The result, here as it is shown, is no real number. -/
  | notReal (value : String)
deriving Repr, DecidableEq

/-- The wording of a failure of an expression with a text. -/
def Failure.message (text : String) : Failure → String
  | undefined name => "name '" ++ name ++ "' is not defined (in " ++ quote text ++ ")"
  | fault f => "Can't evaluate " ++ quote text ++ ": " ++ f.message
  | notReal value => quote text ++ " is not a real number: " ++ value

/-- An error of the expression with a text. -/
inductive Error where
  | refused (text : String) (r : Refusal)
  | failed (text : String) (f : Failure)
deriving Repr, DecidableEq

/-- The wording of an error. -/
def Error.message : Error → String
  | refused text r => r.message text
  | failed text f => f.message text

end GrowthGrammar.Expression
