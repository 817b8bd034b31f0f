import GrowthGrammar.Error.Expression

/-!
# Errors of axioms and rules

A `GrammarError` is why a text is no axiom or no rule.  Each belongs to one of four kinds.
-/

namespace GrowthGrammar

open GrowthGrammar.Text

/-- The kinds of grammar errors. -/
inductive GrammarKind where
  | axiomParameter
  | ruleOperator
  | ruleParameter
  | ruleCondition
deriving Repr, DecidableEq

/-- The name of a kind. -/
def GrammarKind.name : GrammarKind → String
  | axiomParameter => "axiom-parameter"
  | ruleOperator => "rule-operator"
  | ruleParameter => "rule-parameter"
  | ruleCondition => "rule-condition"

/-- Why a text is no axiom or no rule. -/
inductive GrammarError where
  /-- Text behind the bracket that closes the parameters of a module. -/
  | textBehind (kind : GrammarKind) (rest head : String)
  | axiomWithoutName (piece : String)
  | axiomParameter (text : String) (cause : Expression.Error)
  | arrowMissing (rule : String)
  | arrowRepeated (rule : String)
  | ruleWithoutName (rule : String)
  | arrowExpected (word rest : String)
  | invalidParameter (parameter rule : String)
  | repeatedParameter (rule : String)
  | condition (text rule : String) (cause : Expression.Error)
  | ruleParameter (text : String) (cause : Expression.Error)
deriving Repr, DecidableEq

namespace GrammarError

/-- The kind of an error. -/
def kind : GrammarError → GrammarKind
  | textBehind kind _ _ => kind
  | axiomWithoutName _ => .axiomParameter
  | axiomParameter _ _ => .axiomParameter
  | arrowMissing _ => .ruleOperator
  | arrowRepeated _ => .ruleOperator
  | ruleWithoutName _ => .ruleOperator
  | arrowExpected _ _ => .ruleOperator
  | invalidParameter _ _ => .ruleParameter
  | repeatedParameter _ => .ruleParameter
  | condition _ _ _ => .ruleCondition
  | ruleParameter _ _ => .ruleParameter

/-- The wording of an error. -/
def message : GrammarError → String
  | textBehind _ rest head => "Unexpected text '" ++ rest ++ "' after '" ++ head ++ "'"
  | axiomWithoutName piece => "Axiom module '" ++ piece ++ "' has no name"
  | axiomParameter text cause =>
    "Can't parse the parameter '" ++ text ++ "' of the axiom: " ++ cause.message
  | arrowMissing rule => "Missing '-->' operator in " ++ quote rule
  | arrowRepeated rule =>
    "Too many '-->' operators found in " ++ quote rule ++ ". There should be only one per rule"
  | ruleWithoutName rule => "Missing module name in front of '-->' in " ++ quote rule
  | arrowExpected word rest => "Expected '-->' after '" ++ word ++ "', found '" ++ rest ++ "'"
  | invalidParameter parameter rule =>
    "Invalid parameter name '" ++ parameter ++ "' in rule '" ++ rule ++ "'"
  | repeatedParameter rule => "Duplicate parameter name in rule '" ++ rule ++ "'"
  | condition text rule cause =>
    "Can't parse the condition '" ++ text ++ "' of rule '" ++ rule ++ "': " ++ cause.message
  | ruleParameter text cause =>
    "Can't parse '" ++ text ++ "' into a rule expression parameter: " ++ cause.message

end GrammarError

end GrowthGrammar
