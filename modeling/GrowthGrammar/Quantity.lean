import GrowthGrammar.Error
import GrowthGrammar.Expression.Check
import GrowthGrammar.Expression.Evaluation
import GrowthGrammar.Expression.Grammar
import GrowthGrammar.Expression.Spelling

/-!
# Quantities and conditions

A `Quantity` is an expression that comes to a double, as the parameters of symbols do, and a
`Condition` one that holds or not.  Both keep the text that they were read from.  A quantity that is
read as a constant has no variables of its own.
-/

namespace GrowthGrammar

open GrowthGrammar.Expression GrowthGrammar.Number GrowthGrammar.Text

/-- The error of a text that is no expression. -/
def refuse (text : String) (r : Refusal) : Error :=
  .expression (.refused text r)

/-- The error that an obstacle is. -/
def Expression.Obstacle.error (text : String) : Obstacle → GrowthGrammar.Error
  | .refusal r => refuse text r
  | .reservedName n => .stray (.reservedName n)

/-- The expression that a text is. -/
def Expr.read (cs : List Char) : Except Error Expr :=
  let text := String.ofList (trim cs)
  let source := normalForm cs
  if source.isEmpty then .error (refuse text .empty)
  else if source.contains '\x00' then .error (.stray .nullCharacter)
  else
    match Phrase.ofText? source with
    | none => .error (refuse text .ungrammatical)
    | some p => (p.check 0).mapError fun f => f.obstacle.error text

/-- The value of an expression with a text. -/
def Expr.value (text : String) (env : Environment) (e : Expr) : Except Error Value :=
  (e.eval env).mapError fun f => .expression (.failed text f)

/-- An expression that comes to a double. -/
structure Quantity where
  text : String
  expr : Expr

/-- An expression that holds or not. -/
structure Condition where
  text : String
  expr : Expr

namespace Quantity

/-- The names in a quantity that are not built in. -/
def names (q : Quantity) : List String :=
  q.expr.names

/-- The quantity that a text is. -/
def read (cs : List Char) : Except Error Quantity := do
  let e ← Expr.read cs
  let text := String.ofList (trim cs)
  if e.isLogical then .error (refuse text .logical) else .ok ⟨text, e⟩

/-- The quantity without names that a text is. -/
def readConstant (cs : List Char) : Except Error Quantity := do
  let q ← read cs
  if q.names.isEmpty then .ok q else .error (refuse q.text (.notConstant q.names))

/-- The error of a value that is no double. -/
def notReal (text : String) (v : Value) : Error :=
  match v.text? with
  | some s => .expression (.failed text (.notReal s))
  | none => .stray .unwrittenInteger

/-- The double that a quantity is in an environment. -/
def evaluate (q : Quantity) (env : Environment) : Except Error Float := do
  let v ← q.expr.value q.text env
  match v.toFloat? with
  | some x => .ok x
  | none => .error (notReal q.text v)

end Quantity

namespace Condition

/-- The names in a condition that are not built in. -/
def names (c : Condition) : List String :=
  c.expr.names

/-- The condition that a text is. -/
def read (cs : List Char) : Except Error Condition := do
  let e ← Expr.read cs
  .ok ⟨String.ofList (trim cs), e⟩

/-- Whether a condition holds in an environment. -/
def holds (c : Condition) (env : Environment) : Except Error Bool := do
  let v ← c.expr.value c.text env
  return v.isTrue

end Condition

/-- An environment of given numbers for the expression with a text. -/
def Environment.forText (text : String) (entries : List (String × Given)) :
    Except Error Environment :=
  (Environment.ofGiven entries).mapError fun f => .expression (.failed text (.fault f))

end GrowthGrammar
