import GrowthGrammar.Environment
import GrowthGrammar.Error.Expression
import GrowthGrammar.Expression.Basic
import GrowthGrammar.Value.Builtin

/-!
# Evaluation

`Expr.eval` is the value of an expression in an environment.  A name means its double, if the
environment has one, and else what is built in.  Operands are evaluated from left to right; a
connective leaves its right operand alone if the left one decides, and a chain of comparisons ends
at the first that does not hold.
-/

namespace GrowthGrammar

open Expression (Failure)

namespace Expr

/-- A fault of an operation as a failure of the expression around it. -/
def lift {α : Type} (r : Except Fault α) : Except Failure α :=
  r.mapError .fault

/-- The value of a name.  One name is true in every environment. -/
def valueOf (env : Environment) (n : String) : Except Failure Value :=
  if n = "__debug__" then .ok (.truth true)
  else
    match env.find? n with
    | some x => .ok (.double x)
    | none =>
      match builtinValue? n with
      | some v => .ok v
      | none => .error (.undefined n)

/-- The value of a call; an environment may hide a function by a double, which cannot be called. -/
def apply (env : Environment) (f : Builtin) (args : List Value) : Except Failure Value :=
  match env.find? f.name with
  | some x => .error (.fault (.notCallable (Value.double x).kind))
  | none => lift (f.call args)

/-- The left operand decides a connective. -/
def decides : Connective → Value → Bool
  | .and, v => !v.isTrue
  | .or, v => v.isTrue

mutual

/-- The value of an expression. -/
def eval (env : Environment) : Expr → Except Failure Value
  | literal x => .ok (.double x)
  | truth b => .ok (.truth b)
  | name n => valueOf env n
  | unary op e => do lift (Value.unary op (← eval env e))
  | binary op l r => do
    let a ← eval env l
    let b ← eval env r
    lift (Value.binary op a b)
  | connective op l r => do
    let a ← eval env l
    if decides op a then return a else eval env r
  | comparison first links => do evalLinks env (← eval env first) links
  | call f args => do apply env f (← evalAll env args)

/-- The values of expressions, from left to right. -/
def evalAll (env : Environment) : List Expr → Except Failure (List Value)
  | [] => .ok []
  | e :: r => do
    let v ← eval env e
    let vs ← evalAll env r
    return v :: vs

/-- Whether the comparisons of a chain hold, from a left operand on. -/
def evalLinks (env : Environment) (left : Value) : List (Comparator × Expr) → Except Failure Value
  | [] => .ok (.truth true)
  | (op, e) :: r => do
    let right ← eval env e
    if ← lift (Value.compare op left right) then evalLinks env right r
    else return .truth false

end

end Expr

end GrowthGrammar
