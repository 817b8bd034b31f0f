import GrowthGrammar.Operator
import GrowthGrammar.Value.Basic

/-!
# Expressions

An `Expr` is what the conditions and parameters of rules are made of.  Its variables are the names
in it; `Expr.names` are those that no built-in constant or function has.
-/

namespace GrowthGrammar

/-- An expression. -/
inductive Expr where
  | literal (x : Float)
  | truth (b : Bool)
  | name (n : String)
  | unary (op : UnaryOp) (e : Expr)
  | binary (op : BinaryOp) (l r : Expr)
  | connective (op : Connective) (l r : Expr)
  | comparison (first : Expr) (links : List (Comparator × Expr))
  | call (f : Builtin) (args : List Expr)

/-- The value that a name has without an environment. -/
def builtinValue? (n : String) : Option Value :=
  match Builtin.ofName? n with
  | some f => some (.function f)
  | none =>
    if n = "pi" then some (.double (Float.ofBits 0x400921FB54442D18))
    else if n = "e" then some (.double (Float.ofBits 0x4005BF0A8B145769))
    else if n = "true" then some (.truth true)
    else if n = "false" then some (.truth false)
    else if n = "__builtins__" then some .table
    else none

namespace Expr

mutual

/-- The variables of an expression from left to right; the names of called functions are none. -/
def occurring : Expr → List String
  | literal _ => []
  | truth _ => []
  | name n => [n]
  | unary _ e => occurring e
  | binary _ l r => occurring l ++ occurring r
  | connective _ l r => occurring l ++ occurring r
  | comparison first links => occurring first ++ linkVariables links
  | call _ args => listVariables args

/-- The variables of a list of expressions. -/
def listVariables : List Expr → List String
  | [] => []
  | e :: r => occurring e ++ listVariables r

/-- The variables of the operands in a chain of comparisons. -/
def linkVariables : List (Comparator × Expr) → List String
  | [] => []
  | (_, e) :: r => occurring e ++ linkVariables r

end

/-- The variables that are not built in, each once and in order. -/
def names (e : Expr) : List String :=
  ((e.occurring.filter fun n => (builtinValue? n).isNone).eraseDups).mergeSort (· ≤ ·)

/-- The expression answers yes or no by its form. -/
def isLogical : Expr → Bool
  | comparison .. => true
  | connective .. => true
  | unary .not _ => true
  | name n => n == "true" || n == "false"
  | _ => false

/-- Operands joined by a connective, which groups to the right. -/
def join (op : Connective) (e : Expr) : List Expr → Expr
  | [] => e
  | f :: r => connective op e (join op f r)

end Expr

end GrowthGrammar
