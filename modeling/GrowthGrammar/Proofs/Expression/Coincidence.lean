import GrowthGrammar.Proofs.Fallible
import GrowthGrammar.Quantity

/-!
# What an expression depends on

`Expr.identifiers` are all names that an expression holds: those of variables, of built-in constants
and of the functions that it calls.  Main lemma: environments that agree on them give it the same
value or the same failure (`Expr.eval_agree`).
-/

namespace GrowthGrammar

open Expression (Failure)

variable {env env' : Environment}

namespace Environment

/-- The environments give the same double, or none, to each of these names. -/
def Agree (names : List String) (env env' : Environment) : Prop :=
  ∀ n ∈ names, env.find? n = env'.find? n

theorem agree_append {names more : List String} :
    Agree (names ++ more) env env' ↔ Agree names env env' ∧ Agree more env env' := by
  simp only [Agree, List.mem_append, or_imp, forall_and]

theorem agree_cons {name : String} {names : List String} :
    Agree (name :: names) env env' ↔ env.find? name = env'.find? name ∧ Agree names env env' := by
  simp only [Agree, List.forall_mem_cons]

end Environment

namespace Expr

open Environment (Agree agree_append agree_cons)

mutual

/-- The names that an expression holds, those of called functions among them. -/
def identifiers : Expr → List String
  | literal _ => []
  | truth _ => []
  | name n => [n]
  | unary _ e => identifiers e
  | binary _ l r => identifiers l ++ identifiers r
  | connective _ l r => identifiers l ++ identifiers r
  | comparison first links => identifiers first ++ linkIdentifiers links
  | call f args => f.name :: listIdentifiers args

/-- The names that a list of expressions holds. -/
def listIdentifiers : List Expr → List String
  | [] => []
  | e :: r => identifiers e ++ listIdentifiers r

/-- The names that the operands in a chain of comparisons hold. -/
def linkIdentifiers : List (Comparator × Expr) → List String
  | [] => []
  | (_, e) :: r => identifiers e ++ linkIdentifiers r

end

theorem valueOf_agree {n : String} (h : env.find? n = env'.find? n) :
    valueOf env n = valueOf env' n := by
  rw [valueOf, valueOf, h]

theorem apply_agree {f : Builtin} (h : env.find? f.name = env'.find? f.name) (args : List Value) :
    apply env f args = apply env' f args := by
  rw [apply, apply, h]

mutual

/-- The value of an expression depends on its environment by the names that it holds. -/
theorem eval_agree : ∀ {e : Expr}, Agree e.identifiers env env' → eval env e = eval env' e
  | literal _, _ => rfl
  | truth _, _ => rfl
  | name n, h => by
    rw [identifiers, agree_cons] at h
    rw [eval, eval, valueOf_agree h.1]
  | unary op e, h => by
    rw [identifiers] at h
    rw [eval, eval, eval_agree h]
  | binary op l r, h => by
    rw [identifiers, agree_append] at h
    rw [eval, eval, eval_agree h.1, eval_agree h.2]
  | connective op l r, h => by
    rw [identifiers, agree_append] at h
    rw [eval, eval, eval_agree h.1, eval_agree h.2]
  | comparison first links, h => by
    rw [identifiers, agree_append] at h
    rw [eval, eval, eval_agree h.1]
    exact bind_congr fun left => evalLinks_agree h.2 left
  | call f args, h => by
    rw [identifiers, agree_cons] at h
    rw [eval, eval, evalAll_agree h.2]
    exact bind_congr fun values => apply_agree h.1 values

theorem evalAll_agree :
    ∀ {es : List Expr}, Agree (listIdentifiers es) env env' → evalAll env es = evalAll env' es
  | [], _ => rfl
  | e :: r, h => by
    rw [listIdentifiers, agree_append] at h
    rw [evalAll, evalAll, eval_agree h.1, evalAll_agree h.2]

theorem evalLinks_agree :
    ∀ {links : List (Comparator × Expr)}, Agree (linkIdentifiers links) env env' →
      ∀ left : Value, evalLinks env left links = evalLinks env' left links
  | [], _, _ => rfl
  | (op, e) :: r, h, left => by
    rw [linkIdentifiers, agree_append] at h
    rw [evalLinks, evalLinks, eval_agree h.1]
    refine bind_congr fun right => ?_
    simp only [evalLinks_agree h.2 right]

end

end Expr

/-! ## Quantities and conditions -/

theorem Quantity.evaluate_agree {q : Quantity}
    (h : Environment.Agree q.expr.identifiers env env') : q.evaluate env = q.evaluate env' := by
  rw [evaluate, evaluate, Expr.value, Expr.value, Expr.eval_agree h]

theorem Condition.holds_agree {c : Condition}
    (h : Environment.Agree c.expr.identifiers env env') : c.holds env = c.holds env' := by
  rw [holds, holds, Expr.value, Expr.value, Expr.eval_agree h]

end GrowthGrammar
