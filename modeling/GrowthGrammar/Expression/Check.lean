import GrowthGrammar.Error.Expression
import GrowthGrammar.Expression.Basic
import GrowthGrammar.Expression.Phrase
import GrowthGrammar.Number.Double

/-!
# Which phrases are expressions

`Phrase.check` turns a phrase into an expression, or finds what keeps it from being one.  Findings
are ordered: first what the form of the phrase shows, from the outermost part inwards and from
left to right; then literals that are too large; then names that no variable can have.
-/

namespace GrowthGrammar.Expression

open GrowthGrammar.Number

/-- What keeps a phrase from being an expression. -/
inductive Obstacle where
  | refusal (r : Refusal)
  | reservedName (name : String)

/-- The order in which findings count. -/
inductive Rank where
  | form (depth : Nat)
  | literal
  | name
deriving Repr, DecidableEq

/-- A finding of the first rank comes before one of the second. -/
def Rank.before : Rank → Rank → Bool
  | form a, form b => a < b
  | form _, _ => true
  | literal, name => true
  | _, _ => false

/-- An obstacle and its rank. -/
structure Finding where
  rank : Rank
  obstacle : Obstacle

/-- Two results, or the finding that comes first; of two of one rank it is the left one. -/
def both {α β : Type} : Except Finding α → Except Finding β → Except Finding (α × β)
  | .ok x, .ok y => .ok (x, y)
  | .ok _, .error g => .error g
  | .error f, .ok _ => .error f
  | .error f, .error g => .error (if g.rank.before f.rank then g else f)

/-- The operator at a depth, unless it is none of a rule's operators. -/
def known {α : Type} (depth : Nat) : α ⊕ Element → Except Finding α
  | .inl op => .ok op
  | .inr e => .error ⟨.form depth, .refusal (.unsupported e)⟩

/-- The operators of a chain of comparisons. -/
def knownLinks (depth : Nat) :
    List ((Comparator ⊕ Element) × Phrase) → Except Finding (List Comparator)
  | [] => .ok []
  | (op, _) :: r => (both (known depth op) (knownLinks depth r)).map fun (c, cs) => c :: cs

/-- The words for constants, which no variable can have as its name. -/
def constantWords : List String :=
  ["True", "False", "None"]

namespace Phrase

mutual

/-- The expression that a phrase is. -/
def check (depth : Nat) : Phrase → Except Finding Expr
  | integer n =>
    match ofInt? n with
    | some x => .ok (.literal x)
    | none => .error ⟨.literal, .refusal .outOfRange⟩
  | double x => .ok (.literal x)
  | truth b => .ok (.truth b)
  | constant => .error ⟨.form depth, .refusal .notNumeric⟩
  | name n =>
    if n ∈ constantWords then .error ⟨.name, .reservedName n⟩ else .ok (.name n)
  | unary op p =>
    (both (known (depth + 1) op) (check (depth + 1) p)).map fun (op, e) => .unary op e
  | binary op l r =>
    (both (check (depth + 1) l) (both (known (depth + 1) op) (check (depth + 1) r))).map
      fun (l, op, r) => .binary op l r
  | junction op ps =>
    (checkAll (depth + 1) ps).map fun
      | [] => .truth true
      | e :: es => Expr.join op e es
  | comparison p links =>
    (both (check (depth + 1) p) (both (knownLinks (depth + 1) links)
      (checkLinks (depth + 1) links))).map fun (e, cs, es) => .comparison e (cs.zip es)
  | call p ps named =>
    match p with
    | name n =>
      match Builtin.ofName? n with
      | some f =>
        if named then .error ⟨.form depth, .refusal .namedArguments⟩
        else (checkAll (depth + 1) ps).map fun es => .call f es
      | none => .error ⟨.form depth, .refusal .unknownFunction⟩
    | _ => .error ⟨.form depth, .refusal .unknownFunction⟩
  | element e _ => .error ⟨.form depth, .refusal (.unsupported e)⟩

/-- The expressions that phrases are. -/
def checkAll (depth : Nat) : List Phrase → Except Finding (List Expr)
  | [] => .ok []
  | p :: r => (both (check depth p) (checkAll depth r)).map fun (e, es) => e :: es

/-- The expressions that the operands in a chain of comparisons are. -/
def checkLinks (depth : Nat) :
    List ((Comparator ⊕ Element) × Phrase) → Except Finding (List Expr)
  | [] => .ok []
  | (_, p) :: r => (both (check depth p) (checkLinks depth r)).map fun (e, es) => e :: es

end

end Phrase

end GrowthGrammar.Expression
