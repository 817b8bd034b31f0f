import GrowthGrammar.Operator

/-!
# Phrases

A `Phrase` is what an expression text says by the rules of grammar alone.  Many more phrases are
well formed than are allowed in rules: those parts that no rule may use are kept as `Element`s, so
that a message can name them.
-/

namespace GrowthGrammar.Expression

/-- Parts of a phrase that no expression of a rule may have. -/
inductive Element where
  | tuple
  | list
  | dictionary
  | set
  | member
  | subscript
  | lambda
  | conditional
  | assignment
  | generator
  | listComprehension
  | setComprehension
  | dictionaryComprehension
  | yield
  | yieldFrom
  | await
  | starred
  | formatted
  | bitAnd
  | bitOr
  | bitXor
  | shiftLeft
  | shiftRight
  | matrixProduct
  | invert
  | is
  | isNot
  | isIn
  | notIn
deriving Repr, DecidableEq

/-- The name of an element in messages. -/
def Element.name : Element → String
  | tuple => "Tuple"
  | list => "List"
  | dictionary => "Dict"
  | set => "Set"
  | member => "Attribute"
  | subscript => "Subscript"
  | lambda => "Lambda"
  | conditional => "IfExp"
  | assignment => "NamedExpr"
  | generator => "GeneratorExp"
  | listComprehension => "ListComp"
  | setComprehension => "SetComp"
  | dictionaryComprehension => "DictComp"
  | yield => "Yield"
  | yieldFrom => "YieldFrom"
  | await => "Await"
  | starred => "Starred"
  | formatted => "JoinedStr"
  | bitAnd => "BitAnd"
  | bitOr => "BitOr"
  | bitXor => "BitXor"
  | shiftLeft => "LShift"
  | shiftRight => "RShift"
  | matrixProduct => "MatMult"
  | invert => "Invert"
  | is => "Is"
  | isNot => "IsNot"
  | isIn => "In"
  | notIn => "NotIn"

/-- What a text says.  An operator that is an `Element` is none of a rule's operators; the parts
of an `Element` are kept where the grammar asks for them. -/
inductive Phrase where
  | integer (n : Nat)
  | double (x : Float)
  | truth (b : Bool)
  /-- A literal that is no number. -/
  | constant
  | name (n : String)
  | unary (op : UnaryOp ⊕ Element) (p : Phrase)
  | binary (op : BinaryOp ⊕ Element) (l r : Phrase)
  | junction (op : Connective) (parts : List Phrase)
  | comparison (first : Phrase) (links : List ((Comparator ⊕ Element) × Phrase))
  | call (function : Phrase) (arguments : List Phrase) (named : Bool)
  | element (e : Element) (parts : List Phrase)

namespace Phrase

/-- The phrase is a starred one. -/
def isStarred : Phrase → Bool
  | element .starred _ => true
  | _ => false

mutual

/-- A loop may assign to the phrase. -/
def isTarget : Phrase → Bool
  | name _ => true
  | element .member _ => true
  | element .subscript _ => true
  | element .tuple ps => areTargets ps
  | element .list ps => areTargets ps
  | _ => false

/-- A loop may assign to the phrases, starred or not. -/
def areTargets : List Phrase → Bool
  | [] => true
  | element .starred [p] :: r => isTarget p && areTargets r
  | p :: r => isTarget p && areTargets r

end

end Phrase

end GrowthGrammar.Expression
