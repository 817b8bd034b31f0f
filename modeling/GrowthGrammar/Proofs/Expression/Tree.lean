import GrowthGrammar.Expression.Evaluation
import GrowthGrammar.Proofs.Number.Written
import GrowthGrammar.Quantity
import GrowthGrammar.Text.Identifier

/-!
# Trees and their text

A `Tree` is an expression as one thinks of it, apart from any text: `Tree.value` is what it comes to,
by the operations on values alone.  `Tree.text` writes a tree.  An operand is put into parentheses
only if it binds looser than its place asks for, by the usual table of precedence, where operators
of a level group to the left and powers to the right.
-/

namespace GrowthGrammar

open GrowthGrammar.Number GrowthGrammar.Text

/-- A number that an expression may hold: finite and without a sign. -/
structure Literal where
  value : Float
  finite : magnitude value < infinityMagnitude
  unsigned : isNegative value = false

/-- A name in ASCII that is no reserved word. -/
structure Identifier where
  text : String
  isName : isVariableName text.toList = true
  ascii : ∀ c ∈ text.toList, c.toNat < 128

/-- The name of a function. -/
def Builtin.identifier (f : Builtin) : Identifier where
  text := f.name
  isName := by cases f <;> decide +kernel
  ascii := by cases f <;> simp [Builtin.name]

/-- An expression apart from its text.  A chain has at least one comparison. -/
inductive Tree where
  | number (x : Literal)
  | name (n : Identifier)
  | unary (op : UnaryOp) (e : Tree)
  | binary (op : BinaryOp) (l r : Tree)
  | connective (op : Connective) (l r : Tree)
  | comparison (first : Tree) (op : Comparator) (second : Tree) (rest : List (Comparator × Tree))
  | call (f : Builtin) (args : List Tree)

/-- Induction over a tree, with what holds of every operand of a chain and every argument. -/
@[elab_as_elim, induction_eliminator]
theorem Tree.induction {motive : Tree → Prop} (number : ∀ x, motive (number x))
    (name : ∀ n, motive (name n)) (unary : ∀ op e, motive e → motive (unary op e))
    (binary : ∀ op l r, motive l → motive r → motive (binary op l r))
    (connective : ∀ op l r, motive l → motive r → motive (connective op l r))
    (comparison : ∀ first op second rest, motive first → motive second →
      (∀ link ∈ rest, motive link.2) → motive (comparison first op second rest))
    (call : ∀ f args, (∀ e ∈ args, motive e) → motive (call f args)) (e : Tree) : motive e := by
  refine @Tree.rec motive (fun links => ∀ link ∈ links, motive link.2)
    (fun args => ∀ e ∈ args, motive e) (fun link => motive link.2)
    number name unary binary connective comparison call ?_ ?_ ?_ ?_ ?_ e
  · exact fun _ h => nomatch h
  · exact fun _ _ hlink hlinks => List.forall_mem_cons.2 ⟨hlink, hlinks⟩
  · exact fun _ h => nomatch h
  · exact fun _ _ he hes => List.forall_mem_cons.2 ⟨he, hes⟩
  · exact fun _ _ he => he

/-! ## Precedence -/

/-- How tight an operator binds to its operand. -/
def UnaryOp.level : UnaryOp → ℕ
  | not => 2
  | negative | positive => 6

/-- How tight an operator binds to its operands. -/
def BinaryOp.level : BinaryOp → ℕ
  | add | subtract => 4
  | multiply | divide | floorDivide | modulo => 5
  | power => 7

/-- The level that the left operand needs: the base of a power is no power and has no sign. -/
def BinaryOp.leftLevel : BinaryOp → ℕ
  | power => 8
  | op => op.level

/-- The level that the right operand needs: the exponent of a power may be one and have signs. -/
def BinaryOp.rightLevel : BinaryOp → ℕ
  | power => 6
  | op => op.level + 1

/-- How tight a comparison binds to its operands. -/
def Comparator.level : Comparator → ℕ
  | less | lessEqual | greater | greaterEqual | equal | notEqual => 3

/-- How tight a connective binds to its operands. -/
def Connective.level : Connective → ℕ
  | or => 0
  | and => 1

namespace Tree

/-- How tight the outermost operator of a tree binds. -/
def level : Tree → ℕ
  | unary op _ => op.level
  | binary op _ _ => op.level
  | connective op _ _ => op.level
  | comparison _ op _ _ => op.level
  | number _ | name _ | call _ _ => 8

end Tree

/-! ## Text -/

/-- The smallest parts of the text of a tree. -/
inductive Lexeme where
  | blank
  | comma
  | opening
  | closing
  | number (x : Literal)
  | word (n : Identifier)
  | unary (op : UnaryOp)
  | binary (op : BinaryOp)
  | connective (op : Connective)
  | comparator (op : Comparator)

namespace Tree

/-- The parts of an operand, in parentheses if it binds looser than its place needs. -/
def enclose (needed : ℕ) (e : Tree) (ls : List Lexeme) : List Lexeme :=
  if e.level < needed then .opening :: (ls ++ [.closing]) else ls

mutual

/-- The parts of the text of a tree. -/
def lexemes : Tree → List Lexeme
  | number x => [.number x]
  | name n => [.word n]
  | unary op e => .unary op :: enclose op.level e (lexemes e)
  | binary op l r =>
    enclose op.leftLevel l (lexemes l) ++
      .blank :: .binary op :: .blank :: enclose op.rightLevel r (lexemes r)
  | connective op l r =>
    enclose op.level l (lexemes l) ++
      .blank :: .connective op :: .blank :: enclose (op.level + 1) r (lexemes r)
  | comparison first op second rest =>
    enclose (op.level + 1) first (lexemes first) ++
      .blank :: .comparator op :: .blank :: (enclose (op.level + 1) second (lexemes second) ++
        linkLexemes rest)
  | call f args => .word f.identifier :: .opening :: (argumentLexemes args ++ [.closing])

/-- The parts of the comparisons behind the first one. -/
def linkLexemes : List (Comparator × Tree) → List Lexeme
  | [] => []
  | (op, e) :: r =>
    .blank :: .comparator op :: .blank :: (enclose (op.level + 1) e (lexemes e) ++ linkLexemes r)

/-- The parts of the arguments of a call. -/
def argumentLexemes : List Tree → List Lexeme
  | [] => []
  | e :: r => lexemes e ++ moreArgumentLexemes r

/-- The parts of the arguments behind the first one. -/
def moreArgumentLexemes : List Tree → List Lexeme
  | [] => []
  | e :: r => .comma :: .blank :: (lexemes e ++ moreArgumentLexemes r)

end

end Tree

/-- The two spellings of the operators. -/
inductive Spelling where
  | words
  | signs
deriving Repr, DecidableEq

/-- A spelling of the operators, and a way to write literals in decimal digits. -/
structure Style where
  spelling : Spelling
  number : Literal → List Char
  writes : ∀ x, Writes (magnitude x.value) (number x)

/-- The text of an operator in a spelling. -/
def UnaryOp.chars : Spelling → UnaryOp → List Char
  | _, negative => ['-']
  | _, positive => ['+']
  | .words, not => ['n', 'o', 't', ' ']
  | .signs, not => ['!']

/-- The text of an operator in a spelling. -/
def BinaryOp.chars : Spelling → BinaryOp → List Char
  | .signs, power => ['^']
  | _, op => op.sign.toList

/-- The text of a connective in a spelling. -/
def Connective.chars : Spelling → Connective → List Char
  | .words, and => ['a', 'n', 'd']
  | .words, or => ['o', 'r']
  | .signs, and => ['&', '&']
  | .signs, or => ['|', '|']

/-- The text of a part in a style. -/
def Lexeme.chars (s : Style) : Lexeme → List Char
  | blank => [' ']
  | comma => [',']
  | opening => ['(']
  | closing => [')']
  | number x => s.number x
  | word n => n.text.toList
  | unary op => op.chars s.spelling
  | binary op => op.chars s.spelling
  | connective op => op.chars s.spelling
  | comparator op => op.sign.toList

namespace Tree

/-- The text of a tree in a style. -/
def text (s : Style) (e : Tree) : List Char :=
  e.lexemes.flatMap (Lexeme.chars s)

/-! ## Meaning -/

/-- The names that mean the same without an environment, functions apart. -/
def constants : List (String × Value) :=
  [("pi", .double (Float.ofBits 0x400921FB54442D18)),
    ("e", .double (Float.ofBits 0x4005BF0A8B145769)), ("true", .truth true),
    ("false", .truth false)]

/-- What a name means without an environment. -/
def builtin? (n : String) : Option Value :=
  ((Builtin.ofName? n).map .function).or (constants.lookup n)

mutual

/-- What a tree comes to in an environment, unless an operation fails. -/
def value (env : Environment) : Tree → Option Value
  | number x => some (.double x.value)
  | name n => ((env.find? n.text).map .double).or (builtin? n.text)
  | unary op e => do (Value.unary op (← value env e)).toOption
  | binary op l r => do
    let a ← value env l
    let b ← value env r
    (Value.binary op a b).toOption
  | connective .and l r => do
    let a ← value env l
    if a.isTrue then value env r else some a
  | connective .or l r => do
    let a ← value env l
    if a.isTrue then some a else value env r
  | comparison first op second rest => do
    let a ← value env first
    let b ← value env second
    if ← (Value.compare op a b).toOption then chain env b rest else some (.truth false)
  | call f args => do
    let vs ← values env args
    -- A variable of the name of a function hides it, and its double cannot be called.
    if (env.find? f.name).isSome then none else (f.call vs).toOption

/-- Whether the comparisons of a chain hold, from a left operand on. -/
def chain (env : Environment) (a : Value) : List (Comparator × Tree) → Option Value
  | [] => some (.truth true)
  | (op, e) :: r => do
    let b ← value env e
    if ← (Value.compare op a b).toOption then chain env b r else some (.truth false)

/-- What the arguments of a call come to. -/
def values (env : Environment) : List Tree → Option (List Value)
  | [] => some []
  | e :: r => do
    let v ← value env e
    let vs ← values env r
    some (v :: vs)

end

mutual

/-- The variables of a tree. -/
def identifiers : Tree → List String
  | number _ => []
  | name n => [n.text]
  | unary _ e => identifiers e
  | binary _ l r => identifiers l ++ identifiers r
  | connective _ l r => identifiers l ++ identifiers r
  | comparison first _ second rest =>
    identifiers first ++ (identifiers second ++ linkIdentifiers rest)
  | call _ args => argumentIdentifiers args

/-- The variables of the operands of a chain behind the second one. -/
def linkIdentifiers : List (Comparator × Tree) → List String
  | [] => []
  | (_, e) :: r => identifiers e ++ linkIdentifiers r

/-- The variables of arguments. -/
def argumentIdentifiers : List Tree → List String
  | [] => []
  | e :: r => identifiers e ++ argumentIdentifiers r

end

/-- The tree answers yes or no by its outermost part. -/
def isLogical : Tree → Bool
  | comparison .. => true
  | connective .. => true
  | unary op _ => op == .not
  | name n => n.text == "true" || n.text == "false"
  | _ => false

end Tree

end GrowthGrammar
