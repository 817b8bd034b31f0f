import GrowthGrammar.Expression.Phrase
import GrowthGrammar.Expression.Token

/-!
# The grammar of expressions

`Phrase.ofTokens?` reads a phrase from its tokens.  Each rule of the grammar is a function that
takes tokens from the front and leaves the rest: a connective binds weaker than `not`, this weaker
than a comparison, then come six levels of binary operators, the signs, and powers.  Every rule
that calls another one without taking a token calls one further down, so that the fuel of
`ofText?`, a multiple of the text's length, is enough.
-/

namespace GrowthGrammar.Expression

open GrowthGrammar.Text

/-! ## Operators -/

/-- The token is this mark. -/
def Token.isMark (m : String) : Token → Bool
  | .mark k => k == m
  | _ => false

/-- The binary operators of a level; the levels bind tighter from 0 to 5. -/
def levelOperators : Nat → List (String × (BinaryOp ⊕ Element))
  | 0 => [("|", .inr .bitOr)]
  | 1 => [("^", .inr .bitXor)]
  | 2 => [("&", .inr .bitAnd)]
  | 3 => [("<<", .inr .shiftLeft), (">>", .inr .shiftRight)]
  | 4 => [("+", .inl .add), ("-", .inl .subtract)]
  | 5 =>
    [("*", .inl .multiply), ("/", .inl .divide), ("//", .inl .floorDivide), ("%", .inl .modulo),
      ("@", .inr .matrixProduct)]
  | _ => []

/-- The binary operator that a token is on a level. -/
def operatorAt (level : Nat) : Token → Option (BinaryOp ⊕ Element)
  | .mark m => (levelOperators level).lookup m
  | _ => none

/-- The sign in front of an operand. -/
def signOf : Token → Option (UnaryOp ⊕ Element)
  | .mark "-" => some (.inl .negative)
  | .mark "+" => some (.inl .positive)
  | .mark "~" => some (.inr .invert)
  | _ => none

/-- The comparisons that are marks. -/
def comparators : List (String × Comparator) :=
  [("<", .less), ("<=", .lessEqual), (">", .greater), (">=", .greaterEqual), ("==", .equal),
    ("!=", .notEqual)]

/-- The comparison at the head of the tokens. -/
def comparatorAt : List Token → Option ((Comparator ⊕ Element) × List Token)
  | .mark m :: r => (comparators.lookup m).map fun c => (.inl c, r)
  | .keyword "in" :: r => some (.inr .isIn, r)
  | .keyword "not" :: .keyword "in" :: r => some (.inr .notIn, r)
  | .keyword "is" :: .keyword "not" :: r => some (.inr .isNot, r)
  | .keyword "is" :: r => some (.inr .is, r)
  | _ => none

/-- The word of a connective. -/
def connectiveWord : Connective → String
  | .and => "and"
  | .or => "or"

/-- The tokens begin with the word of a connective; the tokens behind it. -/
def afterConnective (op : Connective) : List Token → Option (List Token)
  | .keyword w :: r => if w = connectiveWord op then some r else none
  | _ => none

/-! ## Arguments and parameters -/

/-- Which arguments may follow in a call. -/
inductive ArgumentStage where
  | first
  | positional
  | named
  | unpacked
deriving Repr, DecidableEq

/-- Which parameters may follow in a function without a name. -/
inductive ParameterStage where
  | front (some defaulted slashed : Bool)
  | behindStar (waiting : Bool)
  | done
deriving Repr, DecidableEq

/-- A parameter without a default may follow; what may follow it. -/
def ParameterStage.plain? : ParameterStage → Option ParameterStage
  | front _ defaulted slashed => if defaulted then none else some (front true false slashed)
  | behindStar _ => some (behindStar false)
  | done => none

/-- A parameter with a default may follow; what may follow it. -/
def ParameterStage.defaulted? : ParameterStage → Option ParameterStage
  | front _ _ slashed => some (front true true slashed)
  | behindStar _ => some (behindStar false)
  | done => none

/-- The slash behind positional parameters may follow; what may follow it. -/
def ParameterStage.slash? : ParameterStage → Option ParameterStage
  | front true defaulted false => some (front true defaulted true)
  | _ => none

/-- The star may follow, alone or with a name; what may follow it. -/
def ParameterStage.star? (alone : Bool) : ParameterStage → Option ParameterStage
  | front .. => some (behindStar alone)
  | _ => none

/-- No parameter is missing. -/
def ParameterStage.complete : ParameterStage → Bool
  | behindStar waiting => !waiting
  | _ => true

/-- The tokens begin an expression that is neither starred nor named. -/
def opensPlain : List Token → Bool
  | .mark "*" :: _ => false
  | .name _ :: .mark ":=" :: _ => false
  | _ => true

/-- The quotations at the head of the tokens. -/
def quotations : List Token → List Quotation × List Token
  | .quotation q :: r => let (qs, t) := quotations r; (q :: qs, t)
  | ts => ([], ts)

/-- Quotations in a row are all of bytes or none. -/
def agree (qs : List Quotation) : Bool :=
  qs.all (·.bytes) || qs.all (!·.bytes)

/-! ## Rules -/

mutual

/-- An expression: a function without a name, a choice by a condition, or a disjunction. -/
def expression : Nat → List Token → Option (Phrase × List Token)
  | 0, _ => none
  | n + 1, ts =>
    match ts with
    | .keyword "lambda" :: r => do
      let (_, r) ← parameters n (.front false false false) r
      some (.element .lambda [], r)
    | ts => do
      let (p, r) ← junction n .or ts
      match r with
      | .keyword "if" :: r => do
        let (_, r) ← junction n .or r
        match r with
        | .keyword "else" :: r => do
          let (_, r) ← expression n r
          some (.element .conditional [], r)
        | _ => none
      | r => some (p, r)

/-- The parameters of a function without a name, and its body. -/
def parameters : Nat → ParameterStage → List Token → Option (Unit × List Token)
  | 0, _, _ => none
  | n + 1, stage, ts =>
    match ts with
    | .mark ":" :: r =>
      if stage.complete then do
        let (_, r) ← expression n r
        some ((), r)
      else none
    | .mark "/" :: r => do moreParameters n (← stage.slash?) r
    | .mark "*" :: .mark "," :: r => do parameters n (← stage.star? true) r
    | .mark "*" :: .name _ :: r => do moreParameters n (← stage.star? false) r
    | .mark "**" :: .name _ :: r =>
      if stage.complete && stage != .done then moreParameters n .done r else none
    | .name _ :: .mark "=" :: r => do
      let stage ← stage.defaulted?
      let (_, r) ← expression n r
      moreParameters n stage r
    | .name _ :: r => do moreParameters n (← stage.plain?) r
    | _ => none

/-- What follows a parameter: a comma, or the colon in front of the body. -/
def moreParameters : Nat → ParameterStage → List Token → Option (Unit × List Token)
  | 0, _, _ => none
  | n + 1, stage, ts =>
    match ts with
    | .mark "," :: r => parameters n stage r
    | .mark ":" :: r => parameters n stage (.mark ":" :: r)
    | _ => none

/-- Operands between connectives of one kind. -/
def junction : Nat → Connective → List Token → Option (Phrase × List Token)
  | 0, _, _ => none
  | n + 1, op, ts => do
    let (p, r) ← junctionOperand n op ts
    let (ps, r) ← moreOperands n op r
    some (if ps.isEmpty then p else .junction op (p :: ps), r)

/-- An operand of a connective. -/
def junctionOperand : Nat → Connective → List Token → Option (Phrase × List Token)
  | 0, _, _ => none
  | n + 1, .or, ts => junction n .and ts
  | n + 1, .and, ts => inversion n ts

/-- The operands behind the first one. -/
def moreOperands : Nat → Connective → List Token → Option (List Phrase × List Token)
  | 0, _, _ => none
  | n + 1, op, ts =>
    match afterConnective op ts with
    | some r => do
      let (p, r) ← junctionOperand n op r
      let (ps, r) ← moreOperands n op r
      some (p :: ps, r)
    | none => some ([], ts)

/-- A comparison, denied any number of times. -/
def inversion : Nat → List Token → Option (Phrase × List Token)
  | 0, _ => none
  | n + 1, ts =>
    match ts with
    | .keyword "not" :: r => do
      let (p, r) ← inversion n r
      some (.unary (.inl .not) p, r)
    | ts => do
      let (p, r) ← operation n 0 ts
      let (links, r) ← comparisonLinks n r
      some (if links.isEmpty then p else .comparison p links, r)

/-- The comparisons behind the first operand. -/
def comparisonLinks :
    Nat → List Token → Option (List ((Comparator ⊕ Element) × Phrase) × List Token)
  | 0, _ => none
  | n + 1, ts =>
    match comparatorAt ts with
    | some (c, r) => do
      let (p, r) ← operation n 0 r
      let (links, r) ← comparisonLinks n r
      some ((c, p) :: links, r)
    | none => some ([], ts)

/-- Operands between the operators of a level. -/
def operation : Nat → Nat → List Token → Option (Phrase × List Token)
  | 0, _, _ => none
  | n + 1, level, ts =>
    if level < 6 then do
      let (p, r) ← operation n (level + 1) ts
      moreOperations n level p r
    else signed n ts

/-- The operators and operands behind a left operand; operators of a level group to the left. -/
def moreOperations : Nat → Nat → Phrase → List Token → Option (Phrase × List Token)
  | 0, _, _, _ => none
  | n + 1, level, left, ts =>
    match ts with
    | [] => some (left, [])
    | t :: r =>
      match operatorAt level t with
      | some op => do
        let (right, r) ← operation n (level + 1) r
        moreOperations n level (.binary op left right) r
      | none => some (left, t :: r)

/-- A power with any number of signs in front. -/
def signed : Nat → List Token → Option (Phrase × List Token)
  | 0, _ => none
  | n + 1, ts =>
    match ts with
    | [] => none
    | t :: r =>
      match signOf t with
      | some op => do
        let (p, r) ← signed n r
        some (.unary op p, r)
      | none => power n (t :: r)

/-- A primary, or a power of one; the exponent may have signs. -/
def power : Nat → List Token → Option (Phrase × List Token)
  | 0, _ => none
  | n + 1, ts => do
    let (p, r) ← match ts with
      | .keyword "await" :: r => do
        let (_, r) ← primary n r
        some (Phrase.element .await [], r)
      | ts => primary n ts
    match r with
    | .mark "**" :: r => do
      let (q, r) ← signed n r
      some (.binary (.inl .power) p q, r)
    | r => some (p, r)

/-- An atom with the attributes, arguments and subscripts behind it. -/
def primary : Nat → List Token → Option (Phrase × List Token)
  | 0, _ => none
  | n + 1, ts => do
    let (p, r) ← atom n ts
    primaryTail n p r

/-- The attributes, arguments and subscripts behind a phrase. -/
def primaryTail : Nat → Phrase → List Token → Option (Phrase × List Token)
  | 0, _, _ => none
  | n + 1, p, ts =>
    match ts with
    | .mark "." :: .name _ :: r => primaryTail n (.element .member []) r
    | .mark "(" :: r => do
      let ((ps, named), r) ← arguments n .first r
      primaryTail n (.call p ps named) r
    | .mark "[" :: r => do
      let r ← slices n r
      primaryTail n (.element .subscript []) r
    | ts => some (p, ts)

/-- A name, a literal, or something in brackets. -/
def atom : Nat → List Token → Option (Phrase × List Token)
  | 0, _ => none
  | n + 1, ts =>
    match ts with
    | .name s :: r => some (.name s, r)
    | .integer k :: r => some (.integer k, r)
    | .double x :: r => some (.double x, r)
    | .imaginary :: r => some (.constant, r)
    | .keyword "True" :: r => some (.truth true, r)
    | .keyword "False" :: r => some (.truth false, r)
    | .keyword "None" :: r => some (.constant, r)
    | .mark "..." :: r => some (.constant, r)
    | .mark "(" :: r => parenthesised n r
    | .mark "[" :: r => bracketed n r
    | .mark "\x7b" :: r => braced n r
    | .quotation q :: r =>
      let (qs, r) := quotations r
      let qs := q :: qs
      if agree qs && areHoles n (qs.flatMap fun q => q.holes.getD []) then
        some (if qs.any (·.holes.isSome) then .element .formatted [] else .constant, r)
      else none
    | _ => none

/-- The texts are expressions that may stand in the holes of a quotation. -/
def areHoles : Nat → List (List Char) → Bool
  | 0, _ => false
  | _ + 1, [] => true
  | n + 1, h :: hs =>
    !isBlankText h &&
      (match Token.scan ('(' :: (h ++ [')'])) with
        | some (.mark "(" :: r) =>
          match parenthesised n r with
          | some (_, []) => true
          | _ => false
        | _ => false) &&
      areHoles n hs

/-- An expression, or an assignment to a name. -/
def namedExpression : Nat → List Token → Option (Phrase × List Token)
  | 0, _ => none
  | n + 1, ts =>
    match ts with
    | .name _ :: .mark ":=" :: r => do
      let (_, r) ← expression n r
      some (.element .assignment [], r)
    | ts => expression n ts

/-- An item of a tuple, list or set. -/
def item : Nat → List Token → Option (Phrase × List Token)
  | 0, _ => none
  | n + 1, ts =>
    match ts with
    | .mark "*" :: r => do
      let (p, r) ← operation n 0 r
      some (.element .starred [p], r)
    | ts => namedExpression n ts

/-- Items up to the closing bracket. -/
def items : Nat → String → List Token → Option (List Phrase × List Token)
  | 0, _, _ => none
  | n + 1, close, ts =>
    if (ts.head?.map (·.isMark close)).getD false then some ([], ts.tail)
    else do
      let (p, r) ← item n ts
      let (ps, r) ← moreItems n close r
      some (p :: ps, r)

/-- What follows an item: a comma and further items, or the closing bracket. -/
def moreItems : Nat → String → List Token → Option (List Phrase × List Token)
  | 0, _, _ => none
  | n + 1, close, ts =>
    match ts with
    | .mark m :: r => if m = close then some ([], r) else if m = "," then items n close r else none
    | _ => none

/-- What follows an opening parenthesis. -/
def parenthesised : Nat → List Token → Option (Phrase × List Token)
  | 0, _ => none
  | n + 1, ts =>
    match ts with
    | .mark ")" :: r => some (.element .tuple [], r)
    | .keyword "yield" :: r => yielded n r
    | ts => do
      let (p, r) ← item n ts
      match r with
      | .mark ")" :: r => if p.isStarred then none else some (p, r)
      | .mark "," :: r => do
        let (ps, r) ← items n ")" r
        some (.element .tuple (p :: ps), r)
      | r => if p.isStarred then none else comprehension n ")" .generator r

/-- What follows the word `yield`, up to the closing parenthesis. -/
def yielded : Nat → List Token → Option (Phrase × List Token)
  | 0, _ => none
  | n + 1, ts =>
    match ts with
    | .mark ")" :: r => some (.element .yield [], r)
    | .keyword "from" :: r => do
      let (_, r) ← expression n r
      match r with
      | .mark ")" :: r => some (.element .yieldFrom [], r)
      | _ => none
    | ts => do
      let (_, r) ← match ts with
        | .mark "*" :: r => operation n 0 r
        | ts => expression n ts
      match r with
      | .mark ")" :: r => some (.element .yield [], r)
      | .mark "," :: .mark ")" :: r => some (.element .yield [], r)
      | .mark "," :: .keyword "from" :: _ => none
      | .mark "," :: r => yielded n r
      | _ => none

/-- What follows an opening bracket. -/
def bracketed : Nat → List Token → Option (Phrase × List Token)
  | 0, _ => none
  | n + 1, ts =>
    match ts with
    | .mark "]" :: r => some (.element .list [], r)
    | ts => do
      let (p, r) ← item n ts
      collection n "]" .list .listComprehension p r

/-- What follows the first item of a list or set. -/
def collection :
    Nat → String → Element → Element → Phrase → List Token → Option (Phrase × List Token)
  | 0, _, _, _, _, _ => none
  | n + 1, close, whole, looped, p, ts =>
    match moreItems n close ts with
    | some (ps, r) => some (.element whole (p :: ps), r)
    | none => if p.isStarred then none else comprehension n close looped ts

/-- What follows an opening brace. -/
def braced : Nat → List Token → Option (Phrase × List Token)
  | 0, _ => none
  | n + 1, ts =>
    match ts with
    | .mark "\x7d" :: r => some (.element .dictionary [], r)
    | .mark "**" :: r => do
      let (_, r) ← operation n 0 r
      morePairs n r
    | ts => do
      let (p, r) ← item n ts
      match r with
      | .mark ":" :: r =>
        if opensPlain ts then do
          let (_, r) ← expression n r
          match r with
          | .mark _ :: _ => morePairs n r
          | r => comprehension n "\x7d" .dictionaryComprehension r
        else none
      | r => collection n "\x7d" .set .setComprehension p r

/-- Pairs up to the closing brace. -/
def pairs : Nat → List Token → Option (Phrase × List Token)
  | 0, _ => none
  | n + 1, ts =>
    match ts with
    | .mark "\x7d" :: r => some (.element .dictionary [], r)
    | .mark "**" :: r => do
      let (_, r) ← operation n 0 r
      morePairs n r
    | ts => do
      let (_, r) ← expression n ts
      match r with
      | .mark ":" :: r => do
        let (_, r) ← expression n r
        morePairs n r
      | _ => none

/-- What follows a pair: a comma and further pairs, or the closing brace. -/
def morePairs : Nat → List Token → Option (Phrase × List Token)
  | 0, _ => none
  | n + 1, ts =>
    match ts with
    | .mark "\x7d" :: r => some (.element .dictionary [], r)
    | .mark "," :: r => pairs n r
    | _ => none

/-- Loops and conditions up to the closing bracket. -/
def comprehension : Nat → String → Element → List Token → Option (Phrase × List Token)
  | 0, _, _, _ => none
  | n + 1, close, e, ts => do
    let r ← loops n ts
    match r with
    | .mark m :: r => if m = close then some (.element e [], r) else none
    | _ => none

/-- A loop, and those behind it. -/
def loops : Nat → List Token → Option (List Token)
  | 0, _ => none
  | n + 1, ts =>
    match ts with
    | .keyword "async" :: .keyword "for" :: r => loop n r
    | .keyword "for" :: r => loop n r
    | _ => none

/-- A loop behind its first word. -/
def loop : Nat → List Token → Option (List Token)
  | 0, _ => none
  | n + 1, ts => do
    let r ← targets n ts
    let (_, r) ← junction n .or r
    moreLoops n r

/-- The conditions of a loop, and the loops behind it. -/
def moreLoops : Nat → List Token → Option (List Token)
  | 0, _ => none
  | n + 1, ts =>
    match ts with
    | .keyword "if" :: r => do
      let (_, r) ← junction n .or r
      moreLoops n r
    | .keyword "for" :: r => loop n r
    | .keyword "async" :: r => loops n (.keyword "async" :: r)
    | ts => some ts

/-- The targets of a loop up to the word `in`. -/
def targets : Nat → List Token → Option (List Token)
  | 0, _ => none
  | n + 1, ts => do
    let (p, r) ← match ts with
      | .mark "*" :: r => primary n r
      | ts => primary n ts
    if p.isTarget then
      match r with
      | .keyword "in" :: r => some r
      | .mark "," :: .keyword "in" :: r => some r
      | .mark "," :: r => targets n r
      | _ => none
    else none

/-- The arguments of a call up to the closing parenthesis, and whether some have a name. -/
def arguments : Nat → ArgumentStage → List Token → Option ((List Phrase × Bool) × List Token)
  | 0, _, _ => none
  | n + 1, stage, ts =>
    match ts with
    | .mark ")" :: r => some (([], false), r)
    | .mark "*" :: r =>
      if stage = .unpacked then none
      else do
        let (p, r) ← expression n r
        let ((ps, named), r) ← moreArguments n (if stage = .first then .positional else stage) r
        some ((.element .starred [p] :: ps, named), r)
    | .mark "**" :: r => do
      let (_, r) ← expression n r
      let ((ps, _), r) ← moreArguments n .unpacked r
      some ((ps, true), r)
    | .name _ :: .mark "=" :: r => do
      let (_, r) ← expression n r
      let ((ps, _), r) ← moreArguments n (if stage = .unpacked then .unpacked else .named) r
      some ((ps, true), r)
    | ts =>
      if stage = .first ∨ stage = .positional then do
        let (p, r) ← namedExpression n ts
        match r with
        | .mark _ :: _ => do
          let ((ps, named), r) ← moreArguments n .positional r
          some ((p :: ps, named), r)
        | r =>
          if stage = .first then do
            let (q, r) ← comprehension n ")" .generator r
            some (([q], false), r)
          else none
      else none

/-- What follows an argument: a comma and further arguments, or the closing parenthesis. -/
def moreArguments : Nat → ArgumentStage → List Token → Option ((List Phrase × Bool) × List Token)
  | 0, _, _ => none
  | n + 1, stage, ts =>
    match ts with
    | .mark ")" :: r => some (([], false), r)
    | .mark "," :: r => arguments n stage r
    | _ => none

/-- Subscripts up to the closing bracket. -/
def slices : Nat → List Token → Option (List Token)
  | 0, _ => none
  | n + 1, ts => do
    let r ← slice n ts
    match r with
    | .mark "]" :: r => some r
    | .mark "," :: .mark "]" :: r => some r
    | .mark "," :: r => slices n r
    | _ => none

/-- A subscript: an index, or a range with bounds. -/
def slice : Nat → List Token → Option (List Token)
  | 0, _ => none
  | n + 1, ts =>
    match ts with
    | .mark "*" :: r => do
      let (_, r) ← expression n r
      some r
    | .mark ":" :: r => range n r
    | ts => do
      let (_, r) ← namedExpression n ts
      match r with
      | .mark ":" :: r => if opensPlain ts then range n r else none
      | r => some r

/-- What follows the first colon of a range. -/
def range : Nat → List Token → Option (List Token)
  | 0, _ => none
  | n + 1, ts => do
    let r ← bound n ts
    match r with
    | .mark ":" :: r => bound n r
    | r => some r

/-- A bound of a range, which may be missing. -/
def bound : Nat → List Token → Option (List Token)
  | 0, _ => none
  | n + 1, ts =>
    match ts with
    | .mark ":" :: r => some (.mark ":" :: r)
    | .mark "]" :: r => some (.mark "]" :: r)
    | .mark "," :: r => some (.mark "," :: r)
    | ts => do
      let (_, r) ← expression n ts
      some r

end

/-- Nothing, or further expressions between commas. -/
def areExpressions : Nat → List Token → Bool
  | 0, _ => false
  | _ + 1, [] => true
  | n + 1, ts =>
    match expression n ts with
    | some (_, []) => true
    | some (_, .mark "," :: r) => areExpressions n r
    | _ => false

namespace Phrase

/-- The phrase that the tokens are. -/
def ofTokens? (fuel : Nat) (ts : List Token) : Option Phrase :=
  match expression fuel ts with
  | some (p, []) => some p
  | some (_, .mark "," :: r) => if areExpressions fuel r then some (.element .tuple []) else none
  | _ => none

/-- The phrase that a text is. -/
def ofText? (cs : List Char) : Option Phrase := do
  ofTokens? (24 * (cs.length + 1)) (← Token.scan cs)

end Phrase

end GrowthGrammar.Expression
