import GrowthGrammar.Value.Complex

/-!
# Arithmetic on values

Two operands meet in the smaller of the three fields of numbers that holds both: integers (truth
values count as 0 and 1), doubles, or complex numbers.  `Value.binary` and `Value.unary` are the
operators; a fault says why there is no result.
-/

namespace GrowthGrammar

open GrowthGrammar.Number

/-- A value seen as a number. -/
inductive Quantum where
  | integer (n : Int)
  | double (x : Float)
  | complex (z : Complex)

namespace Quantum

/-- The number as a double; complex numbers are not asked. -/
def toFloat : Quantum → Except Fault Float
  | integer n => (ofInt? n).elim (.error .integerTooLarge) .ok
  | double x => .ok x
  | complex z => .ok z.re

/-- The number as a complex number. -/
def toComplex : Quantum → Except Fault Complex
  | complex z => .ok z
  | q => q.toFloat.map Complex.ofFloat

/-- The number is complex. -/
def isComplex : Quantum → Bool
  | complex _ => true
  | _ => false

end Quantum

/-- The number that a value is. -/
def Value.quantum? : Value → Option Quantum
  | .double x => some (.double x)
  | .integer n => some (.integer n)
  | .truth b => some (.integer (if b then 1 else 0))
  | .complex z => some (.complex z)
  | _ => none

/-! ## Powers of doubles -/

/-- The double is an odd whole number. -/
def isOdd (x : Float) : Bool :=
  match whole? x with
  | some n => n % 2 != 0
  | none => false

/-- The power of two doubles that are both numbers, one of them infinite. -/
def infinitePower (x y : Float) : Float :=
  match parts x, parts y with
  | _, .infinite _ =>
    let a := x.abs
    if a == 1 then 1
    else if (y > 0) == (a > 1) then infinity false
    else 0
  | _, _ =>
    if y > 0 then (if isOdd y then x else x.abs)
    else if isOdd y then withSign (isNegative x) 0
    else 0

/-- The power of two finite doubles, complex for a negative base with a fractional exponent. -/
def finitePower (x y : Float) : Except Fault Value :=
  if x == 0 then
    if y < 0 then .error .zeroToNegative else .ok (.double (if isOdd y then x else 0))
  else if x < 0 && (whole? y).isNone then
    (Complex.power (.ofFloat x) (.ofFloat y)).map .complex
  else
    let a := x.abs
    let p := if a == 1 then 1 else a.pow y
    if Complex.isInfinitePart p then .error .powerOverflow
    else .ok (.double (if x < 0 && isOdd y then -p else p))

/-- The power of two doubles. -/
def doublePower (x y : Float) : Except Fault Value :=
  if y == 0 then .ok (.double 1)
  else
    match parts x, parts y with
    | .notANumber, _ => .ok (.double x)
    | _, .notANumber => .ok (.double (if x == 1 then 1 else y))
    | .finite .., .finite .. => finitePower x y
    | _, _ => .ok (.double (infinitePower x y))

/-! ## Operators by field -/

/-- An operator on doubles. -/
def BinaryOp.onDoubles (op : BinaryOp) (x y : Float) : Except Fault Value :=
  match op with
  | .add => .ok (.double (x + y))
  | .subtract => .ok (.double (x - y))
  | .multiply => .ok (.double (x * y))
  | .divide => if y == 0 then .error .division else .ok (.double (x / y))
  | .floorDivide => if y == 0 then .error .floorDivision else .ok (.double (Number.floorDivide x y))
  | .modulo => if y == 0 then .error .modulo else .ok (.double (Number.modulo x y))
  | .power => doublePower x y

/-- An operator on integers. -/
def BinaryOp.onIntegers (op : BinaryOp) (a b : Int) : Except Fault Value :=
  match op with
  | .add => .ok (.integer (a + b))
  | .subtract => .ok (.integer (a - b))
  | .multiply => .ok (.integer (a * b))
  | .divide =>
    if b = 0 then .error .integerDivision
    else (intRatio? a b).elim (.error .quotientTooLarge) fun x => .ok (.double x)
  | .floorDivide => if b = 0 then .error .integerFloorDivision else .ok (.integer (a.fdiv b))
  | .modulo => if b = 0 then .error .integerModulo else .ok (.integer (a.fmod b))
  | .power =>
    if b < 0 then do doublePower (← (Quantum.integer a).toFloat) (← (Quantum.integer b).toFloat)
    else .ok (.integer (Int.pow a b.toNat))

/-- An operator on complex numbers, if it is one on them. -/
def BinaryOp.onComplex? (op : BinaryOp) : Option (Complex → Complex → Except Fault Complex) :=
  match op with
  | .add => some fun z w => .ok (z.add w)
  | .subtract => some fun z w => .ok (z.subtract w)
  | .multiply => some fun z w => .ok (z.multiply w)
  | .divide => some fun z w => (z.divide? w).elim (.error .complexDivision) .ok
  | .power => some Complex.power
  | .floorDivide | .modulo => none

namespace Value

/-- The fault of operands that an operator is not made for. -/
def refuse (op : BinaryOp) (l r : Value) : Fault :=
  .binaryKinds op l.kind r.kind

/-- The result of an arithmetic operator. -/
def binary (op : BinaryOp) (l r : Value) : Except Fault Value :=
  match l.quantum?, r.quantum? with
  | some (.integer a), some (.integer b) => op.onIntegers a b
  | some p, some q =>
    if p.isComplex || q.isComplex then
      match op.onComplex? with
      | some f => do .complex <$> f (← p.toComplex) (← q.toComplex)
      | none => .error (refuse op l r)
    else
      do op.onDoubles (← p.toFloat) (← q.toFloat)
  | _, _ => .error (refuse op l r)

/-- The value with its sign changed. -/
def negative (v : Value) : Except Fault Value :=
  match v.quantum? with
  | some (.integer n) => .ok (.integer (-n))
  | some (.double x) => .ok (.double (-x))
  | some (.complex z) => .ok (.complex ⟨-z.re, -z.im⟩)
  | none => .error (.unaryKind .negative v.kind)

/-- The value as a number. -/
def positive (v : Value) : Except Fault Value :=
  match v.quantum? with
  | some (.integer n) => .ok (.integer n)
  | some (.double x) => .ok (.double x)
  | some (.complex z) => .ok (.complex z)
  | none => .error (.unaryKind .positive v.kind)

/-- The result of an operator with one operand. -/
def unary (op : UnaryOp) (v : Value) : Except Fault Value :=
  match op with
  | .negative => v.negative
  | .positive => v.positive
  | .not => .ok (.truth !v.isTrue)

end Value

end GrowthGrammar
