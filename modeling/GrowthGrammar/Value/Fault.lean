import GrowthGrammar.Operator
import GrowthGrammar.Value.Basic

/-!
# Faults of operations

A `Fault` is why an operation or a function has no result at its operands.  Kinds of values are
given by their names in messages (`Value.kind`).
-/

namespace GrowthGrammar

/-- Why an operation has no result. -/
inductive Fault where
  /-- Division of integers by zero. -/
  | integerDivision
  | integerFloorDivision
  | integerModulo
  /-- Division of doubles by zero. -/
  | division
  | floorDivision
  | modulo
  | complexDivision
  /-- A power beyond all doubles. -/
  | powerOverflow
  | zeroToNegative
  | zeroToComplex
  | complexPowerOverflow
  /-- An integer, or the quotient of two, beyond all doubles. -/
  | integerTooLarge
  | quotientTooLarge
  /-- A function outside its domain, or with a result beyond all doubles. -/
  | domain
  | range
  | modulusTooLarge
  | roundedTooLarge
  | notANumberToInteger
  | infinityToInteger
  /-- Values of kinds that an operation is not made for. -/
  | unaryKind (op : UnaryOp) (kind : String)
  | binaryKinds (op : BinaryOp) (left right : String)
  | orderKinds (op : Comparator) (left right : String)
  | notReal (kind : String)
  | notIntegral (kind : String)
  | noModulus (kind : String)
  | noRounding (kind : String)
  | notCallable (kind : String)
  | notIterable (kind : String)
  | emptyChoice (f : Builtin)
  /-- A function called with so many arguments. -/
  | argumentCount (f : Builtin) (count : Nat)
deriving Repr, DecidableEq

namespace Fault

/-- How a function words the wrong number of arguments. -/
def argumentMessage (f : Builtin) (count : Nat) : String :=
  let n := toString count
  match f with
  | .abs => "abs() takes exactly one argument (" ++ n ++ " given)"
  | .min | .max => f.name ++ " expected at least 1 argument, got " ++ n
  | .atan2 | .pow => f.name ++ " expected 2 arguments, got " ++ n
  | .log => "math.log requires 1 to 2 arguments"
  | .floor | .ceil =>
    if count = 0 then "<lambda>() missing 1 required positional argument: 'x'"
    else "<lambda>() takes 1 positional argument but " ++ n ++ " were given"
  | .round =>
    if count = 0 then "<lambda>() missing 1 required positional argument: 'x'"
    else "<lambda>() takes from 1 to 2 positional arguments but " ++ n ++ " were given"
  | _ => "math." ++ f.name ++ "() takes exactly one argument (" ++ n ++ " given)"

/-- The sign of an operator where its operands are refused. -/
def operatorText : BinaryOp → String
  | .power => "** or pow()"
  | op => op.sign

/-- The wording of a fault. -/
def message : Fault → String
  | integerDivision => "division by zero"
  | integerFloorDivision => "integer division or modulo by zero"
  | integerModulo => "integer modulo by zero"
  | division => "float division by zero"
  | floorDivision => "float floor division by zero"
  | modulo => "float modulo"
  | complexDivision => "complex division by zero"
  | powerOverflow => "(34, 'Numerical result out of range')"
  | zeroToNegative => "0.0 cannot be raised to a negative power"
  | zeroToComplex => "0.0 to a negative or complex power"
  | complexPowerOverflow => "complex exponentiation"
  | integerTooLarge => "int too large to convert to float"
  | quotientTooLarge => "integer division result too large for a float"
  | domain => "math domain error"
  | range => "math range error"
  | modulusTooLarge => "absolute value too large"
  | roundedTooLarge => "rounded value too large to represent"
  | notANumberToInteger => "cannot convert float NaN to integer"
  | infinityToInteger => "cannot convert float infinity to integer"
  | unaryKind op kind => "bad operand type for unary " ++ op.sign ++ ": '" ++ kind ++ "'"
  | binaryKinds op left right =>
    "unsupported operand type(s) for " ++ operatorText op ++ ": '" ++ left ++ "' and '" ++ right ++
      "'"
  | orderKinds op left right =>
    "'" ++ op.sign ++ "' not supported between instances of '" ++ left ++ "' and '" ++ right ++ "'"
  | notReal kind => "must be real number, not " ++ kind
  | notIntegral kind =>
    "int() argument must be a string, a bytes-like object or a real number, not '" ++ kind ++ "'"
  | noModulus kind => "bad operand type for abs(): '" ++ kind ++ "'"
  | noRounding kind => "type " ++ kind ++ " doesn't define __round__ method"
  | notCallable kind => "'" ++ kind ++ "' object is not callable"
  | notIterable kind => "'" ++ kind ++ "' object is not iterable"
  | emptyChoice f => f.name ++ "() arg is an empty sequence"
  | argumentCount f count => argumentMessage f count

end Fault

end GrowthGrammar
