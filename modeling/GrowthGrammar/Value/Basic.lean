import GrowthGrammar.Number.Layout
import GrowthGrammar.Number.Numeral

/-!
# Values

A `Value` is what an expression comes to: a double, an integer of any size, a truth value, a complex
number, a built-in function, or the empty table.  Literals are doubles; integers come from counting
with truth values, and complex numbers from fractional powers of negative numbers.
-/

namespace GrowthGrammar

open GrowthGrammar.Number

/-- The functions that an expression may call. -/
inductive Builtin where
  | sin
  | cos
  | tan
  | asin
  | acos
  | atan
  | atan2
  | sqrt
  | abs
  | min
  | max
  | floor
  | ceil
  | round
  | log
  | exp
  | pow
deriving Repr, DecidableEq

namespace Builtin

/-- All functions. -/
def all : List Builtin :=
  [sin, cos, tan, asin, acos, atan, atan2, sqrt, abs, min, max, floor, ceil, round, log, exp, pow]

/-- The name by which an expression calls a function. -/
def name : Builtin → String
  | sin => "sin"
  | cos => "cos"
  | tan => "tan"
  | asin => "asin"
  | acos => "acos"
  | atan => "atan"
  | atan2 => "atan2"
  | sqrt => "sqrt"
  | abs => "abs"
  | min => "min"
  | max => "max"
  | floor => "floor"
  | ceil => "ceil"
  | round => "round"
  | log => "log"
  | exp => "exp"
  | pow => "pow"

/-- The function of a name. -/
def ofName? (n : String) : Option Builtin :=
  all.find? (·.name == n)

/-- Rounding to whole numbers is composed of other functions. -/
def isComposed : Builtin → Bool
  | floor | ceil | round => true
  | _ => false

end Builtin

/-- A complex number. -/
structure Complex where
  re : Float
  im : Float

/-- What an expression comes to. -/
inductive Value where
  | double (x : Float)
  | integer (n : Int)
  | truth (b : Bool)
  | complex (z : Complex)
  | function (f : Builtin)
  | table

namespace Value

/-- The name of the kind of a value in messages. -/
def kind : Value → String
  | double _ => "float"
  | integer _ => "int"
  | truth _ => "bool"
  | complex _ => "complex"
  | function f => if f.isComposed then "function" else "builtin_function_or_method"
  | table => "dict"

/-- The value counts as true: it is neither zero nor empty. -/
def isTrue : Value → Bool
  | double x => x != 0
  | integer n => n != 0
  | truth b => b
  | complex z => z.re != 0 || z.im != 0
  | function _ => true
  | table => false

/-- The value as a double, if it is a real number that has one. -/
def toFloat? : Value → Option Float
  | double x => some x
  | integer n => ofInt? n
  | truth b => some (if b then 1 else 0)
  | _ => none

/-- A complex number as it is written: without its real part if that is a zero without a sign. -/
def complexChars (z : Complex) : List Char :=
  let im := Layout.component.chars z.im
  if z.re == 0 && !isNegative z.re then im ++ ['j']
  else
    let sign := match im with
      | '-' :: _ => []
      | _ => ['+']
    '(' :: (Layout.component.chars z.re ++ sign ++ im ++ ['j', ')'])

/-- The value as a message shows it; an integer of too many digits is not shown. -/
def text? : Value → Option String
  | double x => some (Layout.standard.text x)
  | integer n => if digitLimit < digitCount n.natAbs then none else some (intText n)
  | truth b => some (if b then "True" else "False")
  | complex z => some (String.ofList (complexChars z))
  | function f =>
    some (if f.isComposed then "<function>" else "<built-in function " ++ f.name ++ ">")
  | table => some "\x7b\x7d"

end Value

/-! ## Laws -/

theorem Builtin.mem_all (f : Builtin) : f ∈ Builtin.all := by
  cases f <;> decide

theorem Builtin.ofName?_name (f : Builtin) : Builtin.ofName? f.name = some f := by
  cases f <;> decide

end GrowthGrammar
