import GrowthGrammar.Number.Power

/-!
# Doubles taken apart and put together

`parts` decodes the bits of a double into sign, significand and exponent, and `ratioMagnitude` is
the way back: the bits of the double nearest to a quotient of natural numbers.  Everything between
the two is exact arithmetic, so whole numbers, quotients, remainders and roundings of doubles are
functions on natural numbers and integers here.
-/

namespace GrowthGrammar.Number

/-! ## Taking apart -/

/-- What a double stands for: `± significand · 2 ^ exponent`, an infinity, or no number. -/
inductive Parts where
  | finite (negative : Bool) (significand : Nat) (exponent : Int)
  | infinite (negative : Bool)
  | notANumber
deriving Repr, DecidableEq

/-- The parts that a sign and the 63 bits below it encode. -/
def Parts.ofMagnitude (negative : Bool) (magnitude : Nat) : Parts :=
  let field : Nat := magnitude / twoTo 52
  let fraction : Nat := magnitude % twoTo 52
  if field = 2047 then
    if fraction = 0 then .infinite negative else .notANumber
  else if field = 0 then .finite negative fraction (-1074)
  else .finite negative (twoTo 52 + fraction) ((field : Int) - 1075)

/-- The sign bit of a double. -/
def isNegative (x : Float) : Bool :=
  twoTo 63 ≤ x.toBits.toNat

/-- The bits of a double below its sign. -/
def magnitude (x : Float) : Nat :=
  x.toBits.toNat % twoTo 63

/-- The parts of a double. -/
def parts (x : Float) : Parts :=
  .ofMagnitude (isNegative x) (magnitude x)

/-! ## Putting together -/

/-- The magnitude of the infinities. -/
def infinityMagnitude : Nat :=
  2047 * twoTo 52

/-- The double with a sign and a magnitude. -/
def ofMagnitude (negative : Bool) (magnitude : Nat) : Float :=
  Float.ofBits (.ofNat (if negative then twoTo 63 + magnitude else magnitude))

/-- The whole number nearest to a quotient; a half goes to the even neighbour. -/
def roundHalfEven (num den : Nat) : Nat :=
  let q := num / den
  match compare (2 * (num % den)) den with
  | .lt => q
  | .eq => q + q % 2
  | .gt => q + 1

/-- The exponent of the highest power of two that is at most the quotient of positive numbers. -/
def binaryExponent (num den : Nat) : Int :=
  let shift := den.log2 + 1
  ((num * twoTo shift / den).log2 : Int) - shift

/-- The magnitude of the double nearest to a quotient; a half goes to the even significand, and a
quotient beyond the largest double to infinity. -/
def ratioMagnitude (num den : Nat) : Nat :=
  if num = 0 then 0
  else
    let e := max (binaryExponent num den - 52) (-1074)
    let significand := roundHalfEven (num * twoTo (-e)) (den * twoTo e)
    min ((e + 1074).toNat * twoTo 52 + significand) infinityMagnitude

/-- The double nearest to a quotient with a sign. -/
def ofRatio (negative : Bool) (num den : Nat) : Float :=
  ofMagnitude negative (ratioMagnitude num den)

/-- The double `± m · 2 ^ q`, rounded if it is none. -/
def ofScaled (negative : Bool) (m : Nat) (q : Int) : Float :=
  ofRatio negative (m * twoTo q) (twoTo (-q))

/-- The double nearest to an integer, unless the integer is beyond all doubles. -/
def ofInt? (n : Int) : Option Float :=
  let m := ratioMagnitude n.natAbs 1
  if m = infinityMagnitude then none else some (ofMagnitude (n < 0) m)

/-- The infinity of a sign. -/
def infinity (negative : Bool) : Float :=
  ofMagnitude negative infinityMagnitude

/-- The double that is no number. -/
def notANumber : Float :=
  Float.ofBits 0x7FF8000000000000

/-- The double with the magnitude of one and the sign of another. -/
def withSign (negative : Bool) (x : Float) : Float :=
  if isNegative x = negative then x else -x

/-! ## Whole numbers -/

/-- The integer that the parts stand for, if they stand for one. -/
def Parts.whole? : Parts → Option Int
  | .finite negative m q =>
    let den := twoTo (-q)
    if m % den = 0 then
      let n : Nat := m / den * twoTo q
      some (if negative then -(n : Int) else n)
    else
      none
  | _ => none

/-- The integer that a double is, if it is one. -/
def whole? (x : Float) : Option Int :=
  (parts x).whole?

/-- The numerator with its sign and the denominator of `± m · 2 ^ q`. -/
def signedRatio (negative : Bool) (m : Nat) (q : Int) : Int × Nat :=
  let num : Nat := m * twoTo q
  (if negative then -(num : Int) else num, twoTo (-q))

/-- The largest integer that is at most the double; `none` where there is none. -/
def floor? (x : Float) : Option Int :=
  match parts x with
  | .finite negative m q => let (n, d) := signedRatio negative m q; some (n.fdiv d)
  | _ => none

/-- The smallest integer that is at least the double; `none` where there is none. -/
def ceil? (x : Float) : Option Int :=
  match parts x with
  | .finite negative m q => let (n, d) := signedRatio negative m q; some (-(-n).fdiv d)
  | _ => none

/-- The integer toward zero; `none` where there is none. -/
def truncate? (x : Float) : Option Int :=
  match parts x with
  | .finite negative m q => let (n, d) := signedRatio negative m q; some (n.tdiv d)
  | _ => none

/-- How an integer compares with a double, exactly; `none` for no number. -/
def compareInt (n : Int) (x : Float) : Option Ordering :=
  match parts x with
  | .finite negative m q => let (a, d) := signedRatio negative m q; some (compare (n * d) a)
  | .infinite negative => some (if negative then .gt else .lt)
  | .notANumber => none

/-! ## Division -/

/-- What is left of `x` after taking off `y` as often as it fits, with the sign of `x`; exact. -/
def remainder (x y : Float) : Float :=
  match parts x, parts y with
  | .finite s m q, .finite _ n r =>
    if n = 0 then notANumber
    else
      let e := min q r
      ofScaled s (m * twoTo (q - e) % (n * twoTo (r - e))) e
  | .finite .., .infinite _ => x
  | _, _ => notANumber

/-- The largest whole double that is at most the double. -/
def floor (x : Float) : Float :=
  match floor? x with
  | some n => ofRatio (isNegative x) n.natAbs 1
  | none => x

/-- The remainder with the sign of the divisor. -/
def modulo (x y : Float) : Float :=
  let r := remainder x y
  if r == 0 then withSign (isNegative y) 0
  else if (y < 0) != (r < 0) then r + y
  else r

/-- The quotient rounded down, in step with `modulo`. -/
def floorDivide (x y : Float) : Float :=
  let r := remainder x y
  let d := (x - r) / y
  let d := if r != 0 && (y < 0) != (r < 0) then d - 1 else d
  if d == 0 then withSign (isNegative (x / y)) 0
  else
    let f := floor d
    if d - f > 0.5 then f + 1 else f

/-- The double nearest to a quotient of integers; `none` where it is beyond all doubles. -/
def intRatio? (a b : Int) : Option Float :=
  let m := ratioMagnitude a.natAbs b.natAbs
  if m = infinityMagnitude then none else some (ofMagnitude ((a < 0) != (b < 0)) m)

/-! ## Roots -/

/-- The double nearest to the length of the vector with two given sides. -/
def hypotenuse (x y : Float) : Float :=
  match parts x, parts y with
  | .infinite _, _ => infinity false
  | _, .infinite _ => infinity false
  | .finite _ m q, .finite _ n r =>
    let e := min q r
    let a := m * twoTo (q - e)
    let b := n * twoTo (r - e)
    let square := a * a + b * b
    let root := Nat.sqrt (square * twoTo 128)
    let sticky := if root * root = square * twoTo 128 then 0 else 1
    ofScaled false (2 * root + sticky) (e - 65)
  | _, _ => notANumber

end GrowthGrammar.Number
