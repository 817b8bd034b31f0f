import GrowthGrammar.Number.Double
import GrowthGrammar.Value.Fault

/-!
# Complex numbers

The operations of complex numbers that expressions use, each in one fixed order of double
operations.  Whole exponents up to 100 are powers by repeated squaring; all others go through length
and angle.
-/

namespace GrowthGrammar.Complex

open GrowthGrammar.Number

/-- The complex number with no imaginary part. -/
def ofFloat (x : Float) : Complex :=
  ⟨x, 0⟩

/-- The sum. -/
def add (z w : Complex) : Complex :=
  ⟨z.re + w.re, z.im + w.im⟩

/-- The difference. -/
def subtract (z w : Complex) : Complex :=
  ⟨z.re - w.re, z.im - w.im⟩

/-- The product. -/
def multiply (z w : Complex) : Complex :=
  ⟨z.re * w.re - z.im * w.im, z.re * w.im + z.im * w.re⟩

/-- The quotient, scaled by the larger part of the divisor; `none` for a divisor of zero. -/
def divide? (z w : Complex) : Option Complex :=
  let a := w.re.abs
  let b := w.im.abs
  if a ≥ b then
    if a == 0 then none
    else
      let ratio := w.im / w.re
      let scale := w.re + w.im * ratio
      some ⟨(z.re + z.im * ratio) / scale, (z.im - z.re * ratio) / scale⟩
  else if b ≥ a then
    let ratio := w.re / w.im
    let scale := w.re * ratio + w.im
    some ⟨(z.re * ratio + z.im) / scale, (z.im * ratio - z.re) / scale⟩
  else
    some ⟨notANumber, notANumber⟩

/-- The power with a positive exponent, by squaring: `square` runs through the powers of the base
that the binary digits of the exponent call for. -/
def powerLoop : Nat → Nat → Complex → Complex → Complex
  | 0, _, _, result => result
  | fuel + 1, n, square, result =>
    if n = 0 then result
    else
      powerLoop fuel (n / 2) (multiply square square)
        (if n % 2 = 1 then multiply result square else result)

/-- The power with a whole exponent. -/
def powerWhole? (z : Complex) (n : Int) : Option Complex :=
  let p := powerLoop (n.natAbs + 1) n.natAbs z ⟨1, 0⟩
  if 0 < n then some p else divide? ⟨1, 0⟩ p

/-- The power through length and angle of the base, which is not zero; `none` where the angle of
the result is infinite. -/
def powerPolar? (z w : Complex) : Option Complex :=
  let size := hypotenuse z.re z.im
  let angle := Float.atan2 z.im z.re
  let length := size.pow w.re
  let length := if w.im != 0 then length / (angle * w.im).exp else length
  let phase := angle * w.re
  let phase := if w.im != 0 then phase + w.im * size.log else phase
  match parts phase with
  | .infinite _ => none
  | _ => some ⟨length * phase.cos, length * phase.sin⟩

/-- The part is an infinity. -/
def isInfinitePart (x : Float) : Bool :=
  magnitude x == infinityMagnitude

/-- The power. -/
def power (z w : Complex) : Except Fault Complex :=
  let result : Option Complex :=
    match if w.im == 0 && w.re.abs ≤ 100 then whole? w.re else none with
    | some n => powerWhole? z n
    | none =>
      if z.re == 0 && z.im == 0 then
        if w.im != 0 || w.re < 0 then none else some ⟨0, 0⟩
      else
        powerPolar? z w
  match result with
  | none => .error .zeroToComplex
  | some p =>
    if isInfinitePart p.re || isInfinitePart p.im then .error .complexPowerOverflow else .ok p

/-- The absolute value. -/
def modulus (z : Complex) : Except Fault Float :=
  let m := hypotenuse z.re z.im
  if isInfinitePart m && !isInfinitePart z.re && !isInfinitePart z.im then .error .modulusTooLarge
  else .ok m

end GrowthGrammar.Complex
