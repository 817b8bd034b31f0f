import GrowthGrammar.Number.Double

/-!
# Decimals

A decimal `digits · 10 ^ exponent` is rounded to the nearest double by `Decimal.magnitude`.  The way
back is `shortest`: of the decimals that are rounded to a double, one with the fewest digits, and of
those the nearest.  `roundPlaces` rounds a double to a number of decimal places.
-/

namespace GrowthGrammar.Number

/-- The number `digits · 10 ^ exponent`. -/
structure Decimal where
  digits : Nat
  exponent : Int
deriving Repr, DecidableEq

/-- How many decimal digits a number has; zero has one. -/
def digitCount (n : Nat) : Nat :=
  (Nat.toDigits 10 n).length

namespace Decimal

/-- The decimal as a quotient. -/
def ratio (d : Decimal) : Nat × Nat :=
  (d.digits * tenTo d.exponent, tenTo (-d.exponent))

/-- The magnitude of the nearest double.  A decimal from `10 ^ 310` on is beyond all doubles and
one below `10 ^ (-330)` is nearest to zero, whatever the length of its exponent. -/
def magnitude (d : Decimal) : Nat :=
  let top := (digitCount d.digits : Int) + d.exponent
  if d.digits = 0 ∨ top < -330 then 0
  else if 310 < top then infinityMagnitude
  else ratioMagnitude d.ratio.1 d.ratio.2

/-- The nearest double with a sign. -/
def toFloat (negative : Bool) (d : Decimal) : Float :=
  ofMagnitude negative d.magnitude

end Decimal

/-- The exponent of the highest power of ten that is at most the quotient of positive numbers. -/
def decimalExponent (num den : Nat) : Int :=
  let shift := digitCount den
  (digitCount (num * tenTo shift / den) : Int) - 1 - shift

/-- The two multiples of `10 ^ k` around a quotient, the nearer one first. -/
def neighbours (num den : Nat) (k : Int) : List Decimal :=
  let a := num * tenTo (-k)
  let b := den * tenTo k
  let n := roundHalfEven a b
  [⟨n, k⟩, ⟨if n * b ≤ a then n + 1 else n - 1, k⟩]

/-- The decimal that is `significand · 2 ^ exponent`. -/
def exactDecimal (significand : Nat) (exponent : Int) : Decimal :=
  ⟨significand * twoTo exponent * Nat.pow 5 (-exponent).toNat, min exponent 0⟩

/-- The shortest decimal that is rounded to the double with this magnitude, the nearest of several.
Seventeen digits are always enough. -/
def shortest (magnitude significand : Nat) (exponent : Int) : Decimal :=
  let num := significand * twoTo exponent
  let den := twoTo (-exponent)
  let top := decimalExponent num den
  let found := (List.range 17).findSome? fun (n : Nat) =>
    (neighbours num den (top - n)).find? (·.magnitude == magnitude)
  found.getD (exactDecimal significand exponent)

/-- The double rounded to a multiple of `10 ^ (-places)`, a half to the even multiple; `none` where
the multiple is beyond all doubles.  With more than 323 places every double stays as it is, and with
fewer than -308 it becomes zero. -/
def roundPlaces? (x : Float) (places : Int) : Option Float :=
  match parts x with
  | .finite negative m q =>
    if 323 < places then some x
    else if places < -308 then some (ofMagnitude negative 0)
    else
      let num := m * twoTo q * tenTo places
      let den := twoTo (-q) * tenTo (-places)
      let r := Decimal.magnitude ⟨roundHalfEven num den, -places⟩
      if r = infinityMagnitude then none else some (ofMagnitude negative r)
  | _ => some x

/-- The integer rounded to a multiple of `10 ^ (-places)`, a half to the even multiple. -/
def roundPlacesInt (n : Int) (places : Int) : Int :=
  if 0 ≤ places then n
  else if (digitCount n.natAbs : Int) < -places then 0
  else
    let unit := tenTo (-places)
    let r : Nat := roundHalfEven n.natAbs unit * unit
    if n < 0 then -(r : Int) else r

end GrowthGrammar.Number
