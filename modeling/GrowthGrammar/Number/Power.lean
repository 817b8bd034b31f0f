/-!
# Powers of two and of ten

`twoTo` and `tenTo` are the powers by which doubles and decimals are scaled.  A negative exponent
gives one, so that `m * twoTo e` and `twoTo (-e)` are the numerator and the denominator of the number
`m` times two to the `e`.
-/

namespace GrowthGrammar.Number

/-- Two to an exponent, or one if the exponent is negative. -/
def twoTo (e : Int) : Nat :=
  Nat.pow 2 e.toNat

/-- Ten to an exponent, or one if the exponent is negative. -/
def tenTo (e : Int) : Nat :=
  Nat.pow 10 e.toNat

/-! ## Laws -/

theorem twoTo_pos (e : Int) : 0 < twoTo e :=
  Nat.pow_pos (by decide)

theorem tenTo_pos (e : Int) : 0 < tenTo e :=
  Nat.pow_pos (by decide)

end GrowthGrammar.Number
