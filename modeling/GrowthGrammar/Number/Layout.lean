import GrowthGrammar.Number.Decimal

/-!
# How numbers are written

A `Layout` holds the decisions of a number format: between which magnitudes no exponent is written,
whether a whole number keeps its point, and the names of what is no finite number.  `Layout.text`
writes the shortest decimal of a double by a layout.  `numberText` is the format of symbols, in
which whole numbers have no point and both zeros are `0`.
-/

namespace GrowthGrammar.Number

/-- The decimal digits of a natural number. -/
def natDigits (n : Nat) : List Char :=
  Nat.toDigits 10 n

/-- The decimal digits of an integer, after a minus sign if it is negative. -/
def intDigits (n : Int) : List Char :=
  if n < 0 then '-' :: natDigits n.natAbs else natDigits n.natAbs

/-- An integer as a string. -/
def intText (n : Int) : String :=
  String.ofList (intDigits n)

/-- The decisions of a number format. -/
structure Layout where
  /-- The lowest position of the point, counted from the first digit, without an exponent. -/
  least : Int
  /-- The highest position of the point without an exponent. -/
  most : Int
  /-- A whole number written without an exponent ends in `.0`. -/
  keepsPoint : Bool
  /-- The name of what is no number. -/
  notANumber : String
  /-- The name of infinity. -/
  infinity : String

namespace Layout

/-- From `0.0001` up to below `10 ^ 16` a number has no exponent; whole numbers keep their point. -/
def standard : Layout :=
  ⟨-3, 16, true, "nan", "inf"⟩

/-- The standard layout with the names that data files use. -/
def data : Layout :=
  { standard with notANumber := "NaN", infinity := "Infinity" }

/-- The standard layout without the point of whole numbers, for the parts of a complex number. -/
def component : Layout :=
  { standard with keepsPoint := false }

/-- The exponent after the letter: a sign and at least two digits. -/
def exponentChars (e : Int) : List Char :=
  let ds := natDigits e.natAbs
  'e' :: (if e < 0 then '-' else '+') :: (if ds.length < 2 then '0' :: ds else ds)

/-- The digits with the point at a position within, before or behind them. -/
def positional (l : Layout) (ds : List Char) (point : Int) : List Char :=
  if point ≤ 0 then '0' :: '.' :: (List.replicate (-point).toNat '0' ++ ds)
  else
    let n := point.toNat
    if n < ds.length then ds.take n ++ '.' :: ds.drop n
    else ds ++ List.replicate (n - ds.length) '0' ++ (if l.keepsPoint then ['.', '0'] else [])

/-- The digits with the point behind the first one and an exponent. -/
def scientific (ds : List Char) (point : Int) : List Char :=
  match ds with
  | [] => []
  | d :: r => (d :: if r.isEmpty then [] else '.' :: r) ++ exponentChars (point - 1)

/-- The digits without the zeros at their end; the first digit stays. -/
def significantDigits (n : Nat) : List Char :=
  match natDigits n with
  | [] => []
  | d :: r => d :: (r.reverse.dropWhile (· == '0')).reverse

/-- The decimal by the layout. -/
def decimalChars (l : Layout) (d : Decimal) : List Char :=
  let ds := significantDigits d.digits
  let point := (digitCount d.digits : Int) + d.exponent
  if l.least ≤ point ∧ point ≤ l.most then l.positional ds point else scientific ds point

/-- The double by the layout, in the fewest digits that are read back as the double. -/
def chars (l : Layout) (x : Float) : List Char :=
  match parts x with
  | .notANumber => l.notANumber.toList
  | .infinite negative => (if negative then ['-'] else []) ++ l.infinity.toList
  | .finite negative m q =>
    let d := if m = 0 then ⟨0, 0⟩ else shortest (magnitude x) m q
    (if negative then ['-'] else []) ++ l.decimalChars d

/-- The double by the layout, as a string. -/
def text (l : Layout) (x : Float) : String :=
  String.ofList (l.chars x)

end Layout

/-- A number of a symbol: whole numbers without a point, zero without a sign. -/
def numberChars (x : Float) : List Char :=
  match whole? x with
  | some n => intDigits n
  | none => Layout.standard.chars x

/-- A number that an input gives: an integer of any size, or a double. -/
inductive Given where
  | integer (n : Int)
  | double (x : Float)

/-- The double nearest to a given number, unless the number is beyond all doubles. -/
def Given.toFloat? : Given → Option Float
  | .integer n => ofInt? n
  | .double x => some x

/-- A given number in the format of symbols; `none` for an integer beyond all doubles. -/
def Given.text? : Given → Option String
  | .integer n => (ofInt? n).map fun _ => intText n
  | .double x => some (String.ofList (numberChars x))

/-! ## Laws -/

theorem intDigits_ofNat (n : Nat) : intDigits n = natDigits n := by
  simp [intDigits]

theorem natDigits_ne_nil (n : Nat) : natDigits n ≠ [] :=
  Nat.toDigits_ne_nil

end GrowthGrammar.Number
