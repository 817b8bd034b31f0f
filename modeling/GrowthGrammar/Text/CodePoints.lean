import GrowthGrammar.Text.Blank

/-!
# Sets of code points

The properties of characters that no short rule describes are given as tables: ranges of code
points, written in hexadecimal as `41-5A 61-7A AA`.  `CodePoints.ofText` reads such a table and
`CodePoints.contains` asks for membership.
-/

namespace GrowthGrammar.Text

/-- The value of a digit of a table, which are written with capital letters. -/
def hexDigitValue (c : Char) : Nat :=
  if c.isDigit then c.toNat - '0'.toNat else c.toNat + 10 - 'A'.toNat

/-- The number that hexadecimal digits write. -/
def hexValue (cs : List Char) : Nat :=
  cs.foldl (fun n c => 16 * n + hexDigitValue c) 0

/-- A range of code points, both ends included. -/
structure CodeRange where
  first : Nat
  last : Nat
deriving Repr, DecidableEq

/-- The range that `41-5A` or `AA` writes. -/
def CodeRange.ofChars (cs : List Char) : CodeRange :=
  match cutAt '-' cs with
  | (a, some b) => ⟨hexValue a, hexValue b⟩
  | (a, none) => ⟨hexValue a, hexValue a⟩

/-- The code point lies in the range. -/
def CodeRange.contains (r : CodeRange) (n : Nat) : Bool :=
  r.first ≤ n && n ≤ r.last

/-- A set of code points, as ranges. -/
structure CodePoints where
  ranges : List CodeRange

namespace CodePoints

/-- The set that a table of ranges lists. -/
def ofText (s : String) : CodePoints :=
  ⟨(words s.toList).map CodeRange.ofChars⟩

/-- The code point is in the set. -/
def contains (s : CodePoints) (n : Nat) : Bool :=
  s.ranges.any (·.contains n)

end CodePoints

end GrowthGrammar.Text
