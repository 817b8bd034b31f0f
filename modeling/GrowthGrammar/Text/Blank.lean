import GrowthGrammar.Text.Split

/-!
# Blank characters

`isBlank` is the class of characters that count as space around a name, an expression or a line.
`trim` takes them off both ends of a text and `words` cuts a text at them.
-/

namespace GrowthGrammar.Text

/-- The characters with the white-space property, and the four separators below the space. -/
def isBlank (c : Char) : Bool :=
  let n := c.toNat
  (9 ≤ n && n ≤ 13) || (28 ≤ n && n ≤ 32) || n == 0x85 || n == 0xA0 || n == 0x1680 ||
    (0x2000 ≤ n && n ≤ 0x200A) || n == 0x2028 || n == 0x2029 || n == 0x202F || n == 0x205F ||
    n == 0x3000

/-- The text without its leading blanks. -/
def trimStart (cs : List Char) : List Char :=
  cs.dropWhile isBlank

/-- The text without its trailing blanks. -/
def trimEnd (cs : List Char) : List Char :=
  (cs.reverse.dropWhile isBlank).reverse

/-- The text without the blanks at both ends. -/
def trim (cs : List Char) : List Char :=
  trimEnd (trimStart cs)

/-- The text holds nothing but blanks. -/
def isBlankText (cs : List Char) : Bool :=
  cs.all isBlank

/-- The maximal runs of characters that are not blank. -/
def words (cs : List Char) : List (List Char) :=
  (splitWhere isBlank cs).filter (· ≠ [])

/-! ## Laws -/

theorem trimStart_cons (c : Char) (r : List Char) :
    trimStart (c :: r) = if isBlank c then trimStart r else c :: r := by
  cases h : isBlank c <;> simp [trimStart, h]

theorem trimStart_of_head {c : Char} {r : List Char} (h : isBlank c = false) :
    trimStart (c :: r) = c :: r := by
  simp [trimStart_cons, h]

theorem trimEnd_append_singleton {c : Char} {r : List Char} (h : isBlank c = false) :
    trimEnd (r ++ [c]) = r ++ [c] := by
  simp [trimEnd, h]

end GrowthGrammar.Text
