import GrowthGrammar.Text.Split

/-!
# Lines

`lines` cuts a text at its line boundaries; a boundary at the end opens no further line.
`unifyNewlines` turns every line ending of a file into the one character `\n`.
-/

namespace GrowthGrammar.Text

/-- The characters that end a line. -/
def isLineBreak (c : Char) : Bool :=
  let n := c.toNat
  (10 ≤ n && n ≤ 13) || (0x1C ≤ n && n ≤ 0x1E) || n == 0x85 || n == 0x2028 || n == 0x2029

/-- The lines of a text without their endings; `\r\n` is one ending. -/
def lines : List Char → List (List Char)
  | [] => []
  | '\r' :: '\n' :: r => [] :: lines r
  | c :: r => if isLineBreak c then [] :: lines r else consHead c (lines r)

/-- Every `\r\n` and every lone `\r` becomes `\n`. -/
def unifyNewlines : List Char → List Char
  | [] => []
  | '\r' :: '\n' :: r => '\n' :: unifyNewlines r
  | '\r' :: r => '\n' :: unifyNewlines r
  | c :: r => c :: unifyNewlines r

/-! ## Laws -/

theorem isLineBreak_newline : isLineBreak '\n' = true := by decide

theorem lines_newline (r : List Char) : lines ('\n' :: r) = [] :: lines r := by
  simp [lines, isLineBreak_newline]

theorem lines_cons {c : Char} (h : isLineBreak c = false) (r : List Char) :
    lines (c :: r) = consHead c (lines r) := by
  have hc : c ≠ '\r' := by rintro rfl; revert h; decide
  rw [lines]
  · simp [h]
  · rintro s rfl; exact absurd rfl hc

end GrowthGrammar.Text
