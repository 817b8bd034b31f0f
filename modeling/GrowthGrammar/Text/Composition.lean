import GrowthGrammar.Text.NormalTable

/-!
# Compatibility composition

Two spellings of one identifier name the same variable: `composed` brings a name to the form in
which every character is decomposed as far as the tables go, marks stand in the order of their
classes, and what can be composed is composed (the form called NFKC).  A name of ASCII characters
is in that form already (`composed_of_ascii`).
-/

namespace GrowthGrammar.Text

/-- The canonical combining class; zero for a starter. -/
def combiningClass (n : Nat) : Nat :=
  if n < 128 then 0
  else ((combiningClasses.find? (·.1.contains n)).map Prod.snd).getD 0

/-- The letters that a syllable of Hangul is written with. -/
def hangulLetters (n : Nat) : Option (List Nat) :=
  if 0xAC00 ≤ n ∧ n ≤ 0xD7A3 then
    let s := n - 0xAC00
    let front := [0x1100 + s / 588, 0x1161 + s % 588 / 28]
    some (if s % 28 = 0 then front else front ++ [0x11A7 + s % 28])
  else
    none

/-- The code points that a code point decomposes into. -/
def decomposed (n : Nat) : List Nat :=
  if n < 128 then [n]
  else (hangulLetters n).getD ((decomposition? n).getD [n])

/-- Puts a code point in front of others, behind the marks of lower class that lead them. -/
def insertMark (c : Nat) : List Nat → List Nat
  | [] => [c]
  | d :: r =>
    if 0 < combiningClass d && combiningClass d < combiningClass c then d :: insertMark c r
    else c :: d :: r

/-- Every run of marks in the order of their classes. -/
def reordered (ns : List Nat) : List Nat :=
  ns.foldr insertMark []

/-- The composed code point of a pair. -/
def composedPair (a b : Nat) : Option Nat :=
  if 0x1100 ≤ a ∧ a < 0x1113 ∧ 0x1161 ≤ b ∧ b < 0x1176 then
    some (0xAC00 + (a - 0x1100) * 588 + (b - 0x1161) * 28)
  else if 0xAC00 ≤ a ∧ a ≤ 0xD7A3 ∧ (a - 0xAC00) % 28 = 0 ∧ 0x11A7 < b ∧ b < 0x11C3 then
    some (a + (b - 0x11A7))
  else
    (compositions.find? fun e => e.2 == (a, b)).map Prod.fst

/-- Composes what follows a starter with it, unless a mark of the same or a higher class stands
between; `marks` are those passed over, the last one first. -/
def composeFrom (starter : Nat) (marks : List Nat) : List Nat → List Nat
  | [] => starter :: marks.reverse
  | c :: r =>
    let free := match marks with
      | [] => true
      | m :: _ => combiningClass m < combiningClass c
    match (if free then composedPair starter c else none) with
    | some p => composeFrom p marks r
    | none =>
      if combiningClass c = 0 then starter :: (marks.reverse ++ composeFrom c [] r)
      else composeFrom starter (c :: marks) r

/-- The composed form of a list of code points. -/
def composedPoints (ns : List Nat) : List Nat :=
  match reordered (ns.flatMap decomposed) with
  | [] => []
  | n :: r => composeFrom n [] r

/-- The one form of all spellings of a name. -/
def composed (cs : List Char) : List Char :=
  if cs.all (·.toNat < 128) then cs
  else (composedPoints (cs.map Char.toNat)).map Char.ofNat

theorem composed_of_ascii {cs : List Char} (h : ∀ c ∈ cs, c.toNat < 128) : composed cs = cs := by
  have : cs.all (·.toNat < 128) = true := by simpa using h
  simp [composed, this]

end GrowthGrammar.Text
