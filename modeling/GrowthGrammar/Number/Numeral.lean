import GrowthGrammar.Number.Decimal
import GrowthGrammar.Text.Digit

/-!
# Numerals

A numeral is a number given as a text of its own: blanks around it, a sign, digits of any script,
single underscores between digits.  `readInteger` reads a whole number and `readDouble` a number
with a fraction and an exponent, or one of the names of what is no finite number.
-/

namespace GrowthGrammar.Number

open GrowthGrammar.Text

/-- The digits at the head of a text, without the single underscores between them, and the rest of
the text; `none` where an underscore is not followed by a digit. -/
def digitRun (isDigit : Char → Bool) : List Char → Option (List Char × List Char)
  | [] => some ([], [])
  | '_' :: c :: r =>
    if isDigit c then (digitRun isDigit r).map fun (ds, t) => (c :: ds, t) else none
  | c :: r =>
    if isDigit c then (digitRun isDigit r).map fun (ds, t) => (c :: ds, t)
    else if c == '_' then none
    else some ([], c :: r)

/-- The longest number that is read or written in decimal digits. -/
def digitLimit : Nat :=
  4300

/-- The character as it counts in a numeral: digits of any script are decimal digits, blanks outside
ASCII are spaces, and no other character outside ASCII belongs to a numeral. -/
def numeralChar (c : Char) : Char :=
  if c.toNat < 127 then c
  else if isBlank c then ' '
  else match digitValue? c with
    | some d => Nat.digitChar d
    | none => '?'

/-- The blanks around a numeral, once it is in ASCII. -/
def isNumeralBlank (c : Char) : Bool :=
  c == ' ' || (9 ≤ c.toNat && c.toNat ≤ 13)

/-- The numeral in ASCII characters, without the blanks around it. -/
def numeralChars (cs : List Char) : List Char :=
  let bare := (cs.map numeralChar).dropWhile isNumeralBlank
  (bare.reverse.dropWhile isNumeralBlank).reverse

/-- A sign at the head of a numeral, and the rest of it. -/
def takeSign : List Char → Bool × List Char
  | '+' :: r => (false, r)
  | '-' :: r => (true, r)
  | r => (false, r)

/-- Digits that begin with a digit. -/
def leadingDigits : List Char → Option (List Char × List Char)
  | [] => none
  | c :: r => if c.isDigit then digitRun Char.isDigit (c :: r) else none

/-- The whole number that a numeral of at most `digitLimit` digits writes. -/
def readInteger (cs : List Char) : Option Int :=
  let (negative, r) := takeSign (numeralChars cs)
  match leadingDigits r with
  | some (ds, []) =>
    if digitLimit < ds.length then none
    else
      let n := Nat.ofDigitChars 10 ds 0
      some (if negative then -(n : Int) else n)
  | _ => none

/-- The fraction after the point, if there is one: its digits may be missing. -/
def takeFraction : List Char → Option (List Char × List Char)
  | '.' :: c :: r => if c.isDigit then digitRun Char.isDigit (c :: r) else some ([], c :: r)
  | ['.'] => some ([], [])
  | r => some ([], r)

/-- The exponent after the letter, if there is one: its digits may not be missing. -/
def takeExponent : List Char → Option (Int × List Char)
  | [] => some (0, [])
  | c :: r =>
    if c == 'e' || c == 'E' then
      let (negative, s) := takeSign r
      (leadingDigits s).map fun (ds, t) =>
        let n := Nat.ofDigitChars 10 ds 0
        (if negative then -(n : Int) else n, t)
    else
      some (0, c :: r)

/-- The decimal with these digits before and behind the point and this exponent. -/
def Decimal.ofDigits (front back : List Char) (exponent : Int) : Decimal :=
  ⟨Nat.ofDigitChars 10 (front ++ back) 0, exponent - back.length⟩

/-- The names of infinity in a numeral, and the one of what is no number. -/
def namedDouble (negative : Bool) (cs : List Char) : Option Float :=
  let name := String.ofList (cs.map Char.toLower)
  if name = "inf" ∨ name = "infinity" then some (infinity negative)
  else if name = "nan" then some notANumber
  else none

/-- The double that a numeral writes: digits with a point and an exponent, or a name. -/
def readDouble (cs : List Char) : Option Float :=
  let (negative, r) := takeSign (numeralChars cs)
  match namedDouble negative r with
  | some x => some x
  | none => do
    let (front, r) ← match r with
      | '.' :: _ => some ([], r)
      | _ => leadingDigits r
    let (back, r) ← takeFraction r
    let (e, r) ← takeExponent r
    if r.isEmpty && !(front.isEmpty && back.isEmpty) then
      some ((Decimal.ofDigits front back e).toFloat negative)
    else
      none

end GrowthGrammar.Number
