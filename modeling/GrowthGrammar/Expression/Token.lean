import GrowthGrammar.Expression.Quotation
import GrowthGrammar.Number.Numeral
import GrowthGrammar.Text.Composition
import GrowthGrammar.Text.Identifier
import GrowthGrammar.Text.Line

/-!
# Tokens

`Token.scan` cuts the text of an expression into tokens.  Blanks, comments and line breaks within
brackets separate tokens; outside of brackets an expression ends with its line, and only blank
lines and comments may stand around it.  Names are composed (`Text.composed`), so that two
spellings of one name are one name.
-/

namespace GrowthGrammar.Expression

open GrowthGrammar.Number GrowthGrammar.Text

/-- The smallest parts of an expression. -/
inductive Token where
  | integer (n : Nat)
  | double (x : Float)
  | imaginary
  | name (n : String)
  | keyword (w : String)
  | mark (m : String)
  | quotation (q : Quotation)

namespace Token

/-! ## Numbers -/

/-- Words that may follow a number without a blank. -/
def wordsBehindNumbers : List (List Char) :=
  ["and", "else", "for", "if", "in", "is", "or", "not"].map String.toList

/-- The character belongs to names and words. -/
def isWordChar (c : Char) : Bool :=
  c.isAlphanum || c == '_' || 128 ≤ c.toNat

/-- A number may end in front of the text. -/
def mayEndNumber (cs : List Char) : Bool :=
  match cs with
  | [] => true
  | c :: _ => !isWordChar c || wordsBehindNumbers.any (·.isPrefixOf cs)

/-- An integer in a base other than ten, behind its prefix. -/
def radixNumber (base : Nat) (isDigit : Char → Bool) (cs : List Char) :
    Option (Token × List Char) := do
  let (ds, r) ← digitRun isDigit cs
  if ds.isEmpty then none else some (.integer (radixValue base ds), r)

/-- The fraction of a number, if there is a point: its digits may be missing. -/
def fraction : List Char → Option (Option (List Char) × List Char)
  | '.' :: c :: r =>
    if c.isDigit then (digitRun Char.isDigit (c :: r)).map fun (ds, t) => (some ds, t)
    else some (some [], c :: r)
  | ['.'] => some (some [], [])
  | r => some (none, r)

/-- The digits of an exponent with a sign. -/
def exponentDigits (negative : Bool) (cs : List Char) : Option (Option Int × List Char) :=
  (leadingDigits cs).map fun (ds, t) =>
    let n := Nat.ofDigitChars 10 ds 0
    (some (if negative then -(n : Int) else n), t)

/-- The exponent of a number, if digits follow its letter; behind a sign they have to. -/
def exponent : List Char → Option (Option Int × List Char)
  | e :: c :: r =>
    if e == 'e' || e == 'E' then
      if c == '+' || c == '-' then exponentDigits (c == '-') r
      else if c.isDigit then exponentDigits false (c :: r)
      else some (none, e :: c :: r)
    else
      some (none, e :: c :: r)
  | r => some (none, r)

/-- An integer in decimal digits: without leading zeros and not too long, or zero. -/
def decimalInteger (ds : List Char) : Option Token :=
  let n := Nat.ofDigitChars 10 ds 0
  if n = 0 then some (.integer 0)
  else if ds.head? = some '0' ∨ digitLimit < ds.length then none
  else some (.integer n)

/-- A number in decimal digits. -/
def decimalNumber (cs : List Char) : Option (Token × List Char) := do
  let (front, r) ← match cs with
    | '.' :: _ => some ([], cs)
    | cs => digitRun Char.isDigit cs
  let (back, r) ← fraction r
  let (e, r) ← exponent r
  match r with
  | 'j' :: r => some (.imaginary, r)
  | 'J' :: r => some (.imaginary, r)
  | r =>
    if back.isNone && e.isNone then do some (← decimalInteger front, r)
    else
      some (.double ((Decimal.ofDigits front (back.getD []) (e.getD 0)).toFloat false), r)

/-- A number at the head of a text. -/
def number (cs : List Char) : Option (Token × List Char) := do
  let (t, r) ← match cs with
    | '0' :: c :: r =>
      if c == 'x' || c == 'X' then radixNumber 16 (fun c => (hexDigit? c).isSome) r
      else if c == 'o' || c == 'O' then radixNumber 8 (fun c => '0' ≤ c && c ≤ '7') r
      else if c == 'b' || c == 'B' then radixNumber 2 (fun c => c == '0' || c == '1') r
      else decimalNumber cs
    | cs => decimalNumber cs
  if mayEndNumber r then some (t, r) else none

/-! ## Words and marks -/

/-- A name or a reserved word at the head of a text. -/
def word (cs : List Char) : Option (Token × List Char) :=
  let w := cs.takeWhile isWordChar
  if isIdentifier w then
    let r := cs.drop w.length
    let s := String.ofList w
    some (if isReserved s then .keyword s else .name (String.ofList (composed w)), r)
  else
    none

/-- All marks, a longer one before those that it begins with. -/
def marks : List String :=
  ["**=", "...", "//=", "<<=", ">>=", "!=", "%=", "&=", "**", "*=", "+=", "-=", "->", "//", "/=",
    ":=", "<<", "<=", "<>", "==", ">=", ">>", "@=", "^=", "|=", "%", "&", "(", ")", "*", "+", ",",
    "-", ".", "/", ":", ";", "<", "=", ">", "@", "[", "]", "^", "\x7b", "|", "\x7d", "~"]

/-- The longest mark at the head of a text. -/
def longestMark (cs : List Char) : Option (Token × List Char) :=
  (marks.find? fun m => m.toList.isPrefixOf cs).map fun m => (.mark m, cs.drop m.length)

/-- A number begins here. -/
def opensNumber : List Char → Bool
  | '.' :: c :: _ => c.isDigit
  | c :: _ => c.isDigit
  | [] => false

/-- The token at the head of a text that begins with no blank. -/
def next (cs : List Char) : Option (Token × List Char) :=
  match Quotation.opening? cs with
  | some (s, q, r) => (Quotation.read s q r).map fun (t, r) => (.quotation t, r)
  | none =>
    if opensNumber cs then number cs
    else if (cs.head?.map isWordChar).getD false then word cs
    else longestMark cs

/-! ## Lines -/

/-- The blanks between the tokens of a line. -/
def isGap (c : Char) : Bool :=
  c == ' ' || c == '\t' || c == '\x0c'

/-- The text from the first token on, behind blank lines and comments, with the column that the
token is in.  A line that ends in a backslash goes on in the next one, and its column counts. -/
def firstLine (comment : Bool) (column continued : Nat) : List Char → Option (Nat × List Char)
  | [] => some (0, [])
  | c :: r =>
    if c == '\n' then firstLine false 0 0 r
    else if comment then firstLine true column continued r
    else if c == ' ' then firstLine false (column + 1) continued r
    else if c == '\t' then firstLine false ((column / 8 + 1) * 8) continued r
    else if c == '\x0c' then firstLine false 0 continued r
    else if c == '#' then firstLine true column continued r
    else if c == '\\' then
      match r with
      | '\n' :: d :: s =>
        firstLine false column (if continued = 0 then column else continued) (d :: s)
      | _ => none
    else some (if continued = 0 then column else continued, c :: r)

/-- Nothing but blank lines and comments. -/
def isBlankRest (cs : List Char) : Bool :=
  match firstLine false 0 0 cs with
  | some (_, []) => true
  | _ => false

/-- The number of open brackets behind a token. -/
def depthAfter (depth : Nat) : Token → Option Nat
  | mark m =>
    if m = "(" ∨ m = "[" ∨ m = "\x7b" then some (depth + 1)
    else if m = ")" ∨ m = "]" ∨ m = "\x7d" then
      match depth with
      | 0 => none
      | d + 1 => some d
    else some depth
  | _ => some depth

/-- The tokens of a line, within so many brackets.  Every step uses up a character, so that as much
fuel as the text is long is enough. -/
def scanLine : Nat → Nat → List Char → Option (List Token)
  | 0, _, _ => none
  | fuel + 1, depth, cs =>
    match cs with
    | [] => if depth = 0 then some [] else none
    | c :: r =>
      if isGap c then scanLine fuel depth r
      else if c == '#' then scanLine fuel depth (r.dropWhile (· != '\n'))
      else if c == '\n' then
        if depth = 0 then (if isBlankRest r then some [] else none)
        else scanLine fuel depth r
      else if c == '\\' then
        match r with
        | '\n' :: d :: s => scanLine fuel depth (d :: s)
        | _ => none
      else
        match next (c :: r) with
        | none => none
        | some (t, r) =>
          match t.depthAfter depth with
          | none => none
          | some depth => (scanLine fuel depth r).map (t :: ·)

/-- The tokens of a text. -/
def scan (cs : List Char) : Option (List Token) :=
  match firstLine false 0 0 (unifyNewlines cs ++ ['\n']) with
  | some (0, r) => scanLine (r.length + 1) 0 r
  | _ => none

end Token

end GrowthGrammar.Expression
