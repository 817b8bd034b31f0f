import GrowthGrammar.Json.Basic

/-!
# Reading data files

`Json.read` reads the one value that a text holds, or says at which character it stops being one.
Blanks may stand around every token; of two fields of one name the last one counts; `NaN`,
`Infinity` and `-Infinity` are doubles.  A surrogate that is escaped without its pair is no
character, and a text that holds one is not read further.
-/

namespace GrowthGrammar.Json

open GrowthGrammar.Number GrowthGrammar.Text

/-- What is wrong at a place of a data file. -/
inductive Fault where
  | value
  | name
  | colon
  | comma
  | extra
  | escape
  | unicodeEscape
  | control
  | unterminated
  | byteOrderMark
deriving Repr, DecidableEq

/-- The wording of a fault. -/
def Fault.message : Fault → String
  | value => "Expecting value"
  | name => "Expecting property name enclosed in double quotes"
  | colon => "Expecting ':' delimiter"
  | comma => "Expecting ',' delimiter"
  | extra => "Extra data"
  | escape => "Invalid \\escape"
  | unicodeEscape => "Invalid \\uXXXX escape"
  | control => "Invalid control character at"
  | unterminated => "Unterminated string starting at"
  | byteOrderMark => "Unexpected UTF-8 BOM (decode using utf-8-sig)"

/-- Why reading stopped: a fault where so many characters are left, an integer with more digits than
are read, or a surrogate without its pair. -/
inductive Stop where
  | fault (f : Fault) (left : Nat)
  | tooManyDigits (count : Nat)
  | unpaired (unit : Nat)
deriving Repr, DecidableEq

/-- The blanks between tokens. -/
def isSpace (c : Char) : Bool :=
  c == ' ' || c == '\t' || c == '\n' || c == '\r'

/-- The text without its leading blanks. -/
def skipSpace (cs : List Char) : List Char :=
  cs.dropWhile isSpace

/-! ## Strings -/

/-- The number that four hexadecimal digits write. -/
def hexFour? (a b c d : Char) : Option Nat := do
  let a ← hexDigit? a
  let b ← hexDigit? b
  let c ← hexDigit? c
  let d ← hexDigit? d
  return ((a * 16 + b) * 16 + c) * 16 + d

/-- The character behind a backslash stands for this one. -/
def escaped? (c : Char) : Option Char :=
  if c = '"' ∨ c = '\\' ∨ c = '/' then some c
  else if c = 'b' then some '\x08'
  else if c = 'f' then some '\x0c'
  else if c = 'n' then some '\n'
  else if c = 'r' then some '\r'
  else if c = 't' then some '\t'
  else none

/-- A character in front of what the rest of a string reads as. -/
def andChar (c : Char) (e : Except Stop (List Char × List Char)) :
    Except Stop (List Char × List Char) :=
  e.map fun (cs, r) => (c :: cs, r)

/-- The character of a code unit in front of what the rest of a string reads as; a surrogate has no
character of its own. -/
def andUnit (n : Nat) (e : Except Stop (List Char × List Char)) :
    Except Stop (List Char × List Char) :=
  if 0xD800 ≤ n ∧ n < 0xE000 then .error (.unpaired n) else andChar (.ofNat n) e

/-- The characters of a string up to its closing quote, and the text behind it; `start` is what is
left at the opening quote. -/
def readString (start : Nat) : List Char → Except Stop (List Char × List Char)
  | [] => .error (.fault .unterminated start)
  | '"' :: r => .ok ([], r)
  | '\\' :: 'u' :: a :: b :: c :: d :: r =>
    if r.isEmpty then .error (.fault .unicodeEscape (r.length + 5))
    else match hexFour? a b c d with
      | none => .error (.fault .unicodeEscape (r.length + 5))
      | some n =>
        match r with
        | '\\' :: 'u' :: e :: f :: g :: h :: s =>
          if 0xD800 ≤ n ∧ n < 0xDC00 ∧ s.isEmpty = false then
            match hexFour? e f g h with
            | none => .error (.fault .unicodeEscape (s.length + 5))
            | some k =>
              if 0xDC00 ≤ k ∧ k < 0xE000 then
                let code := 0x10000 + (n - 0xD800) * 0x400 + (k - 0xDC00)
                andChar (.ofNat code) (readString start s)
              else
                andUnit n (readString start ('\\' :: 'u' :: e :: f :: g :: h :: s))
          else
            andUnit n (readString start ('\\' :: 'u' :: e :: f :: g :: h :: s))
        | r => andUnit n (readString start r)
  | '\\' :: 'u' :: r => .error (.fault .unicodeEscape (r.length + 1))
  | '\\' :: c :: r =>
    match escaped? c with
    | some d => andChar d (readString start r)
    | none => .error (.fault .escape (r.length + 2))
  | ['\\'] => .error (.fault .unterminated start)
  | c :: r =>
    if c.toNat < 32 then .error (.fault .control (r.length + 1))
    else andChar c (readString start r)

/-! ## Numbers -/

/-- The digits at the head of a text. -/
def takeDigits (cs : List Char) : List Char × List Char :=
  cs.span Char.isDigit

/-- The whole part: a zero alone or digits without leading zeros. -/
def readWhole : List Char → Option (List Char × List Char)
  | [] => none
  | c :: r =>
    if c = '0' then some (['0'], r)
    else if c.isDigit then some (takeDigits (c :: r))
    else none

/-- The fraction, if a digit follows the point. -/
def readFraction : List Char → Option (List Char) × List Char
  | '.' :: c :: r =>
    if c.isDigit then let (ds, t) := takeDigits (c :: r); (some ds, t) else (none, '.' :: c :: r)
  | r => (none, r)

/-- The exponent, if its digits are there. -/
def readExponent : List Char → Option Int × List Char
  | c :: r =>
    if c = 'e' ∨ c = 'E' then
      let (negative, s) := takeSign r
      match takeDigits s with
      | ([], _) => (none, c :: r)
      | (ds, t) =>
        let n := Nat.ofDigitChars 10 ds 0
        (some (if negative then -(n : Int) else n), t)
    else
      (none, c :: r)
  | [] => (none, [])

/-- A number: an integer where it has neither a fraction nor an exponent. -/
def readNumber (cs : List Char) : Except Stop (Json × List Char) :=
  let (negative, body) := match cs with
    | '-' :: r => (true, r)
    | r => (false, r)
  match readWhole body with
  | none => .error (.fault .value cs.length)
  | some (front, r) =>
    match readFraction r with
    | (fraction, r) =>
      match readExponent r with
      | (exponent, r) =>
        if fraction.isNone ∧ exponent.isNone then
          if digitLimit < front.length then .error (.tooManyDigits front.length)
          else
            let n := Nat.ofDigitChars 10 front 0
            .ok (integer (if negative then -(n : Int) else n), r)
        else
          let d := Decimal.ofDigits front (fraction.getD []) (exponent.getD 0)
          .ok (double (d.toFloat negative), r)

/-! ## Values -/

/-- The words that are values. -/
def literals : List (List Char × Json) :=
  [("null".toList, null), ("true".toList, bool true), ("false".toList, bool false),
    ("NaN".toList, double notANumber), ("Infinity".toList, double (infinity false)),
    ("-Infinity".toList, double (infinity true))]

/-- A word that is a value, or a number. -/
def readScalar (cs : List Char) : Except Stop (Json × List Char) :=
  match literals.find? fun (w, _) => w.isPrefixOf cs with
  | some (w, v) => .ok (v, cs.drop w.length)
  | none => readNumber cs

mutual

/-- A value at the head of a text.  Every step uses up a character, so that as much fuel as the text
is long is enough. -/
def readValue : Nat → List Char → Except Stop (Json × List Char)
  | 0, cs => .error (.fault .value cs.length)
  | fuel + 1, cs =>
    match cs with
    | [] => .error (.fault .value 0)
    | '"' :: r => (readString cs.length r).map fun (s, t) => (string (String.ofList s), t)
    | '[' :: r =>
      match skipSpace r with
      | ']' :: t => .ok (array [], t)
      | t => (readItems fuel t).map fun (vs, t) => (array vs, t)
    | '{' :: r =>
      match skipSpace r with
      | '}' :: t => .ok (object [], t)
      | t => (readFields fuel [] t).map fun (fs, t) => (object fs, t)
    | _ => readScalar cs

/-- Items up to the closing bracket. -/
def readItems : Nat → List Char → Except Stop (List Json × List Char)
  | 0, cs => .error (.fault .value cs.length)
  | fuel + 1, cs =>
    match readValue fuel cs with
    | .error e => .error e
    | .ok (v, r) =>
      match skipSpace r with
      | ']' :: t => .ok ([v], t)
      | ',' :: t => (readItems fuel (skipSpace t)).map fun (vs, t) => (v :: vs, t)
      | t => .error (.fault .comma t.length)

/-- Fields up to the closing brace, behind those read before. -/
def readFields : Nat → List (String × Json) → List Char →
    Except Stop (List (String × Json) × List Char)
  | 0, _, cs => .error (.fault .name cs.length)
  | fuel + 1, done, cs =>
    match cs with
    | '"' :: r =>
      match readString cs.length r with
      | .error e => .error e
      | .ok (n, r) =>
        match skipSpace r with
        | ':' :: t =>
          match readValue fuel (skipSpace t) with
          | .error e => .error e
          | .ok (v, r) =>
            let done := Entries.put (String.ofList n) v done
            match skipSpace r with
            | '}' :: t => .ok (done, t)
            | ',' :: t => readFields fuel done (skipSpace t)
            | t => .error (.fault .comma t.length)
        | t => .error (.fault .colon t.length)
    | _ => .error (.fault .name cs.length)

end

/-! ## Texts -/

/-- Why a text is no data file. -/
inductive Error where
  | fault (f : Fault) (position line column : Nat)
  | tooManyDigits (count : Nat)
  | unpaired (unit : Nat)
deriving Repr, DecidableEq

/-- The place where so many characters of a text are left. -/
def Error.ofStop (text : List Char) : Stop → Error
  | .tooManyDigits n => .tooManyDigits n
  | .unpaired n => .unpaired n
  | .fault f left =>
    let before := text.take (text.length - left)
    let column := (before.reverse.takeWhile (· ≠ '\n')).length + 1
    .fault f before.length (before.count '\n' + 1) column

/-- The value that a text holds between blanks. -/
def readText (text : List Char) : Except Stop Json :=
  if text.head? = some '\uFEFF' then .error (.fault .byteOrderMark text.length)
  else match readValue (text.length + 1) (skipSpace text) with
    | .error e => .error e
    | .ok (v, r) =>
      match skipSpace r with
      | [] => .ok v
      | t => .error (.fault .extra t.length)

/-- The value of a data file. -/
def read (text : List Char) : Except Error Json :=
  (readText text).mapError (Error.ofStop text)

end GrowthGrammar.Json
