import GrowthGrammar.Text.CharacterName
import GrowthGrammar.Text.Digit

/-!
# Quotations in expressions

An expression may quote a text: between one or three quotes of either kind, behind a prefix that
says how to take it.  `Quotation.read` finds the end of a quotation and checks its escapes.  A
formatted quotation has holes, the texts of expressions between braces; they are kept, to be checked
as expressions.
-/

namespace GrowthGrammar.Expression

open GrowthGrammar.Text

/-- What a prefix says about a quotation. -/
structure Quotation.Style where
  bytes : Bool
  raw : Bool
  formatted : Bool
deriving Repr, DecidableEq

/-- A quotation, as far as it matters to the expression around it. -/
structure Quotation where
  bytes : Bool
  /-- The texts of the holes, if there may be holes. -/
  holes : Option (List (List Char))
deriving Repr, DecidableEq

namespace Quotation

/-- The prefixes, in small letters. -/
def styles : List (List Char × Style) :=
  [([], ⟨false, false, false⟩), (['u'], ⟨false, false, false⟩), (['b'], ⟨true, false, false⟩),
    (['r'], ⟨false, true, false⟩), (['f'], ⟨false, false, true⟩), (['b', 'r'], ⟨true, true, false⟩),
    (['r', 'b'], ⟨true, true, false⟩), (['f', 'r'], ⟨false, true, true⟩),
    (['r', 'f'], ⟨false, true, true⟩)]

/-- The character opens and closes quotations. -/
def isQuote (c : Char) : Bool :=
  c == '"' || c == '\''

/-- The style, the quote and the text behind it, where a quotation opens. -/
def opening? (cs : List Char) : Option (Style × Char × List Char) :=
  let letters := cs.takeWhile Char.isAlpha
  match cs.drop letters.length with
  | q :: r =>
    if isQuote q then (styles.lookup (letters.map Char.toLower)).map (·, q, r) else none
  | [] => none

/-- The text up to a closing quote on the same line, and the text behind it. -/
def shortBody (q : Char) : List Char → Option (List Char × List Char)
  | [] => none
  | '\\' :: c :: r => (shortBody q r).map fun (b, t) => ('\\' :: c :: b, t)
  | c :: r =>
    if c = q then some ([], r)
    else if c = '\n' then none
    else (shortBody q r).map fun (b, t) => (c :: b, t)

/-- The text up to three closing quotes, and the text behind them. -/
def longBody (q : Char) : List Char → Option (List Char × List Char)
  | [] => none
  | '\\' :: c :: r => (longBody q r).map fun (b, t) => ('\\' :: c :: b, t)
  | c :: r =>
    match r with
    | d :: e :: s =>
      if c = q ∧ d = q ∧ e = q then some ([], s)
      else (longBody q (d :: e :: s)).map fun (b, t) => (c :: b, t)
    | r => (longBody q r).map fun (b, t) => (c :: b, t)

/-- The text behind an opening quote up to its end, and the text behind that. -/
def body (q : Char) (cs : List Char) : Option (List Char × List Char) :=
  match cs with
  | a :: b :: r => if a = q ∧ b = q then longBody q r else shortBody q cs
  | cs => shortBody q cs

/-! ## Escapes -/

/-- The text begins with so many hexadecimal digits. -/
def hasHexDigits (n : Nat) (cs : List Char) : Bool :=
  (cs.take n).length == n && (cs.take n).all fun c => (hexDigit? c).isSome

/-- Eight hexadecimal digits are those of a code point. -/
def isCodePoint (cs : List Char) : Bool :=
  match cs with
  | '0' :: '0' :: '1' :: '0' :: _ => true
  | '0' :: '0' :: '0' :: _ => true
  | _ => false

/-- The text begins with the name of a character between braces. -/
def hasCharacterName (cs : List Char) : Bool :=
  match cs with
  | '\x7b' :: r =>
    let name := r.takeWhile (· != '\x7d')
    name.length < r.length && isCharacterName name
  | _ => false

/-- Every escape that calls for digits or a name has them. -/
def escapesComplete (bytes : Bool) : List Char → Bool
  | '\\' :: c :: r =>
    (if c = 'x' then hasHexDigits 2 r
      else if bytes then true
      else if c = 'u' then hasHexDigits 4 r
      else if c = 'U' then hasHexDigits 8 r && isCodePoint r
      else if c = 'N' then hasCharacterName r
      else true) && escapesComplete bytes r
  | _ :: r => escapesComplete bytes r
  | [] => true

/-! ## Holes -/

/-- The bracket that closes another one. -/
def closes (opened closed : Char) : Bool :=
  (opened == '(' && closed == ')') || (opened == '[' && closed == ']') ||
    (opened == '\x7b' && closed == '\x7d')

/-- The text of a hole up to the character that ends it, and the rest from that character on.  The
quote that a quotation in the hole is waiting for, and the brackets that are open, are carried
along; `skip` characters are taken as they are. -/
def holeText (quote : Option (Char × Bool)) (opened : List Char) (skip : Nat) :
    List Char → Option (List Char × List Char)
  | [] => none
  | c :: r =>
    let go quote opened skip := (holeText quote opened skip r).map fun (b, t) => (c :: b, t)
    let three := r.head? == some c && (r.drop 1).head? == some c
    if 0 < skip then go quote opened (skip - 1)
    else if c == '\\' then none
    else match quote with
      | some (q, long) =>
        if c != q then go quote opened 0
        else if !long then go none opened 0
        else if three then go none opened 2
        else go quote opened 0
      | none =>
        if isQuote c then
          if three then go (some (c, true)) opened 2 else go (some (c, false)) opened 0
        else if c == '[' || c == '\x7b' || c == '(' then go none (c :: opened) 0
        else if c == '#' then none
        else match opened with
          | o :: outer =>
            if c == ']' || c == '\x7d' || c == ')' then
              if closes o c then go none outer 0 else none
            else go none opened 0
          | [] =>
            if c == ']' || c == ')' then none
            else if c == '!' || c == '=' || c == '<' || c == '>' then
              if r.head? == some '=' then go none [] 1
              else if c == '<' || c == '>' then go none [] 0
              else some ([], c :: r)
            else if c == ':' || c == '\x7d' then some ([], c :: r)
            else go none [] 0

/-- Where in an escape a character of literal text stands. -/
inductive EscapePlace where
  | outside
  | behindBackslash
  | behindN
  | inName
deriving Repr, DecidableEq

/-- The place of the next character, behind a character that is no brace of a hole. -/
def EscapePlace.next (raw : Bool) (c : Char) : EscapePlace → EscapePlace
  | outside => if c == '\\' && !raw then behindBackslash else outside
  | behindBackslash => if c == 'N' then behindN else outside
  | behindN => if c == '\x7b' then inName else outside
  | inName => if c == '\x7d' then outside else inName

/-- A brace at the place is a brace of a hole. -/
def EscapePlace.seesBraces : EscapePlace → Bool
  | outside | behindBackslash => true
  | behindN | inName => false

/-- The literal text up to a brace that stands alone, and the rest from that brace on.  Within the
format of a hole no brace is doubled; the braces around the name of a character are no holes. -/
def literalText (raw : Bool) (level : Nat) (place : EscapePlace) :
    List Char → Option (List Char × List Char)
  | [] => some ([], [])
  | c :: r =>
    if place.seesBraces && (c == '\x7b' || c == '\x7d') then
      match r with
      | d :: s =>
        if level == 0 && d == c then
          (literalText raw level .outside s).map fun (b, t) => (c :: b, t)
        else if level == 0 && c == '\x7d' then none
        else some ([], c :: r)
      | [] => if level == 0 && c == '\x7d' then none else some ([], c :: r)
    else
      (literalText raw level (place.next raw c) r).map fun (b, t) => (c :: b, t)

/-- The blanks that may stand behind the sign of a hole. -/
def isHoleBlank (c : Char) : Bool :=
  c == ' ' || (9 ≤ c.toNat && c.toNat ≤ 13)

/-- The rest behind the sign `=` and its blanks, and behind a conversion. -/
def afterConversion (cs : List Char) : Option (List Char) :=
  let cs := match cs with
    | '=' :: r => r.dropWhile isHoleBlank
    | cs => cs
  match cs with
  | '!' :: c :: r => if c == 's' || c == 'r' || c == 'a' then some r else none
  | ['!'] => none
  | cs => some cs

/-- The texts of the holes, up to the end or to the brace that closes the hole whose format the text
is, and the rest. -/
def holesIn (raw : Bool) : Nat → Nat → List Char → Option (List (List Char) × List Char)
  | 0, _, _ => none
  | fuel + 1, level, cs => do
    let (literal, r) ← literalText raw level .outside cs
    if raw || escapesComplete false literal then
      match r with
      | '\x7b' :: r =>
        if 2 ≤ level then none
        else
          let (hole, r) ← holeText none [] 0 r
          let (inner, r) ← match ← afterConversion r with
            | ':' :: r => holesIn raw fuel (level + 1) r
            | r => some ([], r)
          match r with
          | '\x7d' :: r =>
            let (others, r) ← holesIn raw fuel level r
            some (hole :: (inner ++ others), r)
          | _ => none
      | r => some ([], r)
    else none

/-- The texts of the holes of a formatted quotation. -/
def holes? (raw : Bool) (cs : List Char) : Option (List (List Char)) :=
  match holesIn raw (cs.length + 1) 0 cs with
  | some (hs, []) => some hs
  | _ => none

/-- The quotation with this text, if it is well formed. -/
def ofBody? (s : Style) (cs : List Char) : Option Quotation :=
  if s.formatted then (holes? s.raw cs).map fun hs => ⟨false, some hs⟩
  else if s.bytes && cs.any fun c => 128 ≤ c.toNat then none
  else if !(s.raw || escapesComplete s.bytes cs) then none
  else some ⟨s.bytes, none⟩

/-- The quotation behind an opening quote, and the text behind it. -/
def read (s : Style) (q : Char) (cs : List Char) : Option (Quotation × List Char) := do
  let (b, r) ← body q cs
  let quotation ← ofBody? s b
  some (quotation, r)

end Quotation

end GrowthGrammar.Expression
