import GrowthGrammar.Error

/-!
# Matching brackets

`closingIndex` finds the bracket that closes the one at an index; pairs in between are skipped.  A
bracket may be any character, and the two of a pair may be given as texts: one that is not a single
character stands nowhere.
-/

namespace GrowthGrammar

/-- How many characters of a text stand in front of the one that closes a bracket opened before the
text, when `depth` more brackets are open. -/
def closingOffset (opens closes : Char → Bool) : Nat → List Char → Option Nat
  | _, [] => none
  | depth, c :: r =>
    if opens c then (closingOffset opens closes (depth + 1) r).map (· + 1)
    else if closes c then
      match depth with
      | 0 => some 0
      | d + 1 => (closingOffset opens closes d r).map (· + 1)
    else (closingOffset opens closes depth r).map (· + 1)

/-- The character is the one that the text consists of. -/
def isOnly (text : String) (c : Char) : Bool :=
  text.toList == [c]

/-- The index of the bracket that closes the one at an index. -/
def closingIndex (text : List Char) (index : Int) (opening closing : String) :
    Except BracketError Nat :=
  let shown := String.ofList text
  match index with
  | .ofNat i =>
    match text.drop i with
    | c :: r =>
      if isOnly opening c then
        match closingOffset (isOnly opening) (isOnly closing) 0 r with
        | some k => .ok (i + 1 + k)
        | none => .error (.unclosed closing opening index shown)
      else .error (.noBracket opening index shown)
    | [] => .error (.noBracket opening index shown)
  | .negSucc _ => .error (.noBracket opening index shown)

end GrowthGrammar
