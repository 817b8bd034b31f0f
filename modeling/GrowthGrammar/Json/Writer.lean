import GrowthGrammar.Json.Basic
import GrowthGrammar.Text.Quoted

/-!
# Writing data files

`Json.compact` writes a value on one line, and `Json.indented` writes one item or field a line, each
level two spaces further in.  Characters outside ASCII stand for themselves; control characters,
the double quote and the backslash are escaped.
-/

namespace GrowthGrammar.Json

open GrowthGrammar.Number GrowthGrammar.Text

/-- A character between the quotes of a string. -/
def stringChar (c : Char) : List Char :=
  if c = '"' ∨ c = '\\' then ['\\', c]
  else if c = '\n' then ['\\', 'n']
  else if c = '\r' then ['\\', 'r']
  else if c = '\t' then ['\\', 't']
  else if c = '\x08' then ['\\', 'b']
  else if c = '\x0c' then ['\\', 'f']
  else if c.toNat < 32 then '\\' :: 'u' :: hexDigits 4 c.toNat
  else [c]

/-- A string with its quotes. -/
def stringChars (s : String) : List Char :=
  '"' :: (s.toList.flatMap stringChar ++ ['"'])

mutual

/-- A value on one line. -/
def compactChars : Json → List Char
  | null => "null".toList
  | bool b => (if b then "true" else "false").toList
  | integer n => intDigits n
  | double x => Layout.data.chars x
  | string s => stringChars s
  | array items => '[' :: (compactItems items ++ [']'])
  | object fields => '{' :: (compactFields fields ++ ['}'])

/-- Items with a comma and a space between them. -/
def compactItems : List Json → List Char
  | [] => []
  | [v] => compactChars v
  | v :: w :: r => compactChars v ++ ',' :: ' ' :: compactItems (w :: r)

/-- Fields with a comma and a space between them. -/
def compactFields : List (String × Json) → List Char
  | [] => []
  | [(n, v)] => stringChars n ++ ':' :: ' ' :: compactChars v
  | (n, v) :: f :: r =>
    stringChars n ++ ':' :: ' ' :: (compactChars v ++ ',' :: ' ' :: compactFields (f :: r))

end

/-- The end of a line and the indentation of the next one. -/
def newline (level : Nat) : List Char :=
  '\n' :: List.replicate (2 * level) ' '

mutual

/-- A value with its items and fields on lines of their own, one level further in. -/
def indentedChars (level : Nat) : Json → List Char
  | null => "null".toList
  | bool b => (if b then "true" else "false").toList
  | integer n => intDigits n
  | double x => Layout.data.chars x
  | string s => stringChars s
  | array [] => ['[', ']']
  | array (v :: r) => '[' :: (indentedItems (level + 1) (v :: r) ++ newline level ++ [']'])
  | object [] => ['{', '}']
  | object (f :: r) => '{' :: (indentedFields (level + 1) (f :: r) ++ newline level ++ ['}'])

/-- Items, each on a line of its own. -/
def indentedItems (level : Nat) : List Json → List Char
  | [] => []
  | [v] => newline level ++ indentedChars level v
  | v :: w :: r => newline level ++ indentedChars level v ++ ',' :: indentedItems level (w :: r)

/-- Fields, each on a line of its own. -/
def indentedFields (level : Nat) : List (String × Json) → List Char
  | [] => []
  | [(n, v)] => newline level ++ stringChars n ++ ':' :: ' ' :: indentedChars level v
  | (n, v) :: f :: r =>
    newline level ++ stringChars n ++ ':' :: ' ' ::
      (indentedChars level v ++ ',' :: indentedFields level (f :: r))

end

/-- A value on one line, as a string. -/
def compact (v : Json) : String :=
  String.ofList (compactChars v)

/-- A value on several lines, as a string. -/
def indented (v : Json) : String :=
  String.ofList (indentedChars 0 v)

end GrowthGrammar.Json
