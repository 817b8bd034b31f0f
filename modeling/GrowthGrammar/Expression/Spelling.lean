import GrowthGrammar.Text.Blank

/-!
# The two spellings of operators

An expression may write `&&`, `||`, `!` and `^` for `and`, `or`, `not` and `**`.  `respell` writes
the words and `**` instead; the mark `!=` stays.
-/

namespace GrowthGrammar.Expression

open GrowthGrammar.Text

/-- The text with the words of connectives, and with `**` for powers. -/
def respell : List Char → List Char
  | '&' :: '&' :: r => ' ' :: 'a' :: 'n' :: 'd' :: ' ' :: respell r
  | '|' :: '|' :: r => ' ' :: 'o' :: 'r' :: ' ' :: respell r
  | '!' :: '=' :: r => '!' :: '=' :: respell r
  | '!' :: r => ' ' :: 'n' :: 'o' :: 't' :: ' ' :: respell r
  | '^' :: r => '*' :: '*' :: respell r
  | c :: r => c :: respell r
  | [] => []

/-- The text in its one spelling, without the blanks around it. -/
def normalForm (cs : List Char) : List Char :=
  trim (respell cs)

end GrowthGrammar.Expression
