import GrowthGrammar.Number.Layout

/-!
# Symbols

A `Symbol` is a name with numbers, its parameters.  It is written as `Name` or `Name(p,q)`, and a
word of symbols with `; ` between them.
-/

namespace GrowthGrammar

open GrowthGrammar.Number

/-- A symbol of a growing word. -/
structure Symbol where
  name : String
  parameters : List Float

/-- A symbol with parameters that are written already. -/
def writtenSymbol (name : String) (parameters : List (List Char)) : List Char :=
  match parameters with
  | [] => name.toList
  | ps => name.toList ++ '(' :: ([','].intercalate ps ++ [')'])

/-- Written symbols with a semicolon and a space between them. -/
def joinedSymbols (symbols : List (List Char)) : List Char :=
  [';', ' '].intercalate symbols

namespace Symbol

/-- The text of a symbol. -/
def chars (s : Symbol) : List Char :=
  writtenSymbol s.name (s.parameters.map numberChars)

end Symbol

/-- The text of a word of symbols. -/
def wordChars (symbols : List Symbol) : List Char :=
  joinedSymbols (symbols.map Symbol.chars)

/-- The text of a word of symbols, as a string. -/
def wordText (symbols : List Symbol) : String :=
  String.ofList (wordChars symbols)

/-- The text of a symbol whose parameters are given numbers; `none` if one is beyond all doubles. -/
def givenSymbol? (name : String) (parameters : List Given) : Option (List Char) :=
  (parameters.mapM Given.text?).map fun ps => writtenSymbol name (ps.map String.toList)

/-- The symbol with given numbers as its parameters; `none` if one is beyond all doubles. -/
def Symbol.ofGiven? (name : String) (parameters : List Given) : Option Symbol :=
  (parameters.mapM Given.toFloat?).map fun ps => ⟨name, ps⟩

end GrowthGrammar
