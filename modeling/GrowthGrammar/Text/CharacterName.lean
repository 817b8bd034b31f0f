import GrowthGrammar.Text.CharacterName.TableAToB
import GrowthGrammar.Text.CharacterName.TableCToF
import GrowthGrammar.Text.CharacterName.TableGToL
import GrowthGrammar.Text.CharacterName.TableMToR
import GrowthGrammar.Text.CharacterName.TableSToZ
import GrowthGrammar.Text.CodePoints
import GrowthGrammar.Text.NameList

/-!
# Names of characters

`isCharacterName` tells the names of single characters in Unicode 14, aliases included, from other
texts.  Most names are listed, and may be written in small letters.  The names of the syllables of
Hangul are put together from the names of their letters, and those of the unified ideographs from
their code points.
-/

namespace GrowthGrammar.Text

/-- The lists of names. -/
def nameLists : List String :=
  [namesAToB, namesCToF, namesGToL, namesMToR, namesSToZ]

/-- What stands behind a beginning, if the text has it. -/
def behind? (start : String) (cs : List Char) : Option (List Char) :=
  if start.toList.isPrefixOf cs then some (cs.drop start.length) else none

/-! ## Syllables -/

/-- The names of the letters at the start of a syllable. -/
def syllableHeads : List String :=
  ["", "G", "GG", "N", "D", "DD", "R", "M", "B", "BB", "S", "SS", "J", "JJ", "C", "K", "T", "P",
    "H"]

/-- The names of the vowels of a syllable. -/
def syllableVowels : List String :=
  ["A", "AE", "YA", "YAE", "EO", "E", "YEO", "YE", "O", "WA", "WAE", "OE", "YO", "U", "WEO", "WE",
    "WI", "YU", "EU", "YI", "I"]

/-- The names of the letters at the end of a syllable. -/
def syllableTails : List String :=
  ["", "G", "GG", "GS", "N", "NJ", "NH", "D", "L", "LG", "LM", "LB", "LS", "LT", "LP", "LH", "M",
    "B", "BS", "S", "SS", "NG", "J", "C", "K", "T", "P", "H"]

/-- A letter of the names of vowels, which no other letter's name has. -/
def isVowelLetter (c : Char) : Bool :=
  "AEIOUWY".toList.contains c

/-- The text names a syllable: a start, a vowel and an end. -/
def isSyllable (cs : List Char) : Bool :=
  let (head, r) := cs.span fun c => !isVowelLetter c
  let (vowel, tail) := r.span isVowelLetter
  syllableHeads.contains (String.ofList head) && syllableVowels.contains (String.ofList vowel) &&
    syllableTails.contains (String.ofList tail)

/-! ## Ideographs -/

/-- The unified ideographs. -/
def ideographs : CodePoints := .ofText "
3400-4DBF 4E00-9FFF 20000-2A6DF 2A700-2B738 2B740-2B81D 2B820-2CEA1 2CEB0-2EBE0 30000-3134A"

/-- A digit of a code point in a name. -/
def isCapitalHexDigit (c : Char) : Bool :=
  c.isDigit || ('A' ≤ c && c ≤ 'F')

/-- The text is the code point of an ideograph, in four or five digits. -/
def isIdeograph (cs : List Char) : Bool :=
  (cs.length == 4 || cs.length == 5) && cs.all isCapitalHexDigit &&
    ideographs.contains (hexValue cs)

/-! ## Names -/

/-- The text is the name of a character. -/
def isCharacterName (cs : List Char) : Bool :=
  match behind? "HANGUL SYLLABLE " cs, behind? "CJK UNIFIED IDEOGRAPH-" cs with
  | some r, _ => isSyllable r
  | none, some r => isIdeograph r
  | none, none => nameLists.any fun list => isListed list (cs.map Char.toUpper)

end GrowthGrammar.Text
