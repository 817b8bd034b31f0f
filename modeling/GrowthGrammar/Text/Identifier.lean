import GrowthGrammar.Text.IdentifierTable

/-!
# Identifiers

`isIdentifier` says which texts are identifiers: a letter or `_`, then letters, digits and marks of
any script.  `isReserved` lists the words that are none of an expression's names.
-/

namespace GrowthGrammar.Text

/-- An identifier may begin with the character. -/
def opensIdentifier (c : Char) : Bool :=
  if c.toNat < 128 then c.isAlpha || c == '_' else identifierStart.contains c.toNat

/-- An identifier may hold the character after its first one. -/
def continuesIdentifier (c : Char) : Bool :=
  if c.toNat < 128 then c.isAlphanum || c == '_'
  else identifierStart.contains c.toNat || identifierInside.contains c.toNat

/-- The text is an identifier. -/
def isIdentifier : List Char → Bool
  | [] => false
  | c :: r => opensIdentifier c && r.all continuesIdentifier

/-- The words that the language of expressions keeps for itself. -/
def reservedWords : List String :=
  ["False", "None", "True", "and", "as", "assert", "async", "await", "break", "class", "continue",
    "def", "del", "elif", "else", "except", "finally", "for", "from", "global", "if", "import",
    "in", "is", "lambda", "nonlocal", "not", "or", "pass", "raise", "return", "try", "while",
    "with", "yield"]

/-- The word is reserved. -/
def isReserved (word : String) : Bool :=
  reservedWords.contains word

/-- A name that a rule or a configuration may introduce. -/
def isVariableName (cs : List Char) : Bool :=
  isIdentifier cs && !isReserved (String.ofList cs)

/-! ## Laws -/

theorem continuesIdentifier_of_opens {c : Char} (h : opensIdentifier c = true) :
    continuesIdentifier c = true := by
  unfold opensIdentifier at h
  unfold continuesIdentifier
  split at h <;> rename_i hc
  · simp only [hc, if_true, Bool.or_eq_true] at h ⊢
    rcases h with h | h
    · exact Or.inl (by simp [Char.isAlphanum, h])
    · exact Or.inr h
  · simp [hc, h]

theorem ne_nil_of_isIdentifier {cs : List Char} (h : isIdentifier cs = true) : cs ≠ [] := by
  rintro rfl; cases h

end GrowthGrammar.Text
