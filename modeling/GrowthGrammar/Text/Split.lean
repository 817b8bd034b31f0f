/-!
# Cutting a text into pieces

`splitWhere` cuts a text at every character of a class and `splitAtArrow` at every `-->`; the pieces
keep their order and everything between the cuts, so that joining them gives the text back
(`intercalate_splitWhere`, `intercalate_splitAtArrow`).
-/

namespace GrowthGrammar.Text

/-- Puts a character in front of the first piece. -/
def consHead (c : Char) : List (List Char) → List (List Char)
  | [] => [[c]]
  | p :: ps => (c :: p) :: ps

/-- The pieces between the characters of a class, one more than there are such characters. -/
def splitWhere (sep : Char → Bool) : List Char → List (List Char)
  | [] => [[]]
  | c :: r => if sep c then [] :: splitWhere sep r else consHead c (splitWhere sep r)

/-- The pieces between the occurrences of one character. -/
def splitAt (sep : Char) (cs : List Char) : List (List Char) :=
  splitWhere (· == sep) cs

/-- The three characters between the two sides of a rule. -/
def arrow : List Char :=
  ['-', '-', '>']

/-- The pieces between the arrows `-->`, found from the left. -/
def splitAtArrow : List Char → List (List Char)
  | [] => [[]]
  | '-' :: '-' :: '>' :: r => [] :: splitAtArrow r
  | c :: r => consHead c (splitAtArrow r)

/-- The text before the first occurrence of a character, and the text after it if there is one. -/
def cutAt (sep : Char) : List Char → List Char × Option (List Char)
  | [] => ([], none)
  | c :: r => if c = sep then ([], some r) else let (a, b) := cutAt sep r; (c :: a, b)

/-! ## Joining gives the text back -/

theorem splitWhere_ne_nil (sep : Char → Bool) (cs : List Char) : splitWhere sep cs ≠ [] := by
  cases cs with
  | nil => simp [splitWhere]
  | cons c r =>
    cases h : sep c with
    | true => simp [splitWhere, h]
    | false => cases h' : splitWhere sep r <;> simp [splitWhere, h, h', consHead]

theorem intercalate_consHead (sep : List Char) (c : Char) (ps : List (List Char)) :
    sep.intercalate (consHead c ps) = c :: sep.intercalate ps := by
  cases ps with
  | nil => simp [consHead, List.intercalate]
  | cons p qs => cases qs <;> simp [consHead, List.intercalate, List.intersperse]

theorem intercalate_nil_cons (sep : List Char) {ps : List (List Char)} (h : ps ≠ []) :
    sep.intercalate ([] :: ps) = sep ++ sep.intercalate ps := by
  cases ps with
  | nil => exact absurd rfl h
  | cons p qs => simp [List.intercalate, List.intersperse]

/-- Pieces cut at one character, joined by it, are the text. -/
theorem intercalate_splitAt (sep : Char) (cs : List Char) :
    [sep].intercalate (splitAt sep cs) = cs := by
  induction cs with
  | nil => simp [splitAt, splitWhere, List.intercalate]
  | cons c r ih =>
    unfold splitAt at ih ⊢
    by_cases h : c = sep
    · subst h
      simp [splitWhere, intercalate_nil_cons _ (splitWhere_ne_nil _ r), ih]
    · simp [splitWhere, h, intercalate_consHead, ih]

theorem splitAtArrow_ne_nil (cs : List Char) : splitAtArrow cs ≠ [] := by
  fun_cases splitAtArrow cs with
  | case1 => simp
  | case2 r => simp
  | case3 c r _ => cases h : splitAtArrow r <;> simp [consHead]

/-- Pieces cut at the arrows, joined by arrows, are the text. -/
theorem intercalate_splitAtArrow (cs : List Char) :
    arrow.intercalate (splitAtArrow cs) = cs := by
  fun_induction splitAtArrow cs with
  | case1 => simp [List.intercalate]
  | case2 r ih => rw [intercalate_nil_cons _ (splitAtArrow_ne_nil r), ih]; rfl
  | case3 c r _ ih => rw [intercalate_consHead, ih]

end GrowthGrammar.Text
