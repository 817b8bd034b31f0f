import GrowthGrammar.Text.Line
import Mathlib.Data.List.Basic

/-!
# Lines of texts

Lines that are each ended by a newline are the lines of the text that they make (`lines_flatMap`),
and the lines of a text do not depend on how they end (`lines_unifyNewlines`).  But for empty lines,
they are what stands between its line breaks (`sameLines`).
-/

namespace GrowthGrammar.Text

/-! ## One kind of line ending -/

theorem unifyNewlines_of_no_return {cs : List Char} (h : '\r' ∉ cs) : unifyNewlines cs = cs := by
  induction cs with
  | nil => rfl
  | cons c r ih =>
    obtain ⟨hc, hr⟩ := not_or.1 (mt List.mem_cons.2 h)
    rw [unifyNewlines, ih hr]
    · rintro _ rfl
      exact absurd rfl hc
    · rintro rfl
      exact absurd rfl hc

theorem length_unifyNewlines_le (cs : List Char) : (unifyNewlines cs).length ≤ cs.length := by
  fun_induction unifyNewlines cs with
  | case1 => exact Nat.le_refl 0
  | case2 r ih =>
    rw [List.length_cons, List.length_cons, List.length_cons]
    omega
  | case3 r _ ih | case4 c r _ _ ih =>
    rw [List.length_cons, List.length_cons]
    omega

theorem lines_cons_of_ne {c : Char} (h : c ≠ '\r') (r : List Char) :
    lines (c :: r) = if isLineBreak c then [] :: lines r else consHead c (lines r) := by
  rw [lines]
  rintro s rfl
  exact absurd rfl h

/-- The endings of the lines do not count. -/
theorem lines_unifyNewlines (cs : List Char) : lines (unifyNewlines cs) = lines cs := by
  fun_induction unifyNewlines cs with
  | case1 => rfl
  | case2 r ih => rw [lines_newline, ih, lines]
  | case3 r hr ih =>
    rw [lines_newline, ih, lines]
    · rfl
    · exact fun s _ => hr s
  | case4 c r _ hc ih => rw [lines_cons_of_ne hc, lines_cons_of_ne hc, ih]

/-! ## Lines put together -/

theorem lines_append_newline {l : List Char} (h : ∀ c ∈ l, isLineBreak c = false) (r : List Char) :
    lines (l ++ '\n' :: r) = l :: lines r := by
  induction l with
  | nil => exact lines_newline r
  | cons c l ih =>
    have hc := h c List.mem_cons_self
    have hl := ih fun d hd => h d (List.mem_cons_of_mem _ hd)
    rw [List.cons_append, lines_cons hc, hl]
    rfl

/-- Lines without line breaks, each ended by a newline, are the lines of their text. -/
theorem lines_flatMap {ls : List (List Char)} (h : ∀ l ∈ ls, ∀ c ∈ l, isLineBreak c = false) :
    lines (ls.flatMap (· ++ ['\n'])) = ls := by
  induction ls with
  | nil => rfl
  | cons l ls ih =>
    have hl := h l List.mem_cons_self
    have hls := ih fun l' hl' => h l' (List.mem_cons_of_mem _ hl')
    rw [List.flatMap_cons, List.append_assoc, List.singleton_append, lines_append_newline hl, hls]

/-! ## Line breaks -/

/-- What ends a line: a character that does, or `\r` and `\n` together. -/
inductive IsLineEnding : List Char → Prop
  | char {c : Char} (h : isLineBreak c = true) : IsLineEnding [c]
  | pair : IsLineEnding ['\r', '\n']

/-- The text is within a line. -/
def hasNoBreak (cs : List Char) : Bool :=
  cs.all (!isLineBreak ·)

/-- A line begins behind the text. -/
def endsLine (cs : List Char) : Bool :=
  cs.getLast?.all isLineBreak

/-- A line ends in front of the text. -/
def beginsBehindLine (cs : List Char) : Bool :=
  cs.head?.all isLineBreak

theorem hasNoBreak_append (l r : List Char) :
    hasNoBreak (l ++ r) = (hasNoBreak l && hasNoBreak r) :=
  List.all_append

theorem hasNoBreak_iff {l : List Char} : hasNoBreak l = true ↔ ∀ c ∈ l, isLineBreak c = false := by
  simp [hasNoBreak]

/-- A text is a line and what begins where the line ends. -/
theorem exists_firstLine (cs : List Char) :
    ∃ l r, cs = l ++ r ∧ hasNoBreak l = true ∧ beginsBehindLine r = true := by
  induction cs with
  | nil => exact ⟨[], [], rfl, rfl, rfl⟩
  | cons c cs ih =>
    cases hc : isLineBreak c with
    | true => exact ⟨[], c :: cs, rfl, rfl, hc⟩
    | false =>
      obtain ⟨l, r, rfl, hl, hr⟩ := ih
      refine ⟨c :: l, r, rfl, ?_, hr⟩
      rw [hasNoBreak, List.all_cons, hc]
      exact hl

/-- A text is what ends where a line begins, and this line. -/
theorem exists_lastLine (cs : List Char) :
    ∃ r l, cs = r ++ l ∧ hasNoBreak l = true ∧ endsLine r = true := by
  obtain ⟨l, r, hcs, hl, hr⟩ := exists_firstLine cs.reverse
  refine ⟨r.reverse, l.reverse, ?_, ?_, ?_⟩
  · rw [← List.reverse_append, ← hcs, List.reverse_reverse]
  · rwa [hasNoBreak, List.all_reverse]
  · rwa [endsLine, List.getLast?_reverse]

theorem splitWhere_of_hasNoBreak {l : List Char} (h : hasNoBreak l = true) :
    splitWhere isLineBreak l = [l] := by
  rw [hasNoBreak_iff] at h
  induction l with
  | nil => rfl
  | cons c l ih =>
    obtain ⟨hc, hl⟩ := List.forall_mem_cons.1 h
    rw [splitWhere, hc, ih hl]
    rfl

/-- Lists of lines with the same first line and, behind it, the same lines that are not empty. -/
inductive SameLines : List (List Char) → List (List Char) → Prop
  | nil : SameLines [] [[]]
  | cons (l : List Char) {ls rs : List (List Char)}
      (h : ls.filter (· ≠ []) = rs.filter (· ≠ [])) : SameLines (l :: ls) (l :: rs)

theorem SameLines.filter_eq {ls rs : List (List Char)} (h : SameLines ls rs) :
    ls.filter (· ≠ []) = rs.filter (· ≠ []) := by
  cases h with
  | nil => rfl
  | cons l h => rw [List.filter_cons, List.filter_cons, h]

theorem SameLines.consHead {ls rs : List (List Char)} (h : SameLines ls rs) (c : Char) :
    SameLines (consHead c ls) (consHead c rs) := by
  cases h with
  | nil => exact .cons [c] rfl
  | cons l h => exact .cons (c :: l) h

/-- The lines of a text stand between its line breaks, but for empty lines. -/
theorem sameLines (cs : List Char) : SameLines (lines cs) (splitWhere isLineBreak cs) := by
  fun_induction lines cs with
  | case1 => exact .nil
  | case2 r ih => exact SameLines.cons [] ih.filter_eq
  | case3 c r _ hc ih =>
    rw [splitWhere, if_pos hc]
    exact .cons [] ih.filter_eq
  | case4 c r _ hc ih =>
    rw [splitWhere, if_neg hc]
    exact ih.consHead c

end GrowthGrammar.Text
