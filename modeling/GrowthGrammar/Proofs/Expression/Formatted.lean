import GrowthGrammar.Proofs.Expression.Constant

/-!
# Formatted numbers

A number of a symbol, a double or an integer, is formatted as a constant that comes to it in every
environment and that holds no mark of a word (`WritesConstant`).  Main statement: this is so for all
finite doubles and for all integers that are not beyond the doubles, so that doubles are formatted
alike exactly if they are equal; and integers are formatted in all their digits
(`formatted_readsBack`).
-/

namespace GrowthGrammar

open Expression Number

/-- The marks that part symbols and their parameters. -/
def wordMarks : List Char :=
  [',', ';', '(', ')']

/-- No mark of a word is in the text, and it is a constant that is the double in every environment. -/
structure WritesConstant (x : Float) (cs : List Char) : Prop where
  no_mark : ∀ c ∈ cs, c ∉ wordMarks
  read : ∃ q, Quantity.readConstant cs = .ok q ∧ ∀ env, q.evaluate env = .ok x

/-- The text is the digits of an integer behind its sign, without zeros in front of them. -/
def IsDecimal (n : ℤ) (cs : List Char) : Prop :=
  ∃ ds, cs = (if n < 0 then ['-'] else []) ++ ds ∧ (∀ c ∈ ds, c.isDigit = true) ∧
    Nat.ofDigitChars 10 ds 0 = n.natAbs ∧ ds ≠ [] ∧ (ds.head? = some '0' → ds = ['0'])

/-! ## Doubles -/

theorem not_mem_wordMarks {c : Char} (h : c ∈ numberAlphabet) : c ∉ wordMarks :=
  of_mem_numberAlphabet (P := (· ∉ wordMarks)) (by decide) h

theorem writesConstant_numberChars {x : Float} (h : x.isFinite = true) :
    WritesConstant (if x == 0 then 0 else x) (numberChars x) where
  no_mark _ hc := not_mem_wordMarks (mem_numberAlphabet_of_mem_numberChars hc)
  read := readConstant_numberChars ((isFinite_iff x).1 h)

/-- A text writes one double. -/
theorem WritesConstant.unique {x y : Float} {cs : List Char} (hx : WritesConstant x cs)
    (hy : WritesConstant y cs) : x = y := by
  obtain ⟨p, hp, hpx⟩ := hx.read
  obtain ⟨q, hq, hqy⟩ := hy.read
  obtain rfl : p = q := Except.ok.inj (hp.symm.trans hq)
  exact Except.ok.inj ((hpx .empty).symm.trans (hqy .empty))

theorem eq_zero_of_beq {x : Float} (h : (x == 0) = true) : x = 0 ∨ x = -0 := by
  obtain ⟨-, -, hx | ⟨hx, -⟩ | ⟨hx, -⟩⟩ := Float.beq_iff_ne_nan_and_eq.1 h
  · exact Or.inl hx
  · exact Or.inl hx
  · exact Or.inr hx

/-- Finite doubles that differ in the sign of zero at most are equal. -/
theorem beq_of_unsigned_eq {x y : Float} (hx : x.isFinite = true)
    (h : (if x == 0 then 0 else x) = if y == 0 then 0 else y) : (x == y) = true := by
  have hzero : ((0 : Float) == 0) = true := by decide +kernel
  split_ifs at h with h1 h2 h2
  · rcases eq_zero_of_beq h1 with rfl | rfl <;> rcases eq_zero_of_beq h2 with rfl | rfl <;>
      decide +kernel
  · exact absurd (h ▸ hzero) h2
  · exact absurd (h ▸ hzero) h1
  · subst h
    have hnumber : x ≠ Float.nan := by
      rintro rfl
      cases hx
    exact Float.beq_iff_ne_nan_and_eq.2 ⟨hnumber, hnumber, Or.inl rfl⟩

/-- Finite doubles are formatted alike if they are equal, and only then. -/
theorem numberChars_eq_iff {x y : Float} (hx : x.isFinite = true) (hy : y.isFinite = true) :
    numberChars x = numberChars y ↔ (x == y) = true := by
  constructor
  · intro h
    have hwrites := writesConstant_numberChars hx
    rw [h] at hwrites
    exact beq_of_unsigned_eq hx (hwrites.unique (writesConstant_numberChars hy))
  · intro h
    obtain ⟨-, -, rfl | ⟨rfl, rfl⟩ | ⟨rfl, rfl⟩⟩ := Float.beq_iff_ne_nan_and_eq.1 h
    · rfl
    · decide +kernel
    · decide +kernel

/-! ## Integers -/

theorem intDigits_eq (n : ℤ) :
    intDigits n = (if n < 0 then ['-'] else []) ++ natDigits n.natAbs := by
  unfold intDigits
  split_ifs <;> rfl

theorem isDecimal_intDigits (n : ℤ) : IsDecimal n (intDigits n) := by
  refine ⟨natDigits n.natAbs, intDigits_eq n, fun c => isDigit_of_mem_natDigits,
    Nat.ofDigitChars_ten_toDigits, natDigits_ne_nil _, fun hzero => ?_⟩
  rcases Nat.eq_zero_or_pos n.natAbs with h | h
  · rw [h]
    rfl
  · exact absurd hzero (head_natDigits_ne_zero h)

/-- An integer is formatted as a constant for the double nearest to it. -/
theorem writesConstant_intDigits {n : ℤ} {x : Float} (h : ofInt? n = some x) :
    WritesConstant x (intDigits n) := by
  obtain ⟨hM, rfl⟩ := ofInt?_eq_some h
  have hwrites : Writes (ratioMagnitude n.natAbs 1) (natDigits n.natAbs) :=
    .whole n.natAbs (lt_of_ratioMagnitude_lt hM) rfl
  have hread := readConstant_of_writes hwrites hM (n < 0)
  simp only [decide_eq_true_eq] at hread
  rw [← intDigits_eq] at hread
  refine ⟨fun c hc => not_mem_wordMarks ?_, hread⟩
  rw [intDigits_eq] at hc
  rcases List.mem_append.1 hc with hc | hc
  · split_ifs at hc
    · obtain rfl := List.mem_singleton.1 hc
      decide
    · cases hc
  · exact hwrites.mem_numberAlphabet hc

/-! ## Main statement -/

/-- A finite double is formatted as a constant for it, a zero without its sign, and alike with the
doubles that equal it.  An integer that is not beyond the doubles is formatted in its decimal digits,
as a constant for the double nearest to it. -/
theorem formatted_readsBack :
    (∀ x : Float, x.isFinite = true → ∃ s, (Given.double x).text? = some s ∧
      WritesConstant (if x == 0 then 0 else x) s.toList) ∧
    (∀ x y : Float, x.isFinite = true → y.isFinite = true →
      ((Given.double x).text? = (Given.double y).text? ↔ (x == y) = true)) ∧
    ∀ (n : ℤ) (x : Float), (Given.integer n).toFloat? = some x →
      ∃ s, (Given.integer n).text? = some s ∧ WritesConstant x s.toList ∧
        IsDecimal n s.toList := by
  refine ⟨fun x hx => ?_, fun x y hx hy => ?_, fun n x hx => ?_⟩
  · refine ⟨_, rfl, ?_⟩
    rw [String.toList_ofList]
    exact writesConstant_numberChars hx
  · rw [← numberChars_eq_iff hx hy, Given.text?, Given.text?, Option.some.injEq, String.ofList_inj]
  · have hn : ofInt? n = some x := hx
    refine ⟨intText n, by rw [Given.text?, hn]; rfl, ?_⟩
    rw [intText, String.toList_ofList]
    exact ⟨writesConstant_intDigits hn, isDecimal_intDigits n⟩

/-- The least positive double, the negative zero, and an integer halfway between two doubles. -/
theorem formatted_readsBack_halfway :
    (Float.ofBits 1).isFinite = true ∧ (-0 : Float).isFinite = true ∧
      (Given.integer (-9007199254740993)).toFloat? = some (-9007199254740992) ∧
      (∃ s, (Given.double (Float.ofBits 1)).text? = some s ∧
        WritesConstant (Float.ofBits 1) s.toList) ∧
      (∃ s, (Given.double (-0)).text? = some s ∧ WritesConstant 0 s.toList) ∧
      ¬(Given.double (Float.ofBits 1)).text? = (Given.double (-0)).text? ∧
      ∃ s, (Given.integer (-9007199254740993)).text? = some s ∧
        WritesConstant (-9007199254740992) s.toList ∧ IsDecimal (-9007199254740993) s.toList := by
  have hleast : (Float.ofBits 1).isFinite = true := by decide +kernel
  have hzero : (-0 : Float).isFinite = true := by decide +kernel
  have hpositive : ¬(Float.ofBits 1 == 0) = true := by decide +kernel
  have hnegative : (-0 : Float) == 0 := by decide +kernel
  have hdiffer : ¬(Float.ofBits 1 == -0) = true := by decide +kernel
  have hnearest : (Given.integer (-9007199254740993)).toFloat? = some (-9007199254740992) := by
    decide +kernel
  have hconstant := formatted_readsBack.1 _ hleast
  have hunsigned := formatted_readsBack.1 _ hzero
  rw [if_neg hpositive] at hconstant
  rw [if_pos hnegative] at hunsigned
  exact ⟨hleast, hzero, hnearest, hconstant, hunsigned,
    fun h => hdiffer ((formatted_readsBack.2.1 _ _ hleast hzero).1 h),
    formatted_readsBack.2.2 _ _ hnearest⟩

end GrowthGrammar
