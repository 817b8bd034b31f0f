import GrowthGrammar.Text.Identifier
import Mathlib.Data.List.Basic

/-!
# Characters of identifiers

An identifier holds letters, digits and marks of any script, but in ASCII only letters, digits and
the underscore (`ascii_of_continuesIdentifier`), it begins with no digit
(`isDigit_of_opensIdentifier`), and it holds no blank (`isBlank_of_continuesIdentifier`).
-/

namespace GrowthGrammar.Text

variable {c : Char} {cs : List Char}

theorem ascii_of_continuesIdentifier (h : continuesIdentifier c = true) :
    c.isAlphanum = true ∨ c = '_' ∨ 128 ≤ c.toNat := by
  unfold continuesIdentifier at h
  split_ifs at h with hc
  · rw [Bool.or_eq_true, beq_iff_eq] at h
    exact h.imp id Or.inl
  · exact Or.inr (Or.inr (Nat.not_lt.1 hc))

theorem continuesIdentifier_of_mem (h : isIdentifier cs = true) (hc : c ∈ cs) :
    continuesIdentifier c = true := by
  cases cs with
  | nil => cases hc
  | cons d r =>
    simp only [isIdentifier, Bool.and_eq_true, List.all_eq_true] at h
    rcases List.mem_cons.1 hc with rfl | hc
    · exact continuesIdentifier_of_opens h.1
    · exact h.2 c hc

theorem isVariableName_iff :
    isVariableName cs = true ↔ isIdentifier cs = true ∧ isReserved (String.ofList cs) = false := by
  rw [isVariableName, Bool.and_eq_true, Bool.not_eq_true']

theorem isDigit_of_opensIdentifier (h : opensIdentifier c = true) : c.isDigit = false := by
  refine Bool.eq_false_iff.2 fun hd => ?_
  have hlt : c.toNat < 128 := by
    simp only [Char.isDigit, Bool.and_eq_true, decide_eq_true_eq] at hd
    exact Nat.lt_of_le_of_lt hd.2 (by decide)
  have hdigits : ∀ n < 128, (Char.ofNat n).isDigit = true →
      ((Char.ofNat n).isAlpha || Char.ofNat n == '_') = false := by
    decide
  have hc := hdigits c.toNat hlt
  rw [Char.ofNat_toNat] at hc
  rw [opensIdentifier, if_pos hlt, hc hd] at h
  cases h

/-! ## Blanks -/

/-- The code points of the blanks outside ASCII. -/
def blankPoints : List Nat :=
  [0x85, 0xA0, 0x1680, 0x2000, 0x2001, 0x2002, 0x2003, 0x2004, 0x2005, 0x2006, 0x2007, 0x2008,
    0x2009, 0x200A, 0x2028, 0x2029, 0x202F, 0x205F, 0x3000]

theorem mem_blankPoints (h : isBlank c = true) (hc : ¬c.toNat < 128) : c.toNat ∈ blankPoints := by
  simp only [isBlank, Bool.or_eq_true, Bool.and_eq_true, decide_eq_true_eq, beq_iff_eq] at h
  simp only [blankPoints, List.mem_cons, List.not_mem_nil, or_false]
  omega

theorem not_contains_of_mem_blankPoints {n : Nat} (h : n ∈ blankPoints) :
    identifierStart.contains n = false ∧ identifierInside.contains n = false := by
  have htables : blankPoints.all
      (fun n => !identifierStart.contains n && !identifierInside.contains n) = true := by
    decide +kernel
  simpa using List.all_eq_true.1 htables n h

theorem isBlank_of_continuesIdentifier (h : continuesIdentifier c = true) : isBlank c = false := by
  refine Bool.eq_false_iff.2 fun hblank => ?_
  by_cases hc : c.toNat < 128
  · have hascii : ∀ n < 128, isBlank (Char.ofNat n) = true →
        continuesIdentifier (Char.ofNat n) = false := by
      decide
    have hfalse := hascii c.toNat hc
    rw [Char.ofNat_toNat] at hfalse
    rw [hfalse hblank] at h
    cases h
  · obtain ⟨hstart, hinside⟩ := not_contains_of_mem_blankPoints (mem_blankPoints hblank hc)
    rw [continuesIdentifier, if_neg hc, hstart, hinside] at h
    cases h

theorem isBlank_of_mem_identifier (h : isIdentifier cs = true) (hc : c ∈ cs) :
    isBlank c = false :=
  isBlank_of_continuesIdentifier (continuesIdentifier_of_mem h hc)

end GrowthGrammar.Text
