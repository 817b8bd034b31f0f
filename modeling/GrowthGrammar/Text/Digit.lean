import GrowthGrammar.Text.CodePoints

/-!
# Decimal digits

`digitValue?` is the value of a character that is a decimal digit in any script (the property
`Decimal_Number` of Unicode 14).  Such digits come in runs of ten, from zero to nine.  `hexDigit?`
is the value of a hexadecimal digit.
-/

namespace GrowthGrammar.Text

/-- The zeros of the scripts. -/
def digitZeros : CodePoints := .ofText "
660 6F0 7C0 966 9E6 A66 AE6 B66 BE6 C66 CE6 D66 DE6 E50 ED0 F20 1040 1090 17E0 1810 1946 19D0
1A80 1A90 1B50 1BB0 1C40 1C50 A620 A8D0 A900 A9D0 A9F0 AA50 ABF0 FF10 104A0 10D30 11066 110F0
11136 111D0 112F0 11450 114D0 11650 116C0 11730 118E0 11950 11C50 11D50 11DA0 16A60 16AC0 16B50
1D7CE 1D7D8 1D7E2 1D7EC 1D7F6 1E140 1E2F0 1E950 1FBF0"

/-- The value of a decimal digit of any script. -/
def digitValue? (c : Char) : Option Nat :=
  let n := c.toNat
  if n < 128 then
    if c.isDigit then some (n - '0'.toNat) else none
  else
    (digitZeros.ranges.find? fun z => z.first ≤ n && n < z.first + 10).map (n - ·.first)

/-- The value of a hexadecimal digit, in small or capital letters. -/
def hexDigit? (c : Char) : Option Nat :=
  if c.isDigit then some (c.toNat - '0'.toNat)
  else if 'a' ≤ c ∧ c ≤ 'f' then some (c.toNat - 'a'.toNat + 10)
  else if 'A' ≤ c ∧ c ≤ 'F' then some (c.toNat - 'A'.toNat + 10)
  else none

/-- The number that digits write in a base of at most 16. -/
def radixValue (base : Nat) (cs : List Char) : Nat :=
  cs.foldl (fun n c => base * n + (hexDigit? c).getD 0) 0

/-! ## Laws -/

theorem isDigit_iff {c : Char} : c.isDigit = true ↔ 48 ≤ c.toNat ∧ c.toNat ≤ 57 := by
  simp only [Char.isDigit, Bool.and_eq_true, decide_eq_true_eq, ge_iff_le, UInt32.le_iff_toNat_le]
  exact Iff.rfl

/-- What holds of the ten digits, one by one, holds of a digit. -/
theorem of_isDigit {P : Char → Prop} (h : ∀ n < 10, P (Char.ofNat (48 + n))) {c : Char}
    (hc : c.isDigit = true) : P c := by
  obtain ⟨hlow, hhigh⟩ := isDigit_iff.1 hc
  have hn := h (c.toNat - 48) (by omega)
  rwa [Nat.add_sub_cancel' hlow, Char.ofNat_toNat] at hn

theorem digitValue?_of_ascii {c : Char} (h : c.isDigit = true) :
    digitValue? c = some (c.toNat - '0'.toNat) := by
  have hc : c.toNat < 128 := by
    have := (isDigit_iff.1 h).2
    omega
  simp [digitValue?, hc, h]

end GrowthGrammar.Text
