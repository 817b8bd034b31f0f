import GrowthGrammar.Number.Layout
import GrowthGrammar.Number.Numeral
import GrowthGrammar.Proofs.Number.Rounding
import Mathlib.Data.List.TakeWhile

/-!
# Numerals in decimal digits

A `Numeral` is a number in decimal digits taken apart: the digits in front of the point, those
behind it and the exponent.  `Numeral.chars` is its text and `Numeral.decimal` the number.  The
standard layout of a decimal is the text of a numeral for the same number
(`exists_numeral_decimalChars`), although zeros are taken off its digits or put behind them.
-/

namespace GrowthGrammar.Number

open Layout (significantDigits)

/-- A number in decimal digits. -/
structure Numeral where
  front : List Char
  back : Option (List Char)
  exponent : Option ℤ
  front_ne_nil : front ≠ []
  front_digits : ∀ c ∈ front, c.isDigit = true
  back_digits : ∀ ds ∈ back, ∀ c ∈ ds, c.isDigit = true

namespace Numeral

/-- The point and the digits behind it. -/
def pointChars (w : Numeral) : List Char :=
  match w.back with
  | some ds => '.' :: ds
  | none => []

/-- The exponent with its letter. -/
def exponentChars (w : Numeral) : List Char :=
  match w.exponent with
  | some e => Layout.exponentChars e
  | none => []

/-- The text behind the digits in front of the point. -/
def tailChars (w : Numeral) : List Char :=
  w.pointChars ++ w.exponentChars

/-- The text of a numeral. -/
def chars (w : Numeral) : List Char :=
  w.front ++ w.tailChars

/-- The number that a numeral writes. -/
def decimal (w : Numeral) : Decimal :=
  .ofDigits w.front (w.back.getD []) (w.exponent.getD 0)

/-- The numeral has a point or an exponent. -/
def IsFractional (w : Numeral) : Prop :=
  w.back.isSome ∨ w.exponent.isSome

/-- The digits in front of the point are a zero alone or begin with none, and digits follow the
point. -/
structure IsProper (w : Numeral) : Prop where
  front : w.front = ['0'] ∨ w.front.head? ≠ some '0'
  back : w.back ≠ some []

end Numeral

/-! ## The digits of a number -/

theorem isDigit_of_mem_natDigits {n : ℕ} {c : Char} (h : c ∈ natDigits n) : c.isDigit = true :=
  Nat.isDigit_of_mem_toDigits (by norm_num) (by norm_num) h

theorem head_natDigits_ne_zero {n : ℕ} (h : 0 < n) : (natDigits n).head? ≠ some '0' := by
  induction n using Nat.strongRecOn with
  | ind n ih =>
    rcases Nat.lt_or_ge n 10 with hlt | hge
    · have hdigit : ∀ k < 10, 0 < k → [Nat.digitChar k].head? ≠ some '0' := by decide
      rw [natDigits, Nat.toDigits_of_lt_base hlt]
      exact hdigit n hlt h
    · have hdiv : 0 < n / 10 := by omega
      rw [natDigits, Nat.toDigits_of_base_le (by norm_num) hge, ← natDigits,
        List.head?_append_of_ne_nil _ (natDigits_ne_nil (n / 10))]
      exact ih (n / 10) (by omega) hdiv

/-- The digits of a number are its significant digits and zeros behind them. -/
theorem natDigits_eq_append_zeros (n : ℕ) :
    ∃ z, natDigits n = significantDigits n ++ List.replicate z '0' := by
  unfold significantDigits
  cases h : natDigits n with
  | nil => exact absurd h (natDigits_ne_nil n)
  | cons d r =>
    refine ⟨(r.reverse.takeWhile (· == '0')).length, ?_⟩
    have hz : (r.reverse.takeWhile (· == '0')).reverse =
        List.replicate (r.reverse.takeWhile (· == '0')).length '0' := by
      rw [List.eq_replicate_iff]
      refine ⟨List.length_reverse, fun c hc => ?_⟩
      simpa using List.mem_takeWhile_imp (List.mem_reverse.1 hc)
    rw [← hz, List.cons_append, ← List.reverse_append, List.takeWhile_append_dropWhile,
      List.reverse_reverse]

theorem significantDigits_ne_nil (n : ℕ) : significantDigits n ≠ [] := by
  unfold significantDigits
  cases h : natDigits n with
  | nil => exact absurd h (natDigits_ne_nil n)
  | cons d r => exact List.cons_ne_nil _ _

theorem isDigit_of_mem_significantDigits {n : ℕ} {c : Char} (h : c ∈ significantDigits n) :
    c.isDigit = true := by
  obtain ⟨z, hz⟩ := natDigits_eq_append_zeros n
  exact isDigit_of_mem_natDigits (hz ▸ List.mem_append_left _ h)

theorem head_significantDigits (n : ℕ) : (significantDigits n).head? = (natDigits n).head? := by
  obtain ⟨z, hz⟩ := natDigits_eq_append_zeros n
  rw [hz, List.head?_append_of_ne_nil _ (significantDigits_ne_nil n)]

/-- A decimal is given by its significant digits and the place of the point. -/
theorem Decimal.magnitude_eq_of_point (d : Decimal) :
    d.magnitude = magnitude ⟨Nat.ofDigitChars 10 (significantDigits d.digits) 0,
      digitCount d.digits + d.exponent - (significantDigits d.digits).length⟩ := by
  obtain ⟨z, hz⟩ := natDigits_eq_append_zeros d.digits
  have hval : d.digits = Nat.ofDigitChars 10 (significantDigits d.digits) 0 * 10 ^ z := by
    conv_lhs => rw [← Nat.ofDigitChars_ten_toDigits (n := d.digits), ← natDigits, hz]
    rw [Nat.ofDigitChars_append, Nat.ofDigitChars_replicate_zero, mul_comm]
  have hcount : digitCount d.digits = (significantDigits d.digits).length + z := by
    rw [digitCount, ← natDigits, hz, List.length_append, List.length_replicate]
  have hd : d.magnitude = magnitude
      ⟨Nat.ofDigitChars 10 (significantDigits d.digits) 0 * 10 ^ z, d.exponent⟩ := by
    rw [← hval]
  rw [hd, magnitude_mul_pow, hcount]
  congr 2
  push_cast
  ring

/-! ## Layouts -/

theorem ofDigitChars_zeros_append (k : ℕ) (ds : List Char) :
    Nat.ofDigitChars 10 (List.replicate k '0' ++ ds) 0 = Nat.ofDigitChars 10 ds 0 := by
  rw [Nat.ofDigitChars_append, Nat.ofDigitChars_replicate_zero, mul_zero]

/-- An exponent is written with its letter, its sign and digits for what it is without the sign. -/
theorem exists_exponentDigits (e : ℤ) :
    ∃ ds, Layout.exponentChars e = 'e' :: (if e < 0 then '-' else '+') :: ds ∧ ds ≠ [] ∧
      (∀ c ∈ ds, c.isDigit = true) ∧ Nat.ofDigitChars 10 ds 0 = e.natAbs := by
  have hdigits : ∀ c ∈ natDigits e.natAbs, c.isDigit = true := fun c => isDigit_of_mem_natDigits
  have hvalue : Nat.ofDigitChars 10 (natDigits e.natAbs) 0 = e.natAbs :=
    Nat.ofDigitChars_ten_toDigits
  refine ⟨_, rfl, ?_, ?_, ?_⟩
  · split_ifs
    · exact List.cons_ne_nil _ _
    · exact natDigits_ne_nil _
  · split_ifs
    · exact List.forall_mem_cons.2 ⟨rfl, hdigits⟩
    · exact hdigits
  · split_ifs
    · exact hvalue
    · exact hvalue

/-- Digits on both sides of a point make a numeral. -/
theorem exists_numeral_point {front back : List Char} (hne : front ≠ [])
    (hfront : ∀ c ∈ front, c.isDigit = true) (hback : ∀ c ∈ back, c.isDigit = true) :
    ∃ w : Numeral, front ++ '.' :: back = w.chars ∧ w.IsFractional ∧
      w.decimal = ⟨Nat.ofDigitChars 10 (front ++ back) 0, -back.length⟩ ∧
      (front = ['0'] ∨ front.head? ≠ some '0' → back ≠ [] → w.IsProper) := by
  refine ⟨⟨front, some back, none, hne, hfront, ?_⟩, ?_, Or.inl rfl, ?_, fun hfront hback =>
    ⟨hfront, fun h => hback (Option.some.inj h)⟩⟩
  · intro ds hmem
    obtain rfl := Option.some.inj hmem
    exact hback
  · simp [Numeral.chars, Numeral.tailChars, Numeral.pointChars, Numeral.exponentChars]
  · simp [Numeral.decimal, Decimal.ofDigits]

theorem isDigit_of_mem_zeros {k : ℕ} {c : Char} (h : c ∈ List.replicate k '0') :
    c.isDigit = true := by
  rw [List.eq_of_mem_replicate h]
  rfl

/-- Digits with a point make a numeral for the number that has its point there. -/
theorem exists_numeral_positional {ds : List Char} (hne : ds ≠ [])
    (hds : ∀ c ∈ ds, c.isDigit = true) (point : ℤ) :
    ∃ w : Numeral, Layout.standard.positional ds point = w.chars ∧ w.IsFractional ∧
      w.decimal.magnitude =
        Decimal.magnitude ⟨Nat.ofDigitChars 10 ds 0, point - ds.length⟩ ∧
      (ds.head? ≠ some '0' → w.IsProper) := by
  have hpoint : Layout.standard.keepsPoint = true := rfl
  unfold Layout.positional
  simp only [hpoint, if_true]
  split_ifs with hp hn
  · have hback : ∀ c ∈ List.replicate (-point).toNat '0' ++ ds, c.isDigit = true :=
      List.forall_mem_append.2 ⟨fun c hc => isDigit_of_mem_zeros hc, hds⟩
    obtain ⟨w, hchars, hfractional, hdecimal, hproper⟩ :=
      exists_numeral_point (List.cons_ne_nil '0' []) (by simp) hback
    have hvalue : Nat.ofDigitChars 10 (['0'] ++ (List.replicate (-point).toNat '0' ++ ds)) 0 =
        Nat.ofDigitChars 10 ds 0 := by
      rw [← List.append_assoc, List.singleton_append, ← List.replicate_succ,
        ofDigitChars_zeros_append]
    refine ⟨w, hchars, hfractional, ?_, fun _ => hproper (Or.inl rfl) (by simp [hne])⟩
    rw [hdecimal, hvalue, List.length_append, List.length_replicate]
    congr 2
    omega
  · have htake : ds.take point.toNat ≠ [] := by
      simp only [ne_eq, List.take_eq_nil_iff, hne, or_false]
      omega
    have hfront : ∀ c ∈ ds.take point.toNat, c.isDigit = true :=
      fun c hc => hds c (List.mem_of_mem_take hc)
    have hback : ∀ c ∈ ds.drop point.toNat, c.isDigit = true :=
      fun c hc => hds c (List.mem_of_mem_drop hc)
    obtain ⟨w, hchars, hfractional, hdecimal, hproper⟩ := exists_numeral_point htake hfront hback
    have hhead : (ds.take point.toNat).head? = ds.head? := by
      rw [List.head?_take, if_neg (by omega)]
    have hdrop : ds.drop point.toNat ≠ [] := by
      rw [ne_eq, List.drop_eq_nil_iff]
      omega
    refine ⟨w, hchars, hfractional, ?_, fun h => hproper (Or.inr (hhead ▸ h)) hdrop⟩
    rw [hdecimal, List.take_append_drop, List.length_drop]
    congr 2
    omega
  · set zeros := List.replicate (point.toNat - ds.length) '0' with hzeros
    have hfront : ∀ c ∈ ds ++ zeros, c.isDigit = true :=
      List.forall_mem_append.2 ⟨hds, fun c hc => isDigit_of_mem_zeros hc⟩
    have hback : ∀ c ∈ ['0'], c.isDigit = true := by simp
    obtain ⟨w, hchars, hfractional, hdecimal, hproper⟩ :=
      exists_numeral_point (by simp [hne]) hfront hback
    have hhead : (ds ++ zeros).head? = ds.head? := List.head?_append_of_ne_nil _ hne
    have hvalue : Nat.ofDigitChars 10 (ds ++ zeros ++ ['0']) 0 =
        Nat.ofDigitChars 10 ds 0 * 10 ^ (point.toNat - ds.length + 1) := by
      rw [hzeros, List.append_assoc, ← List.replicate_succ', Nat.ofDigitChars_append,
        Nat.ofDigitChars_replicate_zero, mul_comm]
    refine ⟨w, hchars, hfractional, ?_, fun h => hproper (Or.inr (hhead ▸ h)) (by simp)⟩
    rw [hdecimal, hvalue, Decimal.magnitude_mul_pow, List.length_singleton]
    congr 2
    push_cast
    omega

/-- The same for digits with an exponent. -/
theorem exists_numeral_scientific {ds : List Char} (hne : ds ≠ [])
    (hds : ∀ c ∈ ds, c.isDigit = true) (point : ℤ) :
    ∃ w : Numeral, Layout.scientific ds point = w.chars ∧ w.IsFractional ∧
      w.decimal.magnitude =
        Decimal.magnitude ⟨Nat.ofDigitChars 10 ds 0, point - ds.length⟩ ∧
      (ds.head? ≠ some '0' → w.IsProper) := by
  cases ds with
  | nil => exact absurd rfl hne
  | cons d r =>
    simp only [List.mem_cons, forall_eq_or_imp] at hds
    refine ⟨⟨[d], if r.isEmpty then none else some r, some (point - 1), by simp, by simp [hds.1],
      ?_⟩, ?_, Or.inr rfl, ?_, fun h => ⟨Or.inr h, ?_⟩⟩
    · intro ds hmem c hc
      split_ifs at hmem with h
      · cases hmem
      · obtain rfl := Option.some.inj hmem
        exact hds.2 c hc
    · cases r <;> simp [Layout.scientific, Numeral.chars, Numeral.tailChars, Numeral.pointChars,
        Numeral.exponentChars]
    · have hback : (if r.isEmpty then none else some r).getD [] = r := by
        cases r <;> rfl
      simp only [Numeral.decimal, Decimal.ofDigits, hback, Option.getD_some,
        List.singleton_append, List.length_cons]
      congr 2
      push_cast
      ring
    · cases r <;> simp

/-- The standard layout of a decimal is the text of a numeral with the same nearest double. -/
theorem exists_numeral_decimalChars (d : Decimal) :
    ∃ w : Numeral, Layout.standard.decimalChars d = w.chars ∧ w.IsFractional ∧
      w.decimal.magnitude = d.magnitude ∧ (0 < d.digits → w.IsProper) := by
  have hhead : 0 < d.digits → (significantDigits d.digits).head? ≠ some '0' := fun h =>
    head_significantDigits d.digits ▸ head_natDigits_ne_zero h
  have hne := significantDigits_ne_nil d.digits
  have hds := fun c => isDigit_of_mem_significantDigits (n := d.digits) (c := c)
  rw [d.magnitude_eq_of_point]
  unfold Layout.decimalChars
  dsimp only
  split_ifs
  · obtain ⟨w, hchars, hw, hmag, hproper⟩ := exists_numeral_positional hne hds
      ((digitCount d.digits : ℤ) + d.exponent)
    exact ⟨w, hchars, hw, hmag, fun h => hproper (hhead h)⟩
  · obtain ⟨w, hchars, hw, hmag, hproper⟩ := exists_numeral_scientific hne hds
      ((digitCount d.digits : ℤ) + d.exponent)
    exact ⟨w, hchars, hw, hmag, fun h => hproper (hhead h)⟩

end GrowthGrammar.Number
