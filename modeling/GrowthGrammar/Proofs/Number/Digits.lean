import GrowthGrammar.Number.Layout
import GrowthGrammar.Number.Numeral
import GrowthGrammar.Proofs.Number.Numeral

/-!
# Runs of digits

A run of digits is read up to what is neither a digit nor an underscore (`leadingDigits_append`).
The digits that write a natural number are a numeral for it, unless there are too many of them
(`readInteger_natDigits`), and no number with more digits than that is read from any text
(`digitCount_of_readInteger`).
-/

namespace GrowthGrammar.Number

open GrowthGrammar.Text

/-- The text begins neither with a digit nor with an underscore. -/
def EndsDigits (r : List Char) : Prop :=
  ∀ c s, r = c :: s → c.isDigit = false ∧ c ≠ '_'

theorem endsDigits_cons {c : Char} {r : List Char} (h : c.isDigit = false) (hc : c ≠ '_') :
    EndsDigits (c :: r) := by
  intro d s hr
  obtain ⟨rfl, -⟩ := List.cons.inj hr
  exact ⟨h, hc⟩

theorem digitRun_append {ds r : List Char} (hds : ∀ c ∈ ds, c.isDigit = true)
    (hr : EndsDigits r) : digitRun Char.isDigit (ds ++ r) = some (ds, r) := by
  induction ds with
  | nil =>
    cases r with
    | nil => rfl
    | cons c s =>
      obtain ⟨hc, hc'⟩ := hr c s rfl
      rw [List.nil_append, digitRun]
      · simp [hc, hc']
      · rintro - - rfl
        exact absurd rfl hc'
  | cons d ds ih =>
    have hd := hds d List.mem_cons_self
    rw [List.cons_append, digitRun]
    · simp [hd, ih fun c hc => hds c (List.mem_cons_of_mem _ hc)]
    · rintro - - rfl
      cases hd

theorem leadingDigits_append {ds r : List Char} (hne : ds ≠ [])
    (hds : ∀ c ∈ ds, c.isDigit = true) (hr : EndsDigits r) :
    leadingDigits (ds ++ r) = some (ds, r) := by
  cases ds with
  | nil => exact absurd rfl hne
  | cons d ds =>
    rw [List.cons_append, leadingDigits, if_pos (hds d List.mem_cons_self), ← List.cons_append,
      digitRun_append hds hr]

/-! ## Numerals of natural numbers -/

theorem numeralChar_of_isDigit {c : Char} (h : c.isDigit = true) : numeralChar c = c := by
  have hlt : c.toNat < 127 := by
    have := (isDigit_iff.1 h).2
    omega
  rw [numeralChar, if_pos hlt]

theorem isNumeralBlank_of_isDigit {c : Char} (h : c.isDigit = true) : isNumeralBlank c = false := by
  have hge : 48 ≤ c.toNat := (isDigit_iff.1 h).1
  have hspace : c ≠ ' ' := by
    rintro rfl
    exact absurd hge (by decide)
  have hcontrol : ¬c.toNat ≤ 13 := by omega
  simp [isNumeralBlank, hspace, hcontrol]

theorem numeralChars_of_digits {ds : List Char} (h : ∀ c ∈ ds, c.isDigit = true) :
    numeralChars ds = ds := by
  have hmap : ds.map numeralChar = ds := by
    conv_rhs => rw [← List.map_id ds]
    exact List.map_congr_left fun c hc => numeralChar_of_isDigit (h c hc)
  have hdrop {cs : List Char} (hcs : ∀ c ∈ cs, c.isDigit = true) :
      cs.dropWhile isNumeralBlank = cs := by
    cases cs with
    | nil => rfl
    | cons c r =>
      have hc := isNumeralBlank_of_isDigit (hcs c List.mem_cons_self)
      exact List.dropWhile_cons_of_neg (by rw [hc]; decide)
  unfold numeralChars
  rw [hmap, hdrop h]
  dsimp only
  rw [hdrop fun c hc => h c (List.mem_reverse.1 hc), List.reverse_reverse]

/-- A natural number is read from its digits, unless there are too many of them. -/
theorem readInteger_natDigits (n : ℕ) :
    readInteger (natDigits n) =
      if digitLimit < (natDigits n).length then none else some (n : ℤ) := by
  have hdigits : ∀ c ∈ natDigits n, c.isDigit = true := fun c => isDigit_of_mem_natDigits
  have hleading : leadingDigits (natDigits n) = some (natDigits n, []) := by
    have := leadingDigits_append (natDigits_ne_nil n) hdigits (r := []) (by rintro c s ⟨⟩)
    rwa [List.append_nil] at this
  have hsign : takeSign (natDigits n) = (false, natDigits n) := by
    unfold takeSign
    split
    · rename_i r hr
      have := hdigits '+' (hr ▸ List.mem_cons_self)
      cases this
    · rename_i r hr
      have := hdigits '-' (hr ▸ List.mem_cons_self)
      cases this
    · rfl
  have hvalue : Nat.ofDigitChars 10 (natDigits n) 0 = n := Nat.ofDigitChars_ten_toDigits
  rw [readInteger, numeralChars_of_digits hdigits, hsign]
  simp only [hleading, hvalue, Bool.false_eq_true, if_false]

/-! ## Numbers of bounded length -/

theorem ofDigitChars_lt_pow {ds : List Char} (hds : ∀ c ∈ ds, c.isDigit = true) :
    Nat.ofDigitChars 10 ds 0 < 10 ^ ds.length := by
  induction ds with
  | nil => exact one_pos
  | cons d ds ih =>
    have hd : d.toNat - '0'.toNat ≤ 9 := by
      have hle := (isDigit_iff.1 (hds d List.mem_cons_self)).2
      have hzero : '0'.toNat = 48 := rfl
      omega
    have hrest := ih fun c hc => hds c (List.mem_cons_of_mem _ hc)
    rw [Nat.ofDigitChars_cons, Nat.ofDigitChars_eq_ofDigitChars_zero, mul_zero, zero_add,
      List.length_cons, pow_succ]
    calc 10 ^ ds.length * (d.toNat - '0'.toNat) + Nat.ofDigitChars 10 ds 0
        < 10 ^ ds.length * (d.toNat - '0'.toNat) + 10 ^ ds.length := by omega
      _ = 10 ^ ds.length * (d.toNat - '0'.toNat + 1) := by ring
      _ ≤ 10 ^ ds.length * 10 := Nat.mul_le_mul_left _ (by omega)

/-- A number that is written in so many digits has no more of its own. -/
theorem digitCount_ofDigitChars_le {ds : List Char} (hds : ∀ c ∈ ds, c.isDigit = true) {k : ℕ}
    (hk : 0 < k) (h : ds.length ≤ k) : digitCount (Nat.ofDigitChars 10 ds 0) ≤ k :=
  digitCount_le_of_lt_pow hk
    ((ofDigitChars_lt_pow hds).trans_le (Nat.pow_le_pow_right (by norm_num) h))

theorem isDigit_of_digitRun {cs ds r : List Char} (h : digitRun Char.isDigit cs = some (ds, r)) :
    ∀ c ∈ ds, c.isDigit = true := by
  have hcons {c : Char} {s es : List Char} (hc : c.isDigit = true)
      (ih : ∀ {fs}, digitRun Char.isDigit s = some (fs, r) → ∀ c ∈ fs, c.isDigit = true)
      (hs : (digitRun Char.isDigit s).map (fun run => (c :: run.1, run.2)) = some (es, r)) :
      ∀ c ∈ es, c.isDigit = true := by
    obtain ⟨⟨fs, t⟩, hfs, heq⟩ := Option.map_eq_some_iff.1 hs
    obtain ⟨rfl, rfl⟩ := Prod.mk.inj heq
    exact List.forall_mem_cons.2 ⟨hc, ih hfs⟩
  fun_induction digitRun Char.isDigit cs generalizing ds with
  | case1 =>
    obtain ⟨rfl, -⟩ := Prod.mk.inj (Option.some.inj h)
    exact List.forall_mem_nil _
  | case2 c s hc ih => exact hcons hc ih h
  | case3 => cases h
  | case4 c s _ hc ih => exact hcons hc ih h
  | case5 => cases h
  | case6 =>
    obtain ⟨rfl, -⟩ := Prod.mk.inj (Option.some.inj h)
    exact List.forall_mem_nil _

theorem isDigit_of_leadingDigits {cs ds r : List Char} (h : leadingDigits cs = some (ds, r)) :
    ∀ c ∈ ds, c.isDigit = true := by
  cases cs with
  | nil => cases h
  | cons c s =>
    rw [leadingDigits] at h
    split_ifs at h
    exact isDigit_of_digitRun h

theorem natAbs_signed (negative : Bool) (n : ℕ) :
    (if negative then -(n : ℤ) else n).natAbs = n := by
  cases negative <;> simp

/-- An integer that is read has no more digits than are read. -/
theorem digitCount_of_readInteger {cs : List Char} {n : ℤ} (h : readInteger cs = some n) :
    digitCount n.natAbs ≤ digitLimit := by
  unfold readInteger at h
  split at h
  rename_i negative r _
  split at h
  · rename_i ds hds
    rw [ite_eq_iff] at h
    obtain ⟨-, h⟩ | ⟨hlong, h⟩ := h
    · cases h
    obtain rfl := Option.some.inj h
    rw [natAbs_signed]
    exact digitCount_ofDigitChars_le (isDigit_of_leadingDigits hds) (by decide)
      (Nat.not_lt.1 hlong)
  · cases h

end GrowthGrammar.Number
