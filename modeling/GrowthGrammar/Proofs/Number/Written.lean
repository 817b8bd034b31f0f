import GrowthGrammar.Proofs.Number.Bits
import GrowthGrammar.Proofs.Number.Numeral

/-!
# The written form of a double

`Writes M cs` says that a text without a sign is decimal digits for the double of magnitude `M`.
The parameter of a symbol is written as such a text behind its sign if it is finite
(`numberChars_finite`), and as one of three names if it is not (`numberChars_of_not_finite`).
-/

namespace GrowthGrammar.Number

open GrowthGrammar.Text

/-- The text writes the double with this magnitude, in whole or in broken digits. -/
inductive Writes (M : ℕ) : List Char → Prop
  | whole (n : ℕ) (hn : n < 2 ^ 1024) (h : ratioMagnitude n 1 = M) : Writes M (natDigits n)
  | broken (w : Numeral) (hw : w.IsFractional) (h : w.decimal.magnitude = M) : Writes M w.chars

/-! ## Parts -/

theorem parts_of_finite {x : Float} (h : magnitude x < infinityMagnitude) :
    ∃ m q, parts x = .finite (isNegative x) m q := by
  have hf := field_le_of_lt_infinity h
  unfold parts Parts.ofMagnitude
  rw [twoTo_52]
  dsimp only
  split_ifs with h1 h2 h3
  · omega
  · omega
  · exact ⟨_, _, rfl⟩
  · exact ⟨_, _, rfl⟩

theorem parts_of_not_finite {x : Float} (h : ¬magnitude x < infinityMagnitude) :
    parts x = .infinite (isNegative x) ∨ parts x = .notANumber := by
  have hlt : magnitude x < 2 ^ 63 := by
    unfold magnitude
    rw [twoTo_63]
    exact Nat.mod_lt _ (by norm_num)
  rw [infinityMagnitude_eq] at h
  have hfield : magnitude x / 2 ^ 52 = 2047 := by omega
  unfold parts Parts.ofMagnitude
  rw [twoTo_52]
  dsimp only
  rw [if_pos hfield]
  split_ifs
  · exact Or.inl rfl
  · exact Or.inr rfl

/-- There is one infinity of each sign. -/
theorem eq_infinity_of_parts {x : Float} {negative : Bool} (h : parts x = .infinite negative) :
    x = infinity negative := by
  have hx : magnitude x = infinityMagnitude ∧ isNegative x = negative := by
    unfold parts Parts.ofMagnitude at h
    rw [twoTo_52] at h
    dsimp only at h
    rw [infinityMagnitude_eq]
    split_ifs at h with h1 h2
    · exact ⟨by omega, Parts.infinite.inj h⟩
  rw [infinity, ← hx.1, ← hx.2, ofMagnitude_magnitude]

/-- There is one double that is no number. -/
theorem eq_notANumber_of_parts {x : Float} (h : parts x = .notANumber) : x = notANumber := by
  have hx : magnitude x / 2 ^ 52 = 2047 ∧ magnitude x % 2 ^ 52 ≠ 0 := by
    unfold parts Parts.ofMagnitude at h
    rw [twoTo_52] at h
    dsimp only at h
    split_ifs at h with h1 h2
    · exact ⟨h1, h2⟩
  have hexponent : exponentField x.toBits.toBitVec = -1#11 := by
    apply BitVec.eq_of_toNat_eq
    rw [exponentField_toBits, hx.1]
    rfl
  have hfraction : fractionField x.toBits.toBitVec ≠ 0#52 := by
    intro hzero
    have hmod := congrArg BitVec.toNat hzero
    rw [toNat_fractionField] at hmod
    have hbits : x.toBits.toNat % 2 ^ 52 = 0 := hmod
    refine hx.2 ?_
    rw [magnitude, twoTo_63]
    omega
  have hbits : x.toBits.toBitVec = notANumber.toBits.toBitVec :=
    x.toModel.valid.eq_packedNaN hexponent hfraction
  exact Float.toBits_inj.1 (UInt64.toBitVec_inj.1 hbits)

/-- A finite double is zero when its significand is. -/
theorem significand_pos_iff {x : Float} (h : magnitude x < infinityMagnitude) {m : ℕ} {q : ℤ}
    (hp : parts x = .finite (isNegative x) m q) : 0 < m ↔ 0 < magnitude x := by
  obtain ⟨-, hq, -, hnormal, hval⟩ := bounds_of_parts h hp
  constructor
  · intro hm
    omega
  · intro hM
    rcases hnormal with hn | rfl
    · omega
    · simpa [hval] using hM

/-! ## Whole numbers -/

/-- The whole number of a double is rounded to the double. -/
theorem ratioMagnitude_whole {x : Float} (h : magnitude x < infinityMagnitude) {m : ℕ} {q : ℤ}
    (hp : parts x = .finite (isNegative x) m q) (hdvd : m % twoTo (-q) = 0) :
    ratioMagnitude (m / twoTo (-q) * twoTo q) 1 = magnitude x := by
  rcases Nat.eq_zero_or_pos m with rfl | hm
  · have hM : magnitude x = 0 := by
      have := significand_pos_iff h hp
      omega
    simp [ratioMagnitude, hM]
  · rw [← ratioMagnitude_of_parts h hp hm]
    refine ratioMagnitude_congr one_pos (twoTo_pos _) ?_
    calc m / twoTo (-q) * twoTo q * twoTo (-q)
        = m / twoTo (-q) * twoTo (-q) * twoTo q := by ring
      _ = m * twoTo q * 1 := by rw [Nat.div_mul_cancel (Nat.dvd_of_mod_eq_zero hdvd), mul_one]

theorem whole_lt {x : Float} (h : magnitude x < infinityMagnitude) {m : ℕ} {q : ℤ}
    (hp : parts x = .finite (isNegative x) m q) : m / twoTo (-q) * twoTo q < 2 ^ 1024 := by
  obtain ⟨hlt, -, hq, -, -⟩ := bounds_of_parts h hp
  calc m / twoTo (-q) * twoTo q
      ≤ m * twoTo 971 := Nat.mul_le_mul (Nat.div_le_self _ _) (twoTo_mono hq)
    _ < 2 ^ 53 * twoTo 971 := Nat.mul_lt_mul_of_pos_right hlt (twoTo_pos _)
    _ = 2 ^ 1024 := by rw [show (971 : ℤ) = (971 : ℕ) from rfl, twoTo_ofNat, ← pow_add]

/-! ## The text of a double -/

theorem intDigits_neg_of_pos {n : ℕ} (h : 0 < n) : intDigits (-(n : ℤ)) = '-' :: natDigits n := by
  unfold intDigits
  rw [if_pos (by omega), Int.natAbs_neg, Int.natAbs_natCast]

theorem whole_pos_iff {x : Float} (h : magnitude x < infinityMagnitude) {m : ℕ} {q : ℤ}
    (hp : parts x = .finite (isNegative x) m q) (hdvd : m % twoTo (-q) = 0) :
    0 < m / twoTo (-q) * twoTo q ↔ 0 < magnitude x := by
  rw [← significand_pos_iff h hp]
  constructor
  · intro hn
    refine Nat.pos_of_ne_zero ?_
    rintro rfl
    simp at hn
  · intro hm
    have hquotient := Nat.div_pos (Nat.le_of_dvd hm (Nat.dvd_of_mod_eq_zero hdvd)) (twoTo_pos (-q))
    exact Nat.mul_pos hquotient (twoTo_pos q)

theorem numberChars_whole {x : Float} (h : magnitude x < infinityMagnitude) {m : ℕ} {q : ℤ}
    (hp : parts x = .finite (isNegative x) m q) (hdvd : m % twoTo (-q) = 0) :
    numberChars x = if isNegative x ∧ 0 < magnitude x then
      '-' :: natDigits (m / twoTo (-q) * twoTo q) else natDigits (m / twoTo (-q) * twoTo q) := by
  have hpos := whole_pos_iff h hp hdvd
  set n := m / twoTo (-q) * twoTo q with hn
  have hwhole : whole? x = some (if isNegative x then -(n : ℤ) else n) := by
    rw [whole?, hp, Parts.whole?]
    simp only [hdvd, if_true, ← hn]
  rw [numberChars, hwhole]
  dsimp only
  cases isNegative x with
  | false => simp [intDigits_ofNat]
  | true =>
    rcases Nat.eq_zero_or_pos n with h0 | h0
    · have hzero : ¬0 < magnitude x := fun hM => (hpos.2 hM).ne' h0
      simp [h0, hzero, intDigits]
    · simp [hpos.1 h0, intDigits_neg_of_pos h0]

theorem numberChars_broken {x : Float} (h : magnitude x < infinityMagnitude) {m : ℕ} {q : ℤ}
    (hp : parts x = .finite (isNegative x) m q) (hdvd : ¬m % twoTo (-q) = 0) :
    ∃ cs, Writes (magnitude x) cs ∧
      numberChars x = if isNegative x ∧ 0 < magnitude x then '-' :: cs else cs := by
  have hm : 0 < m := by
    refine Nat.pos_of_ne_zero ?_
    rintro rfl
    exact hdvd (Nat.zero_mod _)
  obtain ⟨w, hchars, hw, hmag, -⟩ := exists_numeral_decimalChars (shortest (magnitude x) m q)
  refine ⟨w.chars, .broken w hw (hmag.trans (magnitude_shortest h hp hm)), ?_⟩
  have hwhole : whole? x = none := by
    rw [whole?, hp, Parts.whole?]
    simp only [hdvd, if_false]
  have hpos : 0 < magnitude x := (significand_pos_iff h hp).1 hm
  rw [numberChars, hwhole]
  simp only [Layout.chars, hp, hm.ne', if_false, hchars, hpos, and_true]
  cases isNegative x <;> rfl

/-- A finite double is written in digits, behind a minus sign if it is below zero. -/
theorem numberChars_finite {x : Float} (h : magnitude x < infinityMagnitude) :
    ∃ cs, Writes (magnitude x) cs ∧
      numberChars x = if isNegative x ∧ 0 < magnitude x then '-' :: cs else cs := by
  obtain ⟨m, q, hp⟩ := parts_of_finite h
  by_cases hdvd : m % twoTo (-q) = 0
  · exact ⟨_, .whole _ (whole_lt h hp) (ratioMagnitude_whole h hp hdvd),
      numberChars_whole h hp hdvd⟩
  · exact numberChars_broken h hp hdvd

/-- The texts of the doubles that are not finite. -/
def namesOfNonfinite : List (List Char) :=
  ["inf".toList, "-inf".toList, "nan".toList]

theorem numberChars_of_not_finite {x : Float} (h : ¬magnitude x < infinityMagnitude) :
    numberChars x ∈ namesOfNonfinite := by
  rcases parts_of_not_finite h with hp | hp
  · have hwhole : whole? x = none := by rw [whole?, hp]; rfl
    rw [numberChars, hwhole]
    simp only [Layout.chars, hp]
    cases isNegative x <;> decide
  · have hwhole : whole? x = none := by rw [whole?, hp]; rfl
    rw [numberChars, hwhole]
    simp only [Layout.chars, hp]
    decide

/-- In a data file a finite double is a sign and a numeral for the double without it. -/
theorem dataChars_finite {x : Float} (h : magnitude x < infinityMagnitude) :
    ∃ w : Numeral, w.IsFractional ∧ w.IsProper ∧ w.decimal.magnitude = magnitude x ∧
      Layout.data.chars x = (if isNegative x then ['-'] else []) ++ w.chars := by
  obtain ⟨m, q, hp⟩ := parts_of_finite h
  have hstandard (d : Decimal) : Layout.data.decimalChars d = Layout.standard.decimalChars d := rfl
  rcases Nat.eq_zero_or_pos m with rfl | hm
  · have hzero : magnitude x = 0 := by
      have := significand_pos_iff h hp
      omega
    refine ⟨⟨['0'], some ['0'], none, by simp, by simp, by simp⟩, Or.inl rfl,
      ⟨Or.inl rfl, by simp⟩, by rw [hzero]; rfl, ?_⟩
    simp only [Layout.chars, hp, if_true]
    rfl
  · have hmag := magnitude_shortest h hp hm
    have hpos : 0 < (shortest (magnitude x) m q).digits := by
      refine Nat.pos_of_ne_zero fun hd => ?_
      rw [Decimal.magnitude, if_pos (Or.inl hd)] at hmag
      exact ((significand_pos_iff h hp).1 hm).ne hmag
    obtain ⟨w, hchars, hw, hdecimal, hproper⟩ :=
      exists_numeral_decimalChars (shortest (magnitude x) m q)
    refine ⟨w, hw, hproper hpos, hdecimal.trans hmag, ?_⟩
    simp only [Layout.chars, hp, hm.ne', if_false, hstandard, hchars]

/-! ## Characters -/

/-- The characters in which doubles are written. -/
def numberAlphabet : List Char :=
  ['0', '1', '2', '3', '4', '5', '6', '7', '8', '9', '.', 'e', '+', '-', 'i', 'n', 'f', 'a']

/-- What holds of the characters of numbers, one by one, holds of a member. -/
theorem of_mem_numberAlphabet {P : Char → Prop} [DecidablePred P]
    (h : numberAlphabet.all (P ·) = true) {c : Char} (hc : c ∈ numberAlphabet) : P c :=
  of_decide_eq_true (List.all_eq_true.1 h c hc)

theorem mem_numberAlphabet_of_isDigit {c : Char} (h : c.isDigit = true) : c ∈ numberAlphabet :=
  of_isDigit (by decide) h

theorem mem_numberAlphabet_of_mem_exponentChars {e : ℤ} {c : Char}
    (h : c ∈ Layout.exponentChars e) : c ∈ numberAlphabet := by
  obtain ⟨ds, hchars, -, hds, -⟩ := exists_exponentDigits e
  rw [hchars] at h
  simp only [List.mem_cons] at h
  rcases h with rfl | rfl | h
  · decide
  · split_ifs <;> decide
  · exact mem_numberAlphabet_of_isDigit (hds c h)

theorem Numeral.mem_numberAlphabet (w : Numeral) {c : Char} (h : c ∈ w.chars) :
    c ∈ numberAlphabet := by
  rcases List.mem_append.1 h with h | h
  · exact mem_numberAlphabet_of_isDigit (w.front_digits c h)
  rcases List.mem_append.1 h with h | h
  · unfold pointChars at h
    split at h
    · rename_i ds hb
      rcases List.mem_cons.1 h with rfl | h
      · decide
      · exact mem_numberAlphabet_of_isDigit (w.back_digits ds hb c h)
    · cases h
  · unfold exponentChars at h
    split at h
    · exact mem_numberAlphabet_of_mem_exponentChars h
    · cases h

theorem Writes.mem_numberAlphabet {M : ℕ} {cs : List Char} (h : Writes M cs) {c : Char}
    (hc : c ∈ cs) : c ∈ numberAlphabet := by
  cases h with
  | whole n => exact mem_numberAlphabet_of_isDigit (isDigit_of_mem_natDigits hc)
  | broken w => exact w.mem_numberAlphabet hc

theorem Writes.exists_cons {M : ℕ} {cs : List Char} (h : Writes M cs) :
    ∃ d r, cs = d :: r ∧ d.isDigit = true := by
  cases h with
  | whole n =>
    obtain ⟨d, r, hd⟩ := List.exists_cons_of_ne_nil (natDigits_ne_nil n)
    exact ⟨d, r, hd, isDigit_of_mem_natDigits (hd ▸ List.mem_cons_self)⟩
  | broken w =>
    obtain ⟨d, r, hd⟩ := List.exists_cons_of_ne_nil w.front_ne_nil
    refine ⟨d, r ++ w.tailChars, ?_, w.front_digits d (hd ▸ List.mem_cons_self)⟩
    rw [Numeral.chars, hd, List.cons_append]

/-- Every double is written in the characters of numbers. -/
theorem mem_numberAlphabet_of_mem_numberChars {x : Float} {c : Char} (hc : c ∈ numberChars x) :
    c ∈ numberAlphabet := by
  by_cases h : magnitude x < infinityMagnitude
  · obtain ⟨cs, hcs, htext⟩ := numberChars_finite h
    rw [htext] at hc
    split_ifs at hc
    · rcases List.mem_cons.1 hc with rfl | hc
      · decide
      · exact hcs.mem_numberAlphabet hc
    · exact hcs.mem_numberAlphabet hc
  · have hnames : ∀ cs ∈ namesOfNonfinite, cs.all (numberAlphabet.contains ·) = true := by decide
    exact List.contains_iff_mem.1 (List.all_eq_true.1 (hnames _ (numberChars_of_not_finite h)) c hc)

theorem numberChars_ne_nil (x : Float) : numberChars x ≠ [] := by
  by_cases h : magnitude x < infinityMagnitude
  · obtain ⟨cs, hcs, htext⟩ := numberChars_finite h
    obtain ⟨d, r, rfl, -⟩ := hcs.exists_cons
    rw [htext]
    split_ifs <;> exact List.cons_ne_nil _ _
  · have hnames : ∀ cs ∈ namesOfNonfinite, cs ≠ [] := by decide
    exact hnames _ (numberChars_of_not_finite h)

end GrowthGrammar.Number
