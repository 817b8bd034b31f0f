import GrowthGrammar.Number.Decimal
import Mathlib.Data.Int.Log
import Mathlib.Data.Rat.Floor
import Mathlib.Tactic.Linarith
import Mathlib.Tactic.Ring

/-!
# Rounding to doubles is a function of the quotient

`ratioMagnitude num den` works on two natural numbers, but only their quotient counts
(`ratioMagnitude_mul_right`), since the binary exponent is the logarithm of the quotient
(`binaryExponent_eq_log`).  A quotient that is a double already is rounded to itself
(`ratioMagnitude_of_parts`), a whole number that is not rounded to infinity is below `2 ^ 1024`
(`lt_of_ratioMagnitude_lt`), and of a decimal only the number counts that it writes
(`Decimal.magnitude_mul_pow`).
-/

namespace GrowthGrammar.Number

/-! ## Powers as quotients -/

theorem twoTo_ofNat (n : ℕ) : twoTo n = 2 ^ n := by
  simp [twoTo]

theorem tenTo_ofNat (n : ℕ) : tenTo n = 10 ^ n := by
  simp [tenTo]

theorem twoTo_of_nonpos {e : ℤ} (h : e ≤ 0) : twoTo e = 1 := by
  simp [twoTo, Int.toNat_of_nonpos h]

theorem tenTo_of_nonpos {e : ℤ} (h : e ≤ 0) : tenTo e = 1 := by
  simp [tenTo, Int.toNat_of_nonpos h]

theorem twoTo_mono {e f : ℤ} (h : e ≤ f) : twoTo e ≤ twoTo f :=
  Nat.pow_le_pow_right two_pos (Int.toNat_le_toNat h)

theorem twoTo_52 : twoTo 52 = 2 ^ 52 := twoTo_ofNat 52

theorem twoTo_63 : twoTo 63 = 2 ^ 63 := twoTo_ofNat 63

/-- The two natural numbers for an exponent of two have the power as their quotient. -/
theorem twoTo_div_twoTo_neg (e : ℤ) : (twoTo e : ℚ) / twoTo (-e) = 2 ^ e := by
  obtain ⟨n, rfl | rfl⟩ := e.eq_nat_or_neg
  · rw [twoTo_ofNat, twoTo_of_nonpos (by omega)]
    simp
  · rw [neg_neg, twoTo_ofNat, twoTo_of_nonpos (by omega)]
    simp

/-! ## The binary exponent -/

/-- The logarithm of a positive rational between two powers of two that follow each other. -/
theorem log_eq_of_bounds {x : ℚ} {e : ℤ} (hl : 2 ^ e ≤ x) (hu : x < 2 ^ (e + 1)) :
    Int.log 2 x = e := by
  have hx : 0 < x := lt_of_lt_of_le (zpow_pos (by norm_num) e) hl
  have h1 : e ≤ Int.log 2 x := (Int.zpow_le_iff_le_log one_lt_two hx).1 (by exact_mod_cast hl)
  have h2 : Int.log 2 x < e + 1 := (Int.lt_zpow_iff_log_lt one_lt_two hx).1 (by exact_mod_cast hu)
  omega

theorem binaryExponent_eq_log {num den : ℕ} (hn : 0 < num) (hd : 0 < den) :
    binaryExponent num den = Int.log 2 ((num : ℚ) / den) := by
  have hd' : (0 : ℚ) < den := by exact_mod_cast hd
  set s : ℕ := den.log2 + 1 with hs
  set k : ℕ := num * 2 ^ s / den with hk
  have hden : den < 2 ^ s := Nat.lt_log2_self
  have hk0 : k ≠ 0 := by
    have h1 : den ≤ num * 2 ^ s := le_trans hden.le (Nat.le_mul_of_pos_left _ hn)
    exact (Nat.div_pos h1 hd).ne'
  -- the scaled quotient lies between `k` and `k + 1`, hence between two powers of two
  have hlow : 2 ^ k.log2 * den ≤ num * 2 ^ s :=
    (Nat.mul_le_mul_right den (Nat.log2_self_le hk0)).trans (Nat.div_mul_le_self _ _)
  have hupp : num * 2 ^ s < 2 ^ (k.log2 + 1) * den := by
    have h1 : num * 2 ^ s < (k + 1) * den := by
      rw [hk, mul_comm (_ + 1)]
      exact Nat.lt_mul_div_succ _ hd
    exact lt_of_lt_of_le h1 (Nat.mul_le_mul_right den Nat.lt_log2_self)
  have hpow (j : ℕ) : (2 : ℚ) ^ ((j : ℤ) - s) = 2 ^ j / 2 ^ s := by
    rw [zpow_sub₀ (by norm_num), zpow_natCast, zpow_natCast]
  have he : binaryExponent num den = (k.log2 : ℤ) - s := by
    rw [hk, ← twoTo_ofNat s]
    rfl
  rw [he]
  symm
  apply log_eq_of_bounds
  · rw [hpow, div_le_div_iff₀ (by positivity) hd']
    exact_mod_cast hlow
  · rw [show ((k.log2 : ℤ) - s + 1) = ((k.log2 + 1 : ℕ) : ℤ) - s by push_cast; ring, hpow,
      div_lt_div_iff₀ hd' (by positivity)]
    exact_mod_cast hupp

theorem binaryExponent_mul_right {num den c : ℕ} (hn : 0 < num) (hd : 0 < den) (hc : 0 < c) :
    binaryExponent (num * c) (den * c) = binaryExponent num den := by
  have hc' : (c : ℚ) ≠ 0 := by exact_mod_cast hc.ne'
  rw [binaryExponent_eq_log (Nat.mul_pos hn hc) (Nat.mul_pos hd hc), binaryExponent_eq_log hn hd]
  push_cast
  rw [mul_div_mul_right _ _ hc']

/-- The binary exponent of `m · 2 ^ q`. -/
theorem binaryExponent_twoTo {m : ℕ} (hm : 0 < m) (q : ℤ) :
    binaryExponent (m * twoTo q) (twoTo (-q)) = m.log2 + q := by
  rw [binaryExponent_eq_log (Nat.mul_pos hm (twoTo_pos q)) (twoTo_pos _)]
  have hv : ((m * twoTo q : ℕ) : ℚ) / twoTo (-q) = m * 2 ^ q := by
    rw [← twoTo_div_twoTo_neg q]
    push_cast
    ring
  have hq : (0 : ℚ) < 2 ^ q := zpow_pos (by norm_num) q
  rw [hv]
  apply log_eq_of_bounds
  · rw [zpow_add₀ (by norm_num), zpow_natCast]
    have := Nat.log2_self_le hm.ne'
    exact mul_le_mul_of_nonneg_right (by exact_mod_cast this) hq.le
  · rw [show (m.log2 + q + 1 : ℤ) = ((m.log2 + 1 : ℕ) : ℤ) + q by push_cast; ring,
      zpow_add₀ (by norm_num), zpow_natCast]
    have := Nat.lt_log2_self (n := m)
    exact mul_lt_mul_of_pos_right (by exact_mod_cast this) hq

/-! ## Rounding -/

theorem roundHalfEven_mul_right {num den c : ℕ} (hc : 0 < c) :
    roundHalfEven (num * c) (den * c) = roundHalfEven num den := by
  unfold roundHalfEven
  rw [Nat.mul_div_mul_right _ _ hc, Nat.mul_mod_mul_right, ← mul_assoc]
  have h : compare (2 * (num % den) * c) (den * c) = compare (2 * (num % den)) den := by
    simp only [Nat.compare_eq_ite_lt, Nat.mul_lt_mul_right hc]
  rw [h]

theorem roundHalfEven_mul_self {m c : ℕ} (hc : 0 < c) : roundHalfEven (m * c) c = m := by
  have h : compare (2 * (m * c % c)) c = .lt := by
    rw [Nat.mul_mod_left, Nat.compare_eq_lt]
    exact hc
  unfold roundHalfEven
  rw [h, Nat.mul_div_cancel _ hc]

/-- Only the quotient counts. -/
theorem ratioMagnitude_mul_right {num den c : ℕ} (hd : 0 < den) (hc : 0 < c) :
    ratioMagnitude (num * c) (den * c) = ratioMagnitude num den := by
  unfold ratioMagnitude
  rcases Nat.eq_zero_or_pos num with rfl | hn
  · simp
  · have h0 : num * c ≠ 0 := (Nat.mul_pos hn hc).ne'
    rw [if_neg h0, if_neg hn.ne', binaryExponent_mul_right hn hd hc]
    have h (e : ℤ) : roundHalfEven (num * c * twoTo (-e)) (den * c * twoTo e) =
        roundHalfEven (num * twoTo (-e)) (den * twoTo e) := by
      rw [mul_right_comm num, mul_right_comm den, roundHalfEven_mul_right hc]
    simp only [h]

theorem ratioMagnitude_congr {a b c d : ℕ} (hb : 0 < b) (hd : 0 < d) (h : a * d = c * b) :
    ratioMagnitude a b = ratioMagnitude c d := by
  rw [← ratioMagnitude_mul_right hb hd, h, mul_comm b d, ratioMagnitude_mul_right hd hb]

/-! ## Doubles are rounded to themselves -/

/-- The fields of the bits below an infinity. -/
theorem field_le_of_lt_infinity {M : ℕ} (h : M < infinityMagnitude) : M / 2 ^ 52 ≤ 2046 := by
  have : infinityMagnitude = 2047 * 2 ^ 52 := by rw [infinityMagnitude, twoTo_52]
  omega

/-- What a significand and an exponent are that stand for a double. -/
theorem bounds_of_parts {negative sign : Bool} {M m : ℕ} {q : ℤ} (hM : M < infinityMagnitude)
    (h : Parts.ofMagnitude negative M = .finite sign m q) :
    m < 2 ^ 53 ∧ -1074 ≤ q ∧ q ≤ 971 ∧ (2 ^ 52 ≤ m ∨ q = -1074) ∧
      M = (q + 1074).toNat * 2 ^ 52 + m := by
  have hf := field_le_of_lt_infinity hM
  unfold Parts.ofMagnitude at h
  rw [twoTo_52] at h
  have hmod := Nat.mod_lt M (y := 2 ^ 52) (by norm_num)
  have hdiv := Nat.div_add_mod M (2 ^ 52)
  dsimp only at h
  rw [if_neg (by omega)] at h
  split_ifs at h with h0 <;> obtain ⟨-, rfl, rfl⟩ := h
  · refine ⟨by omega, by omega, by omega, Or.inr rfl, ?_⟩
    rw [h0] at hdiv
    omega
  · refine ⟨by omega, by omega, by omega, Or.inl (by omega), ?_⟩
    have : ((M / 2 ^ 52 : ℕ) - 1075 + 1074 : ℤ).toNat = M / 2 ^ 52 - 1 := by omega
    rw [this]
    omega

theorem ratioMagnitude_of_parts {negative sign : Bool} {M m : ℕ} {q : ℤ}
    (hM : M < infinityMagnitude) (h : Parts.ofMagnitude negative M = .finite sign m q)
    (hm : 0 < m) : ratioMagnitude (m * twoTo q) (twoTo (-q)) = M := by
  obtain ⟨hlt, hq, -, hnormal, hval⟩ := bounds_of_parts hM h
  have hlog : max (m.log2 + q - 52) (-1074) = q := by
    have hle : m.log2 < 53 := (Nat.log2_lt hm.ne').2 hlt
    rcases hnormal with h52 | rfl
    · have : 52 ≤ m.log2 := (Nat.le_log2 hm.ne').2 h52
      omega
    · omega
  have hround : roundHalfEven (m * twoTo q * twoTo (-q)) (twoTo (-q) * twoTo q) = m := by
    rw [mul_assoc, mul_comm (twoTo q)]
    exact roundHalfEven_mul_self (Nat.mul_pos (twoTo_pos _) (twoTo_pos _))
  unfold ratioMagnitude
  rw [if_neg (Nat.mul_pos hm (twoTo_pos q)).ne', binaryExponent_twoTo hm, hlog]
  dsimp only
  rw [hround, twoTo_52, ← hval]
  exact min_eq_left hM.le

/-! ## Whole numbers -/

theorem le_roundHalfEven (num den : ℕ) : num / den ≤ roundHalfEven num den := by
  unfold roundHalfEven
  dsimp only
  split <;> omega

/-- A positive whole number has the exponent of its highest bit, or is rounded up from there. -/
theorem le_ratioMagnitude_one {n : ℕ} (hn : 0 < n) :
    min ((n.log2 + 1023) * twoTo 52) infinityMagnitude ≤ ratioMagnitude n 1 := by
  have hexponent : binaryExponent n 1 = n.log2 := by
    have h := binaryExponent_twoTo hn 0
    rwa [neg_zero, twoTo_of_nonpos le_rfl, mul_one, add_zero] at h
  set e : ℤ := n.log2 - 52 with he
  have hmax : max ((n.log2 : ℤ) - 52) (-1074) = e := max_eq_left (by omega)
  have hsignificand : twoTo 52 ≤ roundHalfEven (n * twoTo (-e)) (1 * twoTo e) := by
    refine le_trans ?_ (le_roundHalfEven _ _)
    rw [one_mul, Nat.le_div_iff_mul_le (twoTo_pos e)]
    calc twoTo 52 * twoTo e = 2 ^ n.log2 * twoTo (-e) := by
          have h2 (i : ℤ) : twoTo i = 2 ^ i.toNat := rfl
          simp only [h2, ← pow_add]
          congr 1
          omega
      _ ≤ n * twoTo (-e) := Nat.mul_le_mul_right _ (Nat.log2_self_le hn.ne')
  have hfield : (e + 1074).toNat = n.log2 + 1022 := by omega
  have hmagnitude : (n.log2 + 1023) * twoTo 52 ≤ (e + 1074).toNat * twoTo 52 +
      roundHalfEven (n * twoTo (-e)) (1 * twoTo e) := by
    rw [hfield, Nat.succ_mul]
    exact Nat.add_le_add_left hsignificand _
  unfold ratioMagnitude
  rw [if_neg hn.ne', hexponent, hmax]
  exact min_le_min_right _ hmagnitude

/-- A whole number that is not beyond all doubles is below `2 ^ 1024`. -/
theorem lt_of_ratioMagnitude_lt {n : ℕ} (h : ratioMagnitude n 1 < infinityMagnitude) :
    n < 2 ^ 1024 := by
  rcases Nat.eq_zero_or_pos n with rfl | hn
  · positivity
  · rw [← Nat.log2_lt hn.ne']
    by_contra hlog
    have hle : infinityMagnitude ≤ (n.log2 + 1023) * twoTo 52 :=
      Nat.mul_le_mul_right _ (by omega)
    have hmin := le_ratioMagnitude_one hn
    rw [min_eq_right hle] at hmin
    exact absurd h (not_lt.2 hmin)

/-- The double nearest to an integer has its sign, and the magnitude nearest to its own. -/
theorem ofInt?_eq_some {n : ℤ} {x : Float} (h : ofInt? n = some x) :
    ratioMagnitude n.natAbs 1 < infinityMagnitude ∧
      ofMagnitude (n < 0) (ratioMagnitude n.natAbs 1) = x := by
  have hle : ratioMagnitude n.natAbs 1 ≤ infinityMagnitude := by
    unfold ratioMagnitude
    split_ifs
    · exact Nat.zero_le _
    · exact min_le_right _ _
  unfold ofInt? at h
  dsimp only at h
  split_ifs at h with hinfinite
  exact ⟨lt_of_le_of_ne hle hinfinite, Option.some.inj h⟩

/-! ## Decimals -/

theorem digitCount_mul_ten {n : ℕ} (hn : 0 < n) : digitCount (n * 10) = digitCount n + 1 := by
  have h := Nat.toDigits_append_toDigits (b := 10) (by norm_num) hn (d := 0) (by norm_num)
  unfold digitCount
  rw [mul_comm, ← Nat.add_zero (10 * n), ← h]
  simp

theorem digitCount_mul_pow {n : ℕ} (hn : 0 < n) (k : ℕ) :
    digitCount (n * 10 ^ k) = digitCount n + k := by
  induction k with
  | zero => simp
  | succ k ih =>
    rw [pow_succ, ← mul_assoc, digitCount_mul_ten (Nat.mul_pos hn (by positivity)), ih]
    rfl

namespace Decimal

/-- Zeros behind the digits count as powers of ten. -/
theorem magnitude_mul_pow (n k : ℕ) (e : ℤ) :
    magnitude ⟨n * 10 ^ k, e⟩ = magnitude ⟨n, e + k⟩ := by
  rcases Nat.eq_zero_or_pos n with rfl | hn
  · simp [magnitude]
  · have htop : (digitCount (n * 10 ^ k) : ℤ) + e = digitCount n + (e + k) := by
      rw [digitCount_mul_pow hn]
      push_cast
      ring
    have hexp : k + e.toNat + (-(e + k)).toNat = (e + k).toNat + (-e).toNat := by omega
    have hpow : 10 ^ k * tenTo e * tenTo (-(e + k)) = tenTo (e + k) * tenTo (-e) := by
      have h10 (i : ℤ) : tenTo i = 10 ^ i.toNat := rfl
      simp only [h10, ← pow_add, hexp]
    have hratio : ratioMagnitude (n * 10 ^ k * tenTo e) (tenTo (-e)) =
        ratioMagnitude (n * tenTo (e + k)) (tenTo (-(e + k))) := by
      apply ratioMagnitude_congr (tenTo_pos _) (tenTo_pos _)
      calc n * 10 ^ k * tenTo e * tenTo (-(e + k))
          = n * (10 ^ k * tenTo e * tenTo (-(e + k))) := by ring
        _ = n * tenTo (e + k) * tenTo (-e) := by rw [hpow]; ring
    have h0 : n * 10 ^ k ≠ 0 := (Nat.mul_pos hn (by positivity)).ne'
    simp only [magnitude, ratio, htop, hratio, h0, hn.ne']

end Decimal

theorem le_digitCount_of_pow_le {n k : ℕ} (h : 10 ^ k ≤ n) : k < digitCount n := by
  by_contra hk
  rcases Nat.eq_zero_or_pos k with rfl | hpos
  · exact hk Nat.length_toDigits_pos
  · have := (Nat.length_toDigits_le_iff (b := 10) (by norm_num) hpos).1 (not_lt.1 hk)
    omega

theorem digitCount_le_of_lt_pow {n k : ℕ} (hk : 0 < k) (h : n < 10 ^ k) : digitCount n ≤ k :=
  (Nat.length_toDigits_le_iff (by norm_num) hk).2 h

theorem digitCount_mono {m n : ℕ} (h : m ≤ n) : digitCount m ≤ digitCount n := by
  have hpos : 0 < digitCount n := Nat.length_toDigits_pos
  exact digitCount_le_of_lt_pow hpos
    (h.trans_lt ((Nat.length_toDigits_le_iff (by norm_num) hpos).1 le_rfl))

/-- The exact decimal of a double is in the range in which decimals are rounded. -/
theorem exactDecimal_top {negative sign : Bool} {M m : ℕ} {q : ℤ} (hM : M < infinityMagnitude)
    (h : Parts.ofMagnitude negative M = .finite sign m q) (hm : 0 < m) :
    -330 ≤ (digitCount (exactDecimal m q).digits : ℤ) + (exactDecimal m q).exponent ∧
      (digitCount (exactDecimal m q).digits : ℤ) + (exactDecimal m q).exponent ≤ 310 := by
  obtain ⟨hlt, hq, hq', -, -⟩ := bounds_of_parts hM h
  set n : ℕ := (-q).toNat with hn
  have hn' : n ≤ 1074 := by omega
  have hdigits : (exactDecimal m q).digits = m * 2 ^ q.toNat * 5 ^ n := rfl
  have hexp : (exactDecimal m q).exponent = -n := by
    simp only [exactDecimal, hn]
    omega
  have h10 : (10 : ℕ) ^ n = 2 ^ n * 5 ^ n := mul_pow 2 5 n
  rw [hdigits, hexp]
  constructor
  · -- the digits are at least `5 ^ n`, and `2 ^ 1074` has less than 331 digits
    rcases Nat.lt_or_ge n 331 with hs | hs
    · omega
    · have hpow : 10 ^ (n - 331) ≤ 5 ^ n := by
        have h1 : 2 ^ n ≤ 10 ^ 331 :=
          (Nat.pow_le_pow_right (by norm_num) hn').trans (by decide +kernel)
        have h2 : 10 ^ n = 10 ^ (n - 331) * 10 ^ 331 := by
          rw [← pow_add, Nat.sub_add_cancel hs]
        have h3 : 10 ^ (n - 331) * 2 ^ n ≤ 5 ^ n * 2 ^ n := by
          rw [mul_comm (5 ^ n), ← h10, h2]
          exact Nat.mul_le_mul_left _ h1
        exact Nat.le_of_mul_le_mul_right h3 (by positivity)
      have h4 : 5 ^ n ≤ m * 2 ^ q.toNat * 5 ^ n :=
        Nat.le_mul_of_pos_left _ (Nat.mul_pos hm (by positivity))
      have := le_digitCount_of_pow_le (hpow.trans h4)
      omega
  · -- the double is below `2 ^ 1024`, which has 309 digits
    have h1 : m * 2 ^ q.toNat < 10 ^ 309 := by
      have hle : q.toNat ≤ 971 := by omega
      have h2 := Nat.mul_le_mul hlt.le (Nat.pow_le_pow_right two_pos hle)
      exact lt_of_le_of_lt h2 (by decide +kernel)
    have h3 : m * 2 ^ q.toNat * 5 ^ n < 10 ^ (309 + n) := by
      rw [pow_add]
      refine Nat.mul_lt_mul_of_lt_of_le h1 ?_ (by positivity)
      exact Nat.pow_le_pow_left (by norm_num) n
    have := digitCount_le_of_lt_pow (by omega) h3
    omega

theorem magnitude_exactDecimal {negative sign : Bool} {M m : ℕ} {q : ℤ}
    (hM : M < infinityMagnitude) (h : Parts.ofMagnitude negative M = .finite sign m q)
    (hm : 0 < m) : (exactDecimal m q).magnitude = M := by
  obtain ⟨hl, hu⟩ := exactDecimal_top hM h hm
  have hd : (exactDecimal m q).digits ≠ 0 :=
    (Nat.mul_pos (Nat.mul_pos hm (twoTo_pos q)) (Nat.pow_pos (by norm_num))).ne'
  have hratio : ratioMagnitude (exactDecimal m q).ratio.1 (exactDecimal m q).ratio.2 =
      ratioMagnitude (m * twoTo q) (twoTo (-q)) := by
    apply ratioMagnitude_congr (tenTo_pos _) (twoTo_pos _)
    have h10 : tenTo (min q 0) = 1 := tenTo_of_nonpos (by omega)
    have hneg : tenTo (-min q 0) = 5 ^ (-q).toNat * twoTo (-q) := by
      rw [show (-min q 0 : ℤ) = ((-q).toNat : ℕ) by omega, tenTo_ofNat]
      exact mul_pow 5 2 _
    simp only [Decimal.ratio, exactDecimal, h10, hneg, Nat.pow_eq]
    ring
  unfold Decimal.magnitude
  rw [if_neg (by simp only [hd, false_or]; omega), if_neg (by omega), hratio]
  exact ratioMagnitude_of_parts hM h hm

/-- The shortest decimal of a double is rounded to the double. -/
theorem magnitude_shortest {negative sign : Bool} {M m : ℕ} {q : ℤ}
    (hM : M < infinityMagnitude) (h : Parts.ofMagnitude negative M = .finite sign m q)
    (hm : 0 < m) : (shortest M m q).magnitude = M := by
  unfold shortest
  dsimp only
  generalize hf : List.findSome? _ _ = found
  cases found with
  | none => exact magnitude_exactDecimal hM h hm
  | some d =>
    obtain ⟨n, -, hn⟩ := List.exists_of_findSome?_eq_some hf
    simpa using List.find?_some hn

end GrowthGrammar.Number
