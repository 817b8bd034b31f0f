import GrowthGrammar.Growth
import GrowthGrammar.Proofs.Fallible

/-!
# Runs of systems

A generation keeps the rules and counts one more (`step_eq_ok`).  A run goes on from the system that
its first part leaves (`advanceBy_add`), or ends for good at the first generation that fails
(`advanceBy_eq_some_iff`).  Its words are as many as the generations that it counts
(`length_words_trace`).
-/

namespace GrowthGrammar.Growth

variable {s t : Growth} {e : Error} {k m n : ℕ}

/-! ## One generation -/

theorem step_eq (s : Growth) :
    s.step = rewriteWord s.rules s.symbols >>= fun w => .ok ⟨w, s.rules, s.generation + 1⟩ := by
  unfold step
  cases rewriteWord s.rules s.symbols with
  | error e => rfl
  | ok w => rfl

theorem step_eq_ok :
    s.step = .ok t ↔
      ∃ w, rewriteWord s.rules s.symbols = .ok w ∧ t = ⟨w, s.rules, s.generation + 1⟩ := by
  rw [step_eq, bind_eq_ok]
  simp only [Except.ok.injEq, eq_comm]

theorem rules_step (h : s.step = .ok t) : t.rules = s.rules := by
  obtain ⟨w, -, rfl⟩ := step_eq_ok.1 h
  rfl

theorem generation_step (h : s.step = .ok t) : t.generation = s.generation + 1 := by
  obtain ⟨w, -, rfl⟩ := step_eq_ok.1 h
  rfl

/-! ## Parts of a run -/

theorem advance_natCast (n : ℕ) (s : Growth) : s.advance n = s.advanceBy n := by
  rw [advance, if_neg (Int.not_lt.2 (Int.natCast_nonneg n)), Int.toNat_natCast]

theorem advanceBy_zero (s : Growth) : advanceBy 0 s = (s, none) := rfl

theorem advanceBy_succ_of_ok (h : s.step = .ok t) (n : ℕ) :
    advanceBy (n + 1) s = advanceBy n t := by
  rw [advanceBy, h]

theorem advanceBy_succ_of_error (h : s.step = .error e) (n : ℕ) :
    advanceBy (n + 1) s = (s, some e) := by
  rw [advanceBy, h]

/-- A run goes on from the system that its first part leaves. -/
theorem advanceBy_add (h : advanceBy m s = (t, none)) (n : ℕ) :
    advanceBy (m + n) s = advanceBy n t := by
  induction m generalizing s with
  | zero =>
    obtain ⟨rfl, -⟩ := Prod.mk.inj h
    rw [Nat.zero_add]
  | succ m ih =>
    cases hs : s.step with
    | error e =>
      rw [advanceBy_succ_of_error hs] at h
      cases h
    | ok u =>
      rw [advanceBy_succ_of_ok hs] at h
      rw [Nat.add_right_comm, advanceBy_succ_of_ok hs, ih h]

/-- A part of a run that completes its generations completes them too. -/
theorem exists_advanceBy_of_le (h : advanceBy n s = (t, none)) (hk : k ≤ n) :
    ∃ u, advanceBy k s = (u, none) := by
  induction k generalizing s n with
  | zero => exact ⟨s, rfl⟩
  | succ k ih =>
    obtain ⟨n, rfl⟩ : ∃ m, n = m + 1 := ⟨n - 1, by omega⟩
    cases hs : s.step with
    | error e =>
      rw [advanceBy_succ_of_error hs] at h
      cases h
    | ok u =>
      rw [advanceBy_succ_of_ok hs] at h ⊢
      exact ih h (by omega)

/-- A run ends with an error at the first generation that fails. -/
theorem advanceBy_eq_some_iff :
    advanceBy n s = (t, some e) ↔ ∃ k < n, advanceBy k s = (t, none) ∧ t.step = .error e := by
  constructor
  · intro h
    induction n generalizing s with
    | zero => cases h
    | succ n ih =>
      cases hs : s.step with
      | error f =>
        rw [advanceBy_succ_of_error hs] at h
        obtain ⟨rfl, rfl⟩ : s = t ∧ f = e := by simpa using h
        exact ⟨0, Nat.succ_pos n, rfl, hs⟩
      | ok u =>
        rw [advanceBy_succ_of_ok hs] at h
        obtain ⟨k, hk, hrun, hfail⟩ := ih h
        exact ⟨k + 1, Nat.succ_lt_succ hk, by rw [advanceBy_succ_of_ok hs, hrun], hfail⟩
  · rintro ⟨k, hk, hrun, hfail⟩
    obtain ⟨m, rfl⟩ : ∃ m, n = k + (m + 1) := ⟨n - k - 1, by omega⟩
    rw [advanceBy_add hrun, advanceBy_succ_of_error hfail]

theorem advanceBy_snd_eq_some_iff :
    (advanceBy n s).2 = some e ↔ ∃ k < n, ∃ t, advanceBy k s = (t, none) ∧ t.step = .error e := by
  constructor
  · intro h
    obtain ⟨k, hk, hrun, hfail⟩ := advanceBy_eq_some_iff.1 (Prod.ext rfl h)
    exact ⟨k, hk, _, hrun, hfail⟩
  · rintro ⟨k, hk, t, hrun, hfail⟩
    rw [advanceBy_eq_some_iff.2 ⟨k, hk, hrun, hfail⟩]

theorem rules_advanceBy (n : ℕ) (s : Growth) : (advanceBy n s).1.rules = s.rules := by
  induction n generalizing s with
  | zero => rfl
  | succ n ih =>
    cases hs : s.step with
    | error e => rw [advanceBy_succ_of_error hs]
    | ok t => rw [advanceBy_succ_of_ok hs, ih, rules_step hs]

theorem generation_advanceBy (h : advanceBy n s = (t, none)) :
    t.generation = s.generation + n := by
  induction n generalizing s with
  | zero =>
    obtain ⟨rfl, -⟩ := Prod.mk.inj h
    rfl
  | succ n ih =>
    cases hs : s.step with
    | error e =>
      rw [advanceBy_succ_of_error hs] at h
      cases h
    | ok u =>
      rw [advanceBy_succ_of_ok hs] at h
      rw [ih h, generation_step hs]
      omega

/-! ## Words of a run -/

theorem final_trace (n : ℕ) (s : Growth) : (trace n s).final = (advanceBy n s).1 :=
  congrArg Prod.fst (trace_eq_advanceBy n s)

theorem failure_trace (n : ℕ) (s : Growth) : (trace n s).failure = (advanceBy n s).2 :=
  congrArg Prod.snd (trace_eq_advanceBy n s)

/-- A run makes a word for each generation that it counts. -/
theorem length_words_trace (n : ℕ) (s : Growth) :
    (trace n s).final.generation = s.generation + (trace n s).words.length := by
  induction n generalizing s with
  | zero => rfl
  | succ n ih =>
    rw [trace]
    cases hs : s.step with
    | error e => rfl
    | ok t =>
      simp only [List.length_cons, ih t, generation_step hs]
      omega

/-- The system one generation later than a run that fails does not come about. -/
theorem length_words_of_step_error (hrun : advanceBy k s = (t, none)) (hfail : t.step = .error e)
    (hk : k < n) : (trace n s).words.length = k := by
  have hfinal : (trace n s).final = t := by
    rw [final_trace, advanceBy_eq_some_iff.2 ⟨k, hk, hrun, hfail⟩]
  have hlength := length_words_trace n s
  rw [hfinal, generation_advanceBy hrun] at hlength
  omega

end GrowthGrammar.Growth
