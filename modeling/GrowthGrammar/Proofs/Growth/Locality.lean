import GrowthGrammar.Proofs.Growth.Run
import Mathlib.Order.Bounds.Basic
import Mathlib.Order.Lattice.Nat

/-!
# Words that grow side by side

The generation of a word in two parts is made of those of its parts, the left one first
(`step_append`).  Main statement: so is a whole run (`advance_append`).  If a part fails, the word
has grown by as many generations as the part that fails first, and where both fail in one generation
the error is that of the left part.
-/

namespace GrowthGrammar.Growth

variable {rules : List Rule} {X Y : List Symbol} {s t x y : Growth} {e : Error} {g k n : ℕ}

/-! ## One generation -/

theorem step_append (rules : List Rule) (X Y : List Symbol) (g : ℕ) :
    step ⟨X ++ Y, rules, g⟩ =
      step ⟨X, rules, g⟩ >>= fun x => step ⟨Y, rules, g⟩ >>= fun y =>
        .ok ⟨x.symbols ++ y.symbols, rules, g + 1⟩ := by
  simp only [step_eq, rewriteWord, flatMapM_append, bind_assoc]
  rfl

/-! ## Runs that complete their generations -/

/-- Parts that complete their generations complete them side by side. -/
theorem advanceBy_append (hx : advanceBy k ⟨X, rules, g⟩ = (x, none))
    (hy : advanceBy k ⟨Y, rules, g⟩ = (y, none)) :
    advanceBy k ⟨X ++ Y, rules, g⟩ = (⟨x.symbols ++ y.symbols, rules, g + k⟩, none) := by
  induction k generalizing X Y g with
  | zero =>
    obtain ⟨rfl, -⟩ := Prod.mk.inj hx
    obtain ⟨rfl, -⟩ := Prod.mk.inj hy
    rfl
  | succ k ih =>
    cases hX : step ⟨X, rules, g⟩ with
    | error e =>
      rw [advanceBy_succ_of_error hX] at hx
      cases hx
    | ok x' =>
      cases hY : step ⟨Y, rules, g⟩ with
      | error e =>
        rw [advanceBy_succ_of_error hY] at hy
        cases hy
      | ok y' =>
        rw [advanceBy_succ_of_ok hX] at hx
        rw [advanceBy_succ_of_ok hY] at hy
        obtain ⟨v, -, rfl⟩ := step_eq_ok.1 hX
        obtain ⟨w, -, rfl⟩ := step_eq_ok.1 hY
        have hstep : step ⟨X ++ Y, rules, g⟩ = .ok ⟨v ++ w, rules, g + 1⟩ := by
          rw [step_append, hX, hY]
          rfl
        rw [advanceBy_succ_of_ok hstep, ih hx hy, Nat.add_right_comm, Nat.add_assoc]

/-! ## Runs that fail -/

/-- A run of so many generations fails behind so many that it completes. -/
def FailsAfter (n k : ℕ) (s : Growth) : Prop :=
  (trace n s).failure.isSome ∧ (trace n s).words.length = k

theorem failsAfter_iff :
    FailsAfter n k s ↔ k < n ∧ ∃ t e, advanceBy k s = (t, none) ∧ t.step = .error e := by
  constructor
  · rintro ⟨hfailure, hlength⟩
    obtain ⟨e, he⟩ := Option.isSome_iff_exists.1 hfailure
    rw [failure_trace] at he
    obtain ⟨j, hj, t, hrun, hstep⟩ := advanceBy_snd_eq_some_iff.1 he
    rw [length_words_of_step_error hrun hstep hj] at hlength
    subst hlength
    exact ⟨hj, t, e, hrun, hstep⟩
  · rintro ⟨hk, t, e, hrun, hstep⟩
    refine ⟨?_, length_words_of_step_error hrun hstep hk⟩
    rw [failure_trace, advanceBy_eq_some_iff.2 ⟨k, hk, hrun, hstep⟩]
    rfl

theorem exists_failsAfter (h : (advanceBy n s).2.isSome) : ∃ k, FailsAfter n k s :=
  ⟨_, by rwa [failure_trace], rfl⟩

/-- A run completes what it completes before it fails. -/
theorem exists_advanceBy_of_failsAfter (h : ∀ j, FailsAfter n j s → k ≤ j) (hk : k ≤ n) :
    ∃ t, advanceBy k s = (t, none) := by
  cases hn : (advanceBy n s).2 with
  | none => exact exists_advanceBy_of_le (Prod.ext rfl hn) hk
  | some e =>
    obtain ⟨j, hj, t, hrun, hstep⟩ := advanceBy_snd_eq_some_iff.1 hn
    exact exists_advanceBy_of_le hrun (h j (failsAfter_iff.2 ⟨hj, t, e, hrun, hstep⟩))

theorem FailsAfter.exists_error (h : FailsAfter n k s) (hrun : advanceBy k s = (t, none)) :
    ∃ e, t.step = .error e ∧ advanceBy n s = (t, some e) := by
  obtain ⟨hk, t', e, hrun', hstep⟩ := failsAfter_iff.1 h
  obtain ⟨rfl, -⟩ := Prod.mk.inj (hrun.symm.trans hrun')
  exact ⟨e, hstep, advanceBy_eq_some_iff.2 ⟨k, hk, hrun, hstep⟩⟩

theorem exists_step_of_not_failsAfter (h : ¬FailsAfter n k s) (hk : k < n)
    (hrun : advanceBy k s = (t, none)) : ∃ u, t.step = .ok u := by
  cases hstep : t.step with
  | error e => exact absurd (failsAfter_iff.2 ⟨hk, t, e, hrun, hstep⟩) h
  | ok u => exact ⟨u, rfl⟩

/-! ## Main statement -/

theorem eq_of_advanceBy (h : advanceBy k ⟨X, rules, g⟩ = (x, none)) :
    x = ⟨x.symbols, rules, g + k⟩ := by
  have hrules : x.rules = rules := by
    simpa only [h] using rules_advanceBy k ⟨X, rules, g⟩
  have hgeneration : x.generation = g + k := generation_advanceBy h
  obtain ⟨symbols, r, g'⟩ := x
  obtain rfl : r = rules := hrules
  obtain rfl : g' = g + k := hgeneration
  rfl

theorem step_append_of_error (hx : advanceBy k ⟨X, rules, g⟩ = (x, none))
    (hy : advanceBy k ⟨Y, rules, g⟩ = (y, none))
    (h : x.step = .error e ∨ (∃ x', x.step = .ok x') ∧ y.step = .error e) :
    step ⟨x.symbols ++ y.symbols, rules, g + k⟩ = .error e := by
  rw [step_append, ← eq_of_advanceBy hx, ← eq_of_advanceBy hy]
  rcases h with h | ⟨⟨x', h⟩, h'⟩
  · rw [h]
    rfl
  · rw [h, ok_bind, h']
    rfl

/-- A word in two parts grows by the generations that both parts complete.  Both keep what they have
grown to, and the part that fails first ends the run with its error; the left part goes first. -/
theorem advance_append (rules : List Rule) (X Y : List Symbol) (g n : ℕ) :
    ((advance n ⟨X, rules, g⟩).2 = none → (advance n ⟨Y, rules, g⟩).2 = none →
      advance n ⟨X ++ Y, rules, g⟩ =
        (⟨(advance n ⟨X, rules, g⟩).1.symbols ++ (advance n ⟨Y, rules, g⟩).1.symbols, rules, g + n⟩,
          none)) ∧
    ((advance n ⟨X, rules, g⟩).2 ≠ none ∨ (advance n ⟨Y, rules, g⟩).2 ≠ none →
      ∃ k x y e,
        IsLeast {k | FailsAfter n k ⟨X, rules, g⟩ ∨ FailsAfter n k ⟨Y, rules, g⟩} k ∧
        advance k ⟨X, rules, g⟩ = (x, none) ∧ advance k ⟨Y, rules, g⟩ = (y, none) ∧
        FailsAfter n k ⟨X ++ Y, rules, g⟩ ∧
        advance n ⟨X ++ Y, rules, g⟩ = (⟨x.symbols ++ y.symbols, rules, g + k⟩, some e) ∧
        (FailsAfter n k ⟨X, rules, g⟩ → (advance n ⟨X, rules, g⟩).2 = some e) ∧
        (¬FailsAfter n k ⟨X, rules, g⟩ → (advance n ⟨Y, rules, g⟩).2 = some e)) := by
  simp only [advance_natCast]
  refine ⟨fun hx hy => advanceBy_append (Prod.ext rfl hx) (Prod.ext rfl hy), fun hfails => ?_⟩
  set S := {k | FailsAfter n k ⟨X, rules, g⟩ ∨ FailsAfter n k ⟨Y, rules, g⟩}
  have hne : S.Nonempty := by
    rcases hfails with h | h
    · obtain ⟨k, hk⟩ := exists_failsAfter (Option.isSome_iff_ne_none.2 h)
      exact ⟨k, Or.inl hk⟩
    · obtain ⟨k, hk⟩ := exists_failsAfter (Option.isSome_iff_ne_none.2 h)
      exact ⟨k, Or.inr hk⟩
  obtain ⟨k, hk⟩ : ∃ k, IsLeast S k := ⟨sInf S, Nat.sInf_mem hne, fun _ => Nat.sInf_le⟩
  have hkn : k < n := hk.1.elim (fun h => (failsAfter_iff.1 h).1) fun h => (failsAfter_iff.1 h).1
  obtain ⟨x, hx⟩ := exists_advanceBy_of_failsAfter (fun j hj => hk.2 (Or.inl hj)) hkn.le
  obtain ⟨y, hy⟩ := exists_advanceBy_of_failsAfter (fun j hj => hk.2 (Or.inr hj)) hkn.le
  have hrun := advanceBy_append hx hy
  -- Up to `k` nothing fails, and behind it a part does; the left one is rewritten first.
  by_cases hX : FailsAfter n k ⟨X, rules, g⟩
  · obtain ⟨e, hstep, hfinal⟩ := hX.exists_error hx
    have hstep' := step_append_of_error hx hy (Or.inl hstep)
    refine ⟨k, x, y, e, hk, hx, hy, failsAfter_iff.2 ⟨hkn, _, e, hrun, hstep'⟩,
      advanceBy_eq_some_iff.2 ⟨k, hkn, hrun, hstep'⟩, fun _ => congrArg Prod.snd hfinal,
      fun h => absurd hX h⟩
  · obtain ⟨e, hstep, hfinal⟩ := (hk.1.resolve_left hX).exists_error hy
    have hstep' := step_append_of_error hx hy
      (Or.inr ⟨exists_step_of_not_failsAfter hX hkn hx, hstep⟩)
    refine ⟨k, x, y, e, hk, hx, hy, failsAfter_iff.2 ⟨hkn, _, e, hrun, hstep'⟩,
      advanceBy_eq_some_iff.2 ⟨k, hkn, hrun, hstep'⟩, fun h => absurd h hX,
      fun _ => congrArg Prod.snd hfinal⟩

/-- A rule under which `A(x)` counts down and leaves a reciprocal behind at every step. -/
def fading : Rule :=
  ⟨"A", ["x"], none,
    [⟨"A", [⟨"x-1", .binary .subtract (.name "x") (.literal 1)⟩]⟩,
      ⟨"B", [⟨"1/x", .binary .divide (.literal 1) (.name "x")⟩]⟩], .empty⟩

theorem advance_append_fading :
    advance (1 : ℕ) ⟨[⟨"A", [1]⟩] ++ [⟨"A", [2]⟩], [fading], 0⟩ =
        (⟨(advance (1 : ℕ) ⟨[⟨"A", [1]⟩], [fading], 0⟩).1.symbols ++
          (advance (1 : ℕ) ⟨[⟨"A", [2]⟩], [fading], 0⟩).1.symbols, [fading], 1⟩, none) ∧
      ∃ x y e, advance (1 : ℕ) ⟨[⟨"A", [1]⟩], [fading], 0⟩ = (x, none) ∧
        advance (1 : ℕ) ⟨[⟨"A", [2]⟩], [fading], 0⟩ = (y, none) ∧
        advance (5 : ℕ) ⟨[⟨"A", [1]⟩] ++ [⟨"A", [2]⟩], [fading], 0⟩ =
          (⟨x.symbols ++ y.symbols, [fading], 1⟩, some e) ∧
        (advance (5 : ℕ) ⟨[⟨"A", [1]⟩], [fading], 0⟩).2 = some e := by
  have hcomplete := (advance_append [fading] [⟨"A", [1]⟩] [⟨"A", [2]⟩] 0 1).1 (by decide +kernel)
    (by decide +kernel)
  obtain ⟨k, x, y, e, -, hx, hy, hfails, hrun, hleft, -⟩ :=
    (advance_append [fading] [⟨"A", [1]⟩] [⟨"A", [2]⟩] 0 5).2 (Or.inl (by decide +kernel))
  have hlength : (trace 5 ⟨[⟨"A", [1]⟩] ++ [⟨"A", [2]⟩], [fading], 0⟩).words.length = 1 := by
    decide +kernel
  obtain rfl : k = 1 := hfails.2.symm.trans hlength
  exact ⟨hcomplete, x, y, e, hx, hy, hrun, hleft ⟨by decide +kernel, by decide +kernel⟩⟩

end GrowthGrammar.Growth
