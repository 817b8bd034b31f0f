import GrowthGrammar.Proofs.Description.Documented
import GrowthGrammar.Proofs.Expression.Failure
import GrowthGrammar.Proofs.Growth.FirstMatch
import GrowthGrammar.Proofs.Growth.Stray

/-!
# Failures of runs

A run fails with the error of a condition or of a successor's parameter, in the scope of a rule for a
symbol (`Growth.exists_rule_of_advance`, `Rule.exists_expression_of_rewrite`).  Main statement: apart
from a negative count, evaluations and runs fail with evaluation failures alone, unless a parameter
comes to an integer that is beyond all doubles and too long to be shown (`evaluation_documented`),
which truth values are enough to write (`evaluation_stray`).
-/

namespace GrowthGrammar

variable {r : Rule} {x : Symbol} {e : Error} {g : Growth} {n : ℕ}

/-! ## Where an error comes from -/

theorem Template.exists_quantity_of_generate {t : Template} {env : Environment}
    (h : t.generate env = .error e) : ∃ q ∈ t.parameters, q.evaluate env = .error e := by
  rw [generate, bind_eq_error_left (fun _ h => by cases h)] at h
  exact exists_mem_of_mapM_error h

/-- The error of a rule for a symbol is that of its condition or of a parameter of a successor, in
the scope of the rule for the symbol. -/
theorem Rule.exists_expression_of_rewrite (h : r.rewrite x = .error e) :
    r.IsFor x ∧ ((∃ c ∈ r.condition, c.holds (r.scope x) = .error e) ∨
      ∃ t ∈ r.successors, ∃ q ∈ t.parameters, q.evaluate (r.scope x) = .error e) := by
  rcases r.matches_or x with hmatch | hpass | ⟨e', hbalk⟩
  · rw [rewrite_of_matches hmatch, bind_eq_error_left (fun _ h => by cases h)] at h
    obtain ⟨t, ht, hgenerate⟩ := exists_mem_of_mapM_error h
    exact ⟨hmatch.1, Or.inr ⟨t, ht, Template.exists_quantity_of_generate hgenerate⟩⟩
  · rw [rewrite_of_passesOver hpass] at h
    cases h
  · rw [rewrite_of_balks hbalk] at h
    obtain rfl := Except.error.inj h
    exact ⟨hbalk.1, Or.inl hbalk.2⟩

theorem exists_rule_of_blockOf {rules : List Rule} (h : blockOf x rules = .error e) :
    ∃ r ∈ rules, r.rewrite x = .error e := by
  fun_induction blockOf x rules with
  | case1 => cases h
  | case2 r rules e' hr =>
    obtain rfl := Except.error.inj h
    exact ⟨r, List.mem_cons_self, hr⟩
  | case3 r rules block hr => cases h
  | case4 r rules hr ih =>
    obtain ⟨q, hq, herror⟩ := ih h
    exact ⟨q, List.mem_cons_of_mem r hq, herror⟩

namespace Growth

theorem exists_rule_of_step (h : g.step = .error e) :
    ∃ r ∈ g.rules, ∃ x, r.rewrite x = .error e := by
  rw [step_eq, bind_eq_error_left (fun _ h => by cases h), rewriteWord,
    flatMapM_eq_error_iff fun _ _ => Iff.rfl] at h
  obtain ⟨-, x, -, -, -, hblock⟩ := h
  obtain ⟨r, hr, herror⟩ := exists_rule_of_blockOf hblock
  exact ⟨r, hr, x, herror⟩

/-- A run fails with the error of one of its rules for some symbol. -/
theorem exists_rule_of_advance (h : (g.advance n).2 = some e) :
    ∃ r ∈ g.rules, ∃ x, r.rewrite x = .error e := by
  rw [advance_natCast] at h
  obtain ⟨k, -, t, hrun, hstep⟩ := advanceBy_snd_eq_some_iff.1 h
  have hrules := rules_advanceBy k g
  rw [hrun] at hrules
  rw [← hrules]
  exact exists_rule_of_step hstep

end Growth

/-! ## Classes of failures -/

/-- The class of an expression that has no value. -/
def failureClasses : List ErrorClass :=
  [.failure]

theorem Condition.keepsTo_holds (c : Condition) (env : Environment) :
    KeepsTo failureClasses (c.holds env) := by
  intro e h
  obtain ⟨f, -, rfl⟩ := Condition.holds_eq_error_iff.1 h
  exact List.mem_cons_self

theorem Quantity.isIn_of_evaluate {q : Quantity} {env : Environment} (h : q.evaluate env = .error e) :
    e.IsIn failureClasses := by
  rcases Quantity.evaluate_eq_error_iff.1 h with ⟨f, -, rfl⟩ | ⟨v, -, -, rfl⟩
  · exact Or.inl List.mem_cons_self
  · unfold notReal
    split
    · exact Or.inl List.mem_cons_self
    · exact Or.inr ⟨_, rfl⟩

theorem Rule.isIn_of_rewrite (h : r.rewrite x = .error e) : e.IsIn failureClasses := by
  obtain ⟨-, ⟨c, -, hc⟩ | ⟨t, -, q, -, hq⟩⟩ := Rule.exists_expression_of_rewrite h
  · exact Or.inl (c.keepsTo_holds _ e hc)
  · exact Quantity.isIn_of_evaluate hq

namespace Growth

/-- The system that a run ends with, unless it ends with an error. -/
def outcome (count : Int) (g : Growth) : Except Error Growth :=
  match g.advance count with
  | (t, none) => .ok t
  | (_, some e) => .error e

theorem outcome_eq_error_iff {count : Int} :
    g.outcome count = .error e ↔ (g.advance count).2 = some e := by
  unfold outcome
  split <;> simp_all

/-- The stray error of a run is that of the first generation that fails. -/
theorem outcome_natCast_eq_stray_iff {s : Stray} :
    g.outcome n = .error (.stray s) ↔ ∃ k < n, ∃ t, g.advance k = (t, none) ∧ t.Strays s := by
  simp only [outcome_eq_error_iff, advance_natCast, advanceBy_snd_eq_some_iff, step_eq_stray_iff]

theorem failsWith_outcome (g : Growth) (n : ℕ) :
    FailsWith (Error.IsIn failureClasses) (g.outcome n) := by
  intro e h
  obtain ⟨r, -, x, hr⟩ := exists_rule_of_advance (outcome_eq_error_iff.1 h)
  exact Rule.isIn_of_rewrite hr

theorem outcome_of_neg {count : Int} (h : count < 0) :
    g.outcome count = .error (.stray .negativeCount) := by
  rw [outcome_eq_error_iff, advance, if_pos h]

/-- A run keeps to evaluation failures exactly if its count is not negative and no system that it
comes by strays. -/
theorem keepsTo_outcome_iff (g : Growth) (count : Int) :
    KeepsTo failureClasses (g.outcome count) ↔
      0 ≤ count ∧ ∀ k : ℕ, k < count → ∀ t s, g.advance k = (t, none) → ¬t.Strays s := by
  rcases Int.lt_or_le count 0 with hneg | hcount
  · have hnot : ¬KeepsTo failureClasses (g.outcome count) := by
      intro h
      simpa [failureClasses, Error.errorClass] using h _ (outcome_of_neg hneg)
    exact iff_of_false hnot fun h => absurd h.1 (Int.not_le.2 hneg)
  · obtain ⟨n, rfl⟩ := Int.eq_ofNat_of_zero_le hcount
    rw [and_iff_right hcount, keepsTo_iff (by decide) (g.failsWith_outcome n) fun _ =>
      outcome_natCast_eq_stray_iff]
    simp only [Int.ofNat_lt]
    exact ⟨fun h k hk t s hrun hs => h s ⟨k, hk, t, hrun, hs⟩,
      fun h s ⟨k, hk, t, hrun, hs⟩ => h k hk t s hrun hs⟩

end Growth

/-! ## Main statement -/

/-- A parameter's expression keeps to evaluation failures unless it strays, a condition always, and a
run unless its count is negative or a generation strays. -/
theorem evaluation_documented (q : Quantity) (c : Condition) (env : Environment) (g : Growth)
    (count : Int) :
    (KeepsTo failureClasses (q.evaluate env) ↔ ∀ s, ¬q.Strays env s) ∧
      KeepsTo failureClasses (c.holds env) ∧
      (KeepsTo failureClasses (g.outcome count) ↔
        0 ≤ count ∧ ∀ k : ℕ, k < count → ∀ t s, g.advance k = (t, none) → ¬t.Strays s) := by
  refine ⟨?_, c.keepsTo_holds env, g.keepsTo_outcome_iff count⟩
  exact keepsTo_iff (by decide) (fun _ => Quantity.isIn_of_evaluate) fun _ =>
    Quantity.evaluate_eq_stray_iff

/-- An integer of 9392 digits, a power of threes that are sums of truth values. -/
def hugePower : List Char :=
  ("(((true+true+true)^((true+true+true)^(true+true+true)))" ++
    "^((true+true+true)^(true+true+true)))^((true+true+true)^(true+true+true))").toList

/-- A parameter that comes to a huge power strays, and so does a run that needs it. -/
theorem evaluation_stray :
    (∃ q, Quantity.read hugePower = .ok q ∧ ¬KeepsTo failureClasses (q.evaluate .empty)) ∧
      ∃ d, Description.read .empty ("Axiom: A\nRules:\nA --> A(".toList ++ hugePower ++ [')']) = .ok d ∧
        ¬KeepsTo failureClasses (d.growth.outcome 1) := by
  have hquantity : okAnd (fun q => errorAnd (fun e => !failureClasses.contains e.errorClass)
      (q.evaluate .empty)) (Quantity.read hugePower) = true := by
    decide +kernel
  have hrun : okAnd (fun d : Description => errorAnd (fun e => !failureClasses.contains e.errorClass)
      (d.growth.outcome 1)) (Description.read .empty
        ("Axiom: A\nRules:\nA --> A(".toList ++ hugePower ++ [')'])) = true := by
    decide +kernel
  obtain ⟨q, hq, hstray⟩ := okAnd_iff.1 hquantity
  obtain ⟨d, hd, hstray'⟩ := okAnd_iff.1 hrun
  exact ⟨⟨q, hq, not_keepsTo hstray⟩, d, hd, not_keepsTo hstray'⟩

end GrowthGrammar
