import GrowthGrammar.Proofs.Expression.Stray
import GrowthGrammar.Proofs.Growth.Run

/-!
# Stray errors of generations

The only stray error of a generation is that of a successor's parameter, an integer that cannot be
shown (`Growth.step_eq_stray_iff`).  Each predicate says where the first failure is met: among the
parameters of a successor, the successors of a rule, the rules tried for a symbol, and the symbols
of the word.
-/

namespace GrowthGrammar

variable {s : Stray}

/-- The stray error of a successor is that of its first parameter that fails. -/
def Template.Strays (t : Template) (env : Environment) (s : Stray) : Prop :=
  FailsFirst (fun q => q.evaluate env) (fun q => q.Strays env s) t.parameters

theorem Template.generate_eq_stray_iff {t : Template} {env : Environment} :
    t.generate env = .error (.stray s) ↔ t.Strays env s := by
  rw [Template.generate, bind_eq_error_left (fun _ h => by cases h),
    mapM_eq_error_iff fun q _ => Quantity.evaluate_eq_stray_iff]
  rfl

/-- The stray error of a rule for a symbol: the rule fits, its condition holds, and a successor
fails. -/
def Rule.Strays (r : Rule) (x : Symbol) (s : Stray) : Prop :=
  ∃ env, r.bind x = some env ∧ r.allows env = .ok true ∧
    FailsFirst (Template.generate env) (fun t => t.Strays env s) r.successors

theorem Rule.rewrite_eq_stray_iff {r : Rule} {x : Symbol} :
    r.rewrite x = .error (.stray s) ↔ r.Strays x s := by
  have hallows {env : Environment} : r.allows env ≠ .error (.stray s) := by
    unfold Rule.allows
    split
    · exact fun h => by cases h
    · exact Condition.holds_ne_stray
  unfold Rule.rewrite Rule.Strays
  cases hbind : r.bind x with
  | none => simp
  | some env =>
    simp only [Option.some.injEq, exists_eq_left']
    rw [bind_eq_error]
    constructor
    · rintro (h | ⟨b, hb, h⟩)
      · exact absurd h hallows
      · split_ifs at h with htrue
        · rw [htrue] at hb
          rcases bind_eq_error.1 h with h | ⟨made, -, h⟩
          · exact ⟨hb, (mapM_eq_error_iff fun t _ => Template.generate_eq_stray_iff).1 h⟩
          · cases h
        · cases h
    · rintro ⟨hb, h⟩
      refine Or.inr ⟨true, hb, ?_⟩
      rw [if_pos rfl, bind_eq_error]
      exact Or.inl ((mapM_eq_error_iff fun t _ => Template.generate_eq_stray_iff).2 h)

/-- The stray error of the rules for a symbol is that of the first rule that does not pass. -/
def BlockStrays (rules : List Rule) (x : Symbol) (s : Stray) : Prop :=
  ∃ before r after, rules = before ++ r :: after ∧ (∀ q ∈ before, q.rewrite x = .ok none) ∧
    r.Strays x s

theorem blockOf_eq_stray_iff {rules : List Rule} {x : Symbol} :
    blockOf x rules = .error (.stray s) ↔ BlockStrays rules x s := by
  constructor
  · intro h
    fun_induction blockOf x rules with
    | case1 => cases h
    | case2 r rules e hr =>
      obtain rfl := Except.error.inj h
      exact ⟨[], r, rules, rfl, fun _ hq => absurd hq List.not_mem_nil,
        Rule.rewrite_eq_stray_iff.1 hr⟩
    | case3 r rules block hr => cases h
    | case4 r rules hr ih =>
      obtain ⟨before, q, after, rfl, hbefore, hq⟩ := ih h
      exact ⟨r :: before, q, after, rfl, List.forall_mem_cons.2 ⟨hr, hbefore⟩, hq⟩
  · rintro ⟨before, r, after, rfl, hbefore, hr⟩
    induction before with
    | nil => rw [List.nil_append, blockOf, Rule.rewrite_eq_stray_iff.2 hr]
    | cons q before ih =>
      obtain ⟨hq, hbefore⟩ := List.forall_mem_cons.1 hbefore
      rw [List.cons_append, blockOf, hq]
      exact ih hbefore

/-- The stray error of a generation is that of the first symbol that has no block. -/
def Growth.Strays (g : Growth) (s : Stray) : Prop :=
  FailsFirst (fun x => blockOf x g.rules) (fun x => BlockStrays g.rules x s) g.symbols

theorem Growth.step_eq_stray_iff {g : Growth} : g.step = .error (.stray s) ↔ g.Strays s := by
  have hword : rewriteWord g.rules g.symbols = .error (.stray s) ↔ g.Strays s :=
    flatMapM_eq_error_iff fun x _ => blockOf_eq_stray_iff
  rw [step_eq, bind_eq_error_left (fun _ h => by cases h), hword]

end GrowthGrammar
