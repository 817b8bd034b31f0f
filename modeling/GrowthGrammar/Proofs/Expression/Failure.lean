import GrowthGrammar.Proofs.Fallible
import GrowthGrammar.Quantity

/-!
# Failures of expressions

A condition fails as its expression does (`Condition.holds_eq_error_iff`); a quantity does so too, or
it has a value that is no double (`Quantity.evaluate_eq_error_iff`).  An expression fails for a name
that is not defined only if it holds that name as a variable, and the name has a value neither in
the environment nor without one (`Expr.mem_names_of_eval`).
-/

namespace GrowthGrammar

open Expression (Failure)

variable {env : Environment} {err : Error} {n : String}

/-! ## Quantities and conditions -/

theorem Expr.value_eq_error_iff {text : String} {e : Expr} :
    e.value text env = .error err ↔
      ∃ f, e.eval env = .error f ∧ err = .expression (.failed text f) := by
  unfold Expr.value
  cases e.eval env with
  | error f => simp [Except.mapError, eq_comm]
  | ok v => simp [Except.mapError]

theorem Expr.value_eq_ok_iff {text : String} {e : Expr} {v : Value} :
    e.value text env = .ok v ↔ e.eval env = .ok v :=
  mapError_eq_ok

theorem Condition.holds_eq_error_iff {c : Condition} :
    c.holds env = .error err ↔
      ∃ f, c.expr.eval env = .error f ∧ err = .expression (.failed c.text f) := by
  rw [Condition.holds, bind_eq_error_left (fun _ h => by cases h), Expr.value_eq_error_iff]

theorem Quantity.evaluate_eq_error_iff {q : Quantity} :
    q.evaluate env = .error err ↔
      (∃ f, q.expr.eval env = .error f ∧ err = .expression (.failed q.text f)) ∨
        ∃ v, q.expr.eval env = .ok v ∧ v.toFloat? = none ∧ err = notReal q.text v := by
  rw [Quantity.evaluate, bind_eq_error, Expr.value_eq_error_iff]
  simp only [Expr.value_eq_ok_iff]
  refine or_congr_right (exists_congr fun v => and_congr_right fun _ => ?_)
  cases v.toFloat? with
  | none => simp [eq_comm]
  | some x => simp

/-! ## Names that are not defined -/

/-- The name has a value neither in an environment nor without one. -/
def Environment.Lacks (env : Environment) (n : String) : Prop :=
  env.find? n = none ∧ builtinValue? n = none

namespace Expr

theorem lift_ne_undefined {α : Type} (r : Except Fault α) : lift r ≠ .error (.undefined n) := by
  cases r <;> exact fun h => by cases h

theorem lacks_of_valueOf {m : String} (h : valueOf env m = .error (.undefined n)) :
    m = n ∧ env.Lacks n := by
  unfold valueOf at h
  split_ifs at h
  split at h
  · cases h
  · rename_i hfind
    split at h
    · cases h
    · rename_i hbuiltin
      obtain rfl := Failure.undefined.inj (Except.error.inj h)
      exact ⟨rfl, hfind, hbuiltin⟩

theorem apply_ne_undefined {f : Builtin} (args : List Value) :
    apply env f args ≠ .error (.undefined n) := by
  unfold apply
  split
  · exact fun h => by cases h
  · exact lift_ne_undefined _

mutual

/-- An expression fails for a name that is not defined only where it holds the name. -/
theorem lacks_of_eval :
    ∀ {e : Expr}, eval env e = .error (.undefined n) → n ∈ e.occurring ∧ env.Lacks n
  | literal _, h => by cases h
  | truth _, h => by cases h
  | name m, h => by
    rw [eval] at h
    obtain ⟨rfl, hlacks⟩ := lacks_of_valueOf h
    exact ⟨List.mem_singleton_self m, hlacks⟩
  | unary op e, h => by
    rw [eval, bind_eq_error_left fun _ => lift_ne_undefined _] at h
    rw [occurring]
    exact lacks_of_eval h
  | binary op l r, h => by
    rw [eval, bind_eq_error] at h
    rcases h with h | ⟨a, -, h⟩
    · exact (lacks_of_eval h).imp_left (List.mem_append_left _)
    · rw [bind_eq_error_left fun _ => lift_ne_undefined _] at h
      exact (lacks_of_eval h).imp_left (List.mem_append_right _)
  | connective op l r, h => by
    rw [eval, bind_eq_error] at h
    rcases h with h | ⟨a, -, h⟩
    · exact (lacks_of_eval h).imp_left (List.mem_append_left _)
    · split_ifs at h
      · cases h
      · exact (lacks_of_eval h).imp_left (List.mem_append_right _)
  | comparison first links, h => by
    rw [eval, bind_eq_error] at h
    rcases h with h | ⟨a, -, h⟩
    · exact (lacks_of_eval h).imp_left (List.mem_append_left _)
    · exact (lacks_of_evalLinks h).imp_left (List.mem_append_right _)
  | call f args, h => by
    rw [eval, bind_eq_error_left fun _ => apply_ne_undefined _] at h
    exact lacks_of_evalAll h

theorem lacks_of_evalAll :
    ∀ {es : List Expr}, evalAll env es = .error (.undefined n) →
      n ∈ listVariables es ∧ env.Lacks n
  | [], h => by cases h
  | e :: r, h => by
    rw [evalAll, bind_eq_error] at h
    rcases h with h | ⟨v, -, h⟩
    · exact (lacks_of_eval h).imp_left (List.mem_append_left _)
    · rw [bind_eq_error_left fun _ h => by cases h] at h
      exact (lacks_of_evalAll h).imp_left (List.mem_append_right _)

theorem lacks_of_evalLinks :
    ∀ {links : List (Comparator × Expr)} {left : Value},
      evalLinks env left links = .error (.undefined n) → n ∈ linkVariables links ∧ env.Lacks n
  | [], _, h => by cases h
  | (op, e) :: r, left, h => by
    rw [evalLinks, bind_eq_error] at h
    rcases h with h | ⟨right, -, h⟩
    · exact (lacks_of_eval h).imp_left (List.mem_append_left _)
    · rw [bind_eq_error] at h
      rcases h with h | ⟨b, -, h⟩
      · exact absurd h (lift_ne_undefined _)
      · split_ifs at h
        · exact (lacks_of_evalLinks h).imp_left (List.mem_append_right _)
        · cases h

end

/-- A name for which an expression fails is among its recorded names, and the environment has no
value for it. -/
theorem mem_names_of_eval {e : Expr} (h : e.eval env = .error (.undefined n)) :
    n ∈ e.names ∧ env.find? n = none := by
  obtain ⟨hmem, hfind, hbuiltin⟩ := lacks_of_eval h
  exact ⟨by simp [names, hmem, hbuiltin], hfind⟩

end Expr

theorem Quantity.mem_names_of_evaluate {q : Quantity} {text : String}
    (h : q.evaluate env = .error (.expression (.failed text (.undefined n)))) :
    n ∈ q.names ∧ env.find? n = none := by
  rcases Quantity.evaluate_eq_error_iff.1 h with ⟨f, hf, herr⟩ | ⟨v, -, -, herr⟩
  · obtain ⟨-, rfl⟩ := Expression.Error.failed.inj (Error.expression.inj herr)
    exact Expr.mem_names_of_eval hf
  · unfold Quantity.notReal at herr
    split at herr <;> cases herr

theorem Condition.mem_names_of_holds {c : Condition} {text : String}
    (h : c.holds env = .error (.expression (.failed text (.undefined n)))) :
    n ∈ c.names ∧ env.find? n = none := by
  obtain ⟨f, hf, herr⟩ := Condition.holds_eq_error_iff.1 h
  obtain ⟨-, rfl⟩ := Expression.Error.failed.inj (Error.expression.inj herr)
  exact Expr.mem_names_of_eval hf

end GrowthGrammar
