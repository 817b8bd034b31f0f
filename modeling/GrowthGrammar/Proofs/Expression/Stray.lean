import GrowthGrammar.Axiom
import GrowthGrammar.Proofs.Fallible

/-!
# Stray errors of expressions

Nearly all that is wrong with an expression is an error of its own kind.  What remains is stray: a
null character in the text and a name that is a word for a constant (`Expr.read_eq_stray_iff`), and
an integer beyond all doubles that is too long to be shown (`Quantity.evaluate_eq_stray_iff`).
-/

namespace GrowthGrammar

open Expression Number Text

variable {cs : List Char} {s : Stray} {env : Environment}

/-- Changing errors that are not stray adds and removes no stray ones. -/
theorem mapError_eq_stray_iff {α : Type} {f : Error → Error}
    (hf : ∀ e, f e = .stray s ↔ e = .stray s) {x : Except Error α} :
    x.mapError f = .error (.stray s) ↔ x = .error (.stray s) := by
  cases x with
  | error e => simpa [Except.mapError] using hf e
  | ok a => exact ⟨fun h => (by cases h), fun h => (by cases h)⟩

/-! ## Texts -/

/-- The stray error of a text as an expression: the text holds a null character, or the first
finding about its phrase is a name that no variable can have. -/
inductive Expression.Strays (cs : List Char) : Stray → Prop
  | nullCharacter (h : '\x00' ∈ normalForm cs) : Strays cs .nullCharacter
  | reservedName {p : Phrase} {rank : Rank} {n : String} (hnull : '\x00' ∉ normalForm cs)
      (hp : Phrase.ofText? (normalForm cs) = some p)
      (hn : p.check 0 = .error ⟨rank, .reservedName n⟩) : Strays cs (.reservedName n)

theorem Expression.Obstacle.error_eq_stray_iff {text : String} {o : Obstacle} :
    o.error text = .stray s ↔ ∃ n, o = .reservedName n ∧ s = .reservedName n := by
  cases o with
  | refusal r => simp [Obstacle.error, refuse]
  | reservedName n => simp [Obstacle.error, eq_comm]

theorem Expr.read_eq_stray_iff : Expr.read cs = .error (.stray s) ↔ Strays cs s := by
  have hblank : Phrase.ofText? [] = none := rfl
  unfold Expr.read
  dsimp only
  split_ifs with hempty hnull
  · rw [List.isEmpty_iff] at hempty
    refine ⟨fun h => (by cases h), fun h => ?_⟩
    cases h with
    | nullCharacter h => simp [hempty] at h
    | reservedName _ hp _ => simp [hempty, hblank] at hp
  · rw [List.contains_iff_mem] at hnull
    constructor
    · intro h
      obtain rfl := Error.stray.inj (Except.error.inj h)
      exact .nullCharacter hnull
    · intro h
      cases h with
      | nullCharacter _ => rfl
      | reservedName hnull' _ _ => exact absurd hnull hnull'
  · rw [List.contains_iff_mem] at hnull
    cases hp : Phrase.ofText? (normalForm cs) with
    | none =>
      refine ⟨fun h => (by cases h), fun h => ?_⟩
      cases h with
      | nullCharacter h => exact absurd h hnull
      | reservedName _ hp' _ => cases hp.symm.trans hp'
    | some p =>
      constructor
      · intro h
        cases hcheck : p.check 0 with
        | ok e =>
          simp only [hcheck] at h
          cases h
        | error f =>
          simp only [hcheck] at h
          obtain ⟨rank, o⟩ := f
          obtain ⟨n, rfl, rfl⟩ := Obstacle.error_eq_stray_iff.1 (Except.error.inj h)
          exact .reservedName hnull hp hcheck
      · intro h
        cases h with
        | nullCharacter h => exact absurd h hnull
        | reservedName _ hp' hn =>
          obtain rfl := Option.some.inj (hp.symm.trans hp')
          simp only [hn]
          rfl

theorem Quantity.read_eq_stray_iff : Quantity.read cs = .error (.stray s) ↔ Strays cs s := by
  rw [Quantity.read, bind_eq_error_left, Expr.read_eq_stray_iff]
  intro e
  dsimp only
  split_ifs <;> exact fun h => by cases h

theorem Condition.read_eq_stray_iff : Condition.read cs = .error (.stray s) ↔ Strays cs s := by
  rw [Condition.read, bind_eq_error_left (fun _ h => by cases h), Expr.read_eq_stray_iff]

/-! ## Values -/

/-- The stray error of a quantity in an environment: it comes to an integer that is beyond all doubles
and too long to be shown. -/
inductive Quantity.Strays (q : Quantity) (env : Environment) : Stray → Prop
  | unwrittenInteger {n : Int} (hvalue : q.expr.eval env = .ok (.integer n)) (hdouble : ofInt? n = none)
      (hlong : digitLimit < digitCount n.natAbs) : Strays q env .unwrittenInteger

theorem Value.text?_eq_none_iff {v : Value} :
    v.text? = none ↔ ∃ n, v = .integer n ∧ digitLimit < digitCount n.natAbs := by
  cases v with
  | integer n =>
    rw [Value.text?]
    split_ifs with h
    · exact ⟨fun _ => ⟨n, rfl, h⟩, fun _ => rfl⟩
    · refine ⟨fun hn => (by cases hn), ?_⟩
      rintro ⟨m, hm, hlong⟩
      obtain rfl := Value.integer.inj hm
      exact absurd hlong h
  | _ => exact ⟨fun h => (by cases h), fun ⟨_, h, _⟩ => (by cases h)⟩

theorem Expr.value_ne_stray {text : String} {e : Expr} :
    Expr.value text env e ≠ .error (.stray s) := by
  unfold Expr.value
  cases e.eval env <;> exact fun h => by cases h

theorem Quantity.evaluate_eq_stray_iff {q : Quantity} :
    q.evaluate env = .error (.stray s) ↔ q.Strays env s := by
  have hvalue {v : Value} : q.expr.value q.text env = .ok v ↔ q.expr.eval env = .ok v :=
    mapError_eq_ok
  rw [Quantity.evaluate, bind_eq_error]
  constructor
  · rintro (h | ⟨v, hv, h⟩)
    · exact absurd h Expr.value_ne_stray
    · split at h
      · cases h
      · rename_i hdouble
        cases htext : v.text? with
        | some t =>
          rw [notReal, htext] at h
          cases h
        | none =>
          obtain ⟨n, rfl, hn⟩ := Value.text?_eq_none_iff.1 htext
          rw [notReal, htext] at h
          obtain rfl := Error.stray.inj (Except.error.inj h)
          exact .unwrittenInteger (hvalue.1 hv) hdouble hn
  · rintro @⟨n, hv, hdouble, hn⟩
    have htext : (Value.integer n).text? = none := Value.text?_eq_none_iff.2 ⟨n, rfl, hn⟩
    have hnone : (Value.integer n).toFloat? = none := hdouble
    refine Or.inr ⟨.integer n, hvalue.2 hv, ?_⟩
    simp only [hnone, notReal, htext]

theorem Condition.holds_ne_stray {c : Condition} : c.holds env ≠ .error (.stray s) := by
  rw [Condition.holds, ne_eq, bind_eq_error, not_or]
  exact ⟨Expr.value_ne_stray, fun ⟨_, _, h⟩ => by cases h⟩

/-! ## Arguments of axioms -/

/-- The stray error of an argument in an axiom: that of its text or, if it is a constant, that of its
value. -/
inductive ConstantStrays (cs : List Char) (s : Stray) : Prop
  | text (h : Strays cs s)
  | value {q : Quantity} (hq : Quantity.readConstant cs = .ok q) (h : q.Strays .empty s)

theorem readConstant_eq_stray_iff :
    readConstant cs = .error (.stray s) ↔ ConstantStrays cs s := by
  have hconstant : Quantity.readConstant cs = .error (.stray s) ↔ Strays cs s := by
    rw [Quantity.readConstant, bind_eq_error_left, Quantity.read_eq_stray_iff]
    intro q
    split_ifs <;> exact fun h => by cases h
  have hinAxiom (e : Error) : Error.inAxiom cs e = .stray s ↔ e = .stray s := by
    cases e <;> simp [Error.inAxiom]
  rw [readConstant, mapError_eq_stray_iff hinAxiom, bind_eq_error, hconstant]
  constructor
  · rintro (h | ⟨q, hq, h⟩)
    · exact .text h
    · exact .value hq (Quantity.evaluate_eq_stray_iff.1 h)
  · intro h
    cases h with
    | text h => exact Or.inl h
    | value hq h => exact Or.inr ⟨_, hq, Quantity.evaluate_eq_stray_iff.2 h⟩

end GrowthGrammar
