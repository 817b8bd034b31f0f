import GrowthGrammar.Axiom
import GrowthGrammar.Proofs.Expression.NumberToken
import GrowthGrammar.Proofs.Text.Trim

/-!
# Numbers as constant expressions

The digits of a double are parsed into a literal, behind a minus sign into the negation of one, and
come to the double in every environment (`readConstant_of_writes`).  As an argument in an axiom the
text of a double is the double again, zero without its sign (`readConstant_of_finite`); the name of
what is no finite double is no constant (`readConstant_of_not_finite`).
-/

namespace GrowthGrammar.Expression

open GrowthGrammar.Number GrowthGrammar.Text

/-! ## Parsing -/

/-- The phrases of a written double, and of one behind a minus sign. -/
theorem ofText?_of_writes {M : ℕ} {cs : List Char} (h : Writes M cs)
    (hM : M < infinityMagnitude) :
    ∃ p, Phrase.ofText? cs = some p ∧
      Phrase.ofText? ('-' :: cs) = some (.unary (.inl .negative) p) ∧
      ∀ depth, p.check depth = .ok (.literal (ofMagnitude false M)) := by
  obtain ⟨t, p, hscan, hscan', hliteral, hcheck⟩ := scan_of_writes h hM
  have hparses := Parses.literal hliteral
  have hsign : UnaryOp.negative ≠ .not := nofun
  have hminus : Parses 14 [.mark "-", t] (.unary (.inl .negative) p) :=
    .sign hsign (hparses.loosen le_rfl (by omega))
  exact ⟨p, ofText?_of_parses hscan (hparses.loosen le_rfl (by omega)),
    ofText?_of_parses hscan' (hminus.loosen (by omega) (by omega)), hcheck⟩

/-! ## Constants -/

theorem read_number {cs : List Char} (hne : cs ≠ []) (h : ∀ c ∈ cs, c ∈ numberAlphabet)
    {p : Phrase} (hp : Phrase.ofText? cs = some p) {e : Expr} (he : p.check 0 = .ok e) :
    Expr.read cs = .ok e := by
  have hblank : ∀ c ∈ cs, isBlank c = false := fun c hc =>
    of_mem_numberAlphabet (P := fun c => isBlank c = false) (by decide) (h c hc)
  have hplain : ∀ c ∈ cs, c ∉ respelled ∧ c ≠ '\x00' := fun c hc =>
    of_mem_numberAlphabet (P := fun c => c ∉ respelled ∧ c ≠ '\x00') (by decide) (h c hc)
  rw [read_of_ofText? hne (trim_of_no_blank hblank) hplain hp, he]
  rfl

/-- An expression without names that comes to a double everywhere is read as the double. -/
theorem readConstant_of_eval {cs : List Char} {e : Expr} (hread : Expr.read cs = .ok e)
    (hlogical : e.isLogical = false) (hnames : e.names = []) {x : Float}
    (hvalue : ∀ env, e.eval env = .ok (.double x)) :
    ∃ q, Quantity.readConstant cs = .ok q ∧ ∀ env, q.evaluate env = .ok x := by
  refine ⟨⟨String.ofList (trim cs), e⟩, ?_, fun env => ?_⟩
  · simp [Quantity.readConstant, Quantity.read, hread, hlogical, Quantity.names, hnames, bind,
      Except.bind]
  · simp [Quantity.evaluate, Expr.value, hvalue, Value.toFloat?, bind, Except.bind, Except.mapError]

/-- The digits of a double, and those behind a minus sign, are read as a constant. -/
theorem readConstant_of_writes {M : ℕ} {cs : List Char} (h : Writes M cs)
    (hM : M < infinityMagnitude) (negative : Bool) :
    ∃ q, Quantity.readConstant ((if negative then ['-'] else []) ++ cs) = .ok q ∧
      ∀ env, q.evaluate env = .ok (ofMagnitude negative M) := by
  obtain ⟨p, hplain, hminus, hcheck⟩ := ofText?_of_writes h hM
  obtain ⟨d, r, hcs, -⟩ := h.exists_cons
  have halphabet : ∀ c ∈ cs, c ∈ numberAlphabet := fun c => h.mem_numberAlphabet
  cases negative with
  | false =>
    have hread : Expr.read cs = .ok (.literal (ofMagnitude false M)) :=
      read_number (hcs ▸ List.cons_ne_nil d r) halphabet hplain (hcheck 0)
    exact readConstant_of_eval hread rfl (by simp [Expr.names, Expr.occurring]) fun env => rfl
  | true =>
    have hsigned : ∀ c ∈ '-' :: cs, c ∈ numberAlphabet :=
      List.forall_mem_cons.2 ⟨by decide, halphabet⟩
    have hread : Expr.read ('-' :: cs) =
        .ok (.unary .negative (.literal (ofMagnitude false M))) := by
      refine read_number (List.cons_ne_nil _ _) hsigned hminus ?_
      simp [Phrase.check, known, hcheck, both, Except.map]
    rw [← neg_ofMagnitude hM.le]
    exact readConstant_of_eval hread rfl (by simp [Expr.names, Expr.occurring]) fun env => rfl

/-- The sign that a double is written with, in front of its magnitude, leaves zeros without one. -/
theorem ofMagnitude_writtenSign (x : Float) :
    ofMagnitude (decide (isNegative x ∧ 0 < magnitude x)) (magnitude x) =
      if x == 0 then 0 else x := by
  have hzero : (x == 0) = true ↔ magnitude x = 0 := beq_zero_iff x
  rcases Nat.eq_zero_or_pos (magnitude x) with h0 | h0
  · rw [if_pos (hzero.2 h0), zero_eq_ofMagnitude, h0]
    simp
  · rw [if_neg fun hc => h0.ne' (hzero.1 hc)]
    conv_rhs => rw [← ofMagnitude_magnitude x]
    simp [h0]

/-- The text of a finite double is a constant for it, or for zero if it is one of the zeros. -/
theorem readConstant_numberChars {x : Float} (h : magnitude x < infinityMagnitude) :
    ∃ q, Quantity.readConstant (numberChars x) = .ok q ∧
      ∀ env, q.evaluate env = .ok (if x == 0 then 0 else x) := by
  obtain ⟨cs, hcs, htext⟩ := numberChars_finite h
  have hsigned : numberChars x =
      (if decide (isNegative x ∧ 0 < magnitude x) then ['-'] else []) ++ cs := by
    rw [htext]
    by_cases hneg : isNegative x ∧ 0 < magnitude x <;> simp [hneg]
  rw [hsigned, ← ofMagnitude_writtenSign]
  exact readConstant_of_writes hcs h _

/-- A finite double is read back from its text, a zero without its sign. -/
theorem readConstant_of_finite {x : Float} (h : magnitude x < infinityMagnitude) :
    readConstant (numberChars x) = .ok (if x == 0 then 0 else x) := by
  obtain ⟨q, hq, hvalue⟩ := readConstant_numberChars h
  simp [readConstant, hq, hvalue, bind, Except.bind, Except.mapError]

/-- What is no finite double has a text that is no constant. -/
theorem readConstant_of_not_finite {x : Float} (h : ¬magnitude x < infinityMagnitude) :
    ∃ e, readConstant (numberChars x) = .error (.grammar e) ∧ e.kind = .axiomParameter := by
  have hnames : ∀ cs ∈ namesOfNonfinite, (match readConstant cs with
      | .error (.grammar e) => e.kind == .axiomParameter
      | _ => false) = true := by decide +kernel
  have hx := hnames _ (numberChars_of_not_finite h)
  split at hx
  · rename_i e he
    exact ⟨e, he, beq_iff_eq.1 hx⟩
  · cases hx

end GrowthGrammar.Expression
