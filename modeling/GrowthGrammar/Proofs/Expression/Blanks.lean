import GrowthGrammar.Proofs.Expression.Reading
import GrowthGrammar.Proofs.Fallible
import GrowthGrammar.Proofs.Text.Trim

/-!
# Blanks around expressions

An expression is read from its trimmed text: blanks around it change neither what is read nor the
text that is kept (`Quantity.read_blanks`, `Condition.read_blanks`), and what is kept is read as the
same (`Quantity.read_text`, `Condition.read_text`).
-/

namespace GrowthGrammar

open Expression Text

variable {cs l t : List Char}

/-! ## Spelling -/

theorem Expression.respell_append_blank (ht : isBlankText t = true) (cs : List Char) :
    respell (cs ++ t) = respell cs ++ t := by
  cases t with
  | nil => rw [List.append_nil, List.append_nil]
  | cons c r =>
    have htail : c ∉ operatorTails := not_mem_marks_of_isBlankText ht (by decide) List.mem_cons_self
    have hplain : ∀ d ∈ c :: r, d ∉ respelled := fun d hd =>
      not_mem_marks_of_isBlankText ht (by decide) hd
    rw [respell_append htail, respell_of_no_operator hplain]

theorem Expression.normalForm_blanks (hl : isBlankText l = true) (ht : isBlankText t = true)
    (cs : List Char) : normalForm (l ++ cs ++ t) = normalForm cs := by
  have hplain : ∀ c ∈ l, c ∉ respelled := fun c hc =>
    not_mem_marks_of_isBlankText hl (by decide) hc
  rw [normalForm, respell_append_blank ht, respell_append_of_no_operator hplain,
    trim_blanks hl ht, normalForm]

/-! ## Reading -/

theorem Expr.read_blanks (hl : isBlankText l = true) (ht : isBlankText t = true) (cs : List Char) :
    Expr.read (l ++ cs ++ t) = Expr.read cs := by
  rw [Expr.read, Expr.read, trim_blanks hl ht, normalForm_blanks hl ht]

theorem Quantity.read_blanks (hl : isBlankText l = true) (ht : isBlankText t = true)
    (cs : List Char) : Quantity.read (l ++ cs ++ t) = Quantity.read cs := by
  rw [Quantity.read, Quantity.read, Expr.read_blanks hl ht, trim_blanks hl ht]

theorem Condition.read_blanks (hl : isBlankText l = true) (ht : isBlankText t = true)
    (cs : List Char) : Condition.read (l ++ cs ++ t) = Condition.read cs := by
  rw [Condition.read, Condition.read, Expr.read_blanks hl ht, trim_blanks hl ht]

theorem Expr.not_isBlankText_of_read {e : Expr} (h : Expr.read cs = .ok e) :
    isBlankText cs = false := by
  refine Bool.eq_false_iff.2 fun hblank => ?_
  have hempty : normalForm cs = [] := by
    have hnil := normalForm_blanks (t := []) hblank rfl []
    rwa [List.append_nil, List.append_nil] at hnil
  rw [Expr.read, hempty] at h
  cases h

/-- A quantity keeps the trimmed text, and is read from it as well. -/
theorem Quantity.read_text {q : Quantity} (h : Quantity.read cs = .ok q) :
    q.text.toList = trim cs ∧ Quantity.read q.text.toList = .ok q := by
  have htext : q.text.toList = trim cs := by
    obtain ⟨e, -, hq⟩ := bind_eq_ok.1 h
    dsimp only at hq
    split_ifs at hq
    obtain rfl := Except.ok.inj hq
    exact String.toList_ofList
  obtain ⟨l, t, hl, ht, hcs⟩ := exists_trim cs
  refine ⟨htext, ?_⟩
  rw [htext, ← h]
  conv_rhs => rw [hcs]
  exact (Quantity.read_blanks hl ht _).symm

/-- A condition keeps the trimmed text, and is read from it as well. -/
theorem Condition.read_text {c : Condition} (h : Condition.read cs = .ok c) :
    c.text.toList = trim cs ∧ Condition.read c.text.toList = .ok c := by
  have htext : c.text.toList = trim cs := by
    obtain ⟨e, -, hc⟩ := bind_eq_ok.1 h
    obtain rfl := Except.ok.inj hc
    exact String.toList_ofList
  obtain ⟨l, t, hl, ht, hcs⟩ := exists_trim cs
  refine ⟨htext, ?_⟩
  rw [htext, ← h]
  conv_rhs => rw [hcs]
  exact (Condition.read_blanks hl ht _).symm

end GrowthGrammar
