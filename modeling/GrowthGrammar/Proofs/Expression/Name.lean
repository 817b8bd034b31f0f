import GrowthGrammar.Proofs.Expression.Reading
import GrowthGrammar.Proofs.Text.Identifier

/-!
# Names as expressions

The text of a variable name is the expression of the name that it composes to
(`read_of_isVariableName`); that name may be another one.  In an environment a name means the double
that it has there (`valueOf_of_find?`), whatever other names mean (`valueOf_set_of_ne`).
-/

namespace GrowthGrammar.Expression

open GrowthGrammar.Text

variable {cs : List Char}

/-! ## Tokens of names -/

theorem isWordChar_of_mem (h : isIdentifier cs = true) {c : Char} (hc : c ∈ cs) :
    Token.isWordChar c = true := by
  rw [Token.isWordChar]
  rcases ascii_of_continuesIdentifier (continuesIdentifier_of_mem h hc) with h | rfl | h
  · simp [h]
  · rfl
  · simp [h]

/-- An identifier holds no character that ends a word. -/
theorem ne_of_mem_identifier (h : isIdentifier cs = true) {d : Char}
    (hd : Token.isWordChar d = false) {c : Char} (hc : c ∈ cs) : c ≠ d := by
  rintro rfl
  rw [isWordChar_of_mem h hc] at hd
  cases hd

theorem not_mem_identifier (h : isIdentifier cs = true) {d : Char}
    (hd : Token.isWordChar d = false) : d ∉ cs :=
  fun hc => ne_of_mem_identifier h hd hc rfl

theorem not_mem_of_mem_identifier (h : isIdentifier cs = true) {marks : List Char}
    (hmarks : marks.all (!Token.isWordChar ·) = true) {c : Char} (hc : c ∈ cs) : c ∉ marks := by
  intro hmem
  have hword : Token.isWordChar c = false := by simpa using List.all_eq_true.1 hmarks c hmem
  exact ne_of_mem_identifier h hword hc rfl

/-- Behind its letters a word goes on with no quote. -/
theorem opening?_append {c : Char} (hc : Token.endsWord c = true) (s : List Char)
    (h : ∀ d ∈ cs, Token.isWordChar d = true) : Quotation.opening? (cs ++ c :: s) = none := by
  obtain ⟨hword, -, hquote⟩ := Token.endsWord_iff.1 hc
  have hletter : c.isAlpha = false := by
    simp only [Token.isWordChar, Char.isAlphanum, Bool.or_eq_false_iff] at hword
    exact hword.1.1.1
  have hbehind : ∃ d r, (cs ++ c :: s).drop ((cs ++ c :: s).takeWhile Char.isAlpha).length = d :: r ∧
      Quotation.isQuote d = false := by
    induction cs with
    | nil => exact ⟨c, s, by simp [hletter], hquote⟩
    | cons d cs ih =>
      cases hd : d.isAlpha with
      | true =>
        rw [List.cons_append, List.takeWhile_cons_of_pos hd, List.length_cons, List.drop_succ_cons]
        exact ih fun x hx => h x (List.mem_cons_of_mem _ hx)
      | false =>
        refine ⟨d, cs ++ c :: s, by simp [hd], Bool.eq_false_iff.2 fun hmark => ?_⟩
        have hd := h d List.mem_cons_self
        simp only [Quotation.isQuote, Bool.or_eq_true, beq_iff_eq] at hmark
        rcases hmark with rfl | rfl <;> cases hd
  obtain ⟨d, r, hdrop, hd⟩ := hbehind
  unfold Quotation.opening?
  simp [hdrop, hd]

/-- An identifier is a word of its own in front of what ends a word. -/
theorem next_append (h : isIdentifier cs = true) {c : Char} (hc : Token.endsWord c = true)
    (s : List Char) :
    Token.next (cs ++ c :: s) =
      some (if isReserved (String.ofList cs) then .keyword (String.ofList cs)
        else .name (String.ofList (composed cs)), c :: s) := by
  obtain ⟨hend, -, -⟩ := Token.endsWord_iff.1 hc
  have hchars : ∀ d ∈ cs, Token.isWordChar d = true := fun d hd => isWordChar_of_mem h hd
  have htake : (cs ++ c :: s).takeWhile Token.isWordChar = cs := by
    rw [List.takeWhile_append_of_pos hchars, List.takeWhile_cons_of_neg (by simp [hend]),
      List.append_nil]
  have hword : Token.word (cs ++ c :: s) =
      some (if isReserved (String.ofList cs) then .keyword (String.ofList cs)
        else .name (String.ofList (composed cs)), c :: s) := by
    rw [Token.word, htake]
    simp [h]
  rw [Token.next, opening?_append hc s hchars]
  obtain ⟨d, r, rfl⟩ := List.exists_cons_of_ne_nil (ne_nil_of_isIdentifier h)
  have hopens : Token.opensNumber (d :: r ++ c :: s) = false := by
    have hpoint : d ≠ '.' := ne_of_mem_identifier h rfl List.mem_cons_self
    rw [List.cons_append, Token.opensNumber]
    · exact isDigit_of_opensIdentifier ((Bool.and_eq_true _ _).mp h).1
    · exact fun _ _ hd => absurd hd hpoint
  have hfirst : Token.isWordChar d = true := hchars d List.mem_cons_self
  rw [hopens, List.cons_append] at *
  simp [hfirst, hword]

section ScansTo

variable {d : ℕ} {c : Char} {r : List Char} {ts : List Token}

theorem scansTo_word (h : isIdentifier cs = true) (hc : Token.endsWord c = true)
    (hr : ScansTo d (c :: r) ts) :
    ScansTo d (cs ++ c :: r)
      ((if isReserved (String.ofList cs) then Token.keyword (String.ofList cs)
        else .name (String.ofList (composed cs))) :: ts) := by
  have hnext := next_append h hc r
  have hsep : ∀ d ∈ cs, d ∉ separators := fun d => not_mem_of_mem_identifier h rfl
  obtain ⟨x, w, rfl⟩ := List.exists_cons_of_ne_nil (ne_nil_of_isIdentifier h)
  refine ScansTo.token (hsep x List.mem_cons_self) hnext ?_ hr
  split_ifs <;> rfl

theorem ScansTo.name (h : isVariableName cs = true) (hc : Token.endsWord c = true)
    (hr : ScansTo d (c :: r) ts) :
    ScansTo d (cs ++ c :: r) (.name (String.ofList (composed cs)) :: ts) := by
  obtain ⟨hname, hreserved⟩ := isVariableName_iff.1 h
  have hword := scansTo_word hname hc hr
  rwa [hreserved] at hword

theorem ScansTo.keyword {w : String} (h : isIdentifier w.toList = true)
    (hreserved : isReserved w = true) (hc : Token.endsWord c = true) (hr : ScansTo d (c :: r) ts) :
    ScansTo d (w.toList ++ c :: r) (.keyword w :: ts) := by
  have hword := scansTo_word h hc hr
  rwa [String.ofList_toList, hreserved, if_pos rfl] at hword

end ScansTo

/-! ## Expressions of names -/

theorem ofText?_of_isVariableName (h : isVariableName cs = true) :
    Phrase.ofText? cs = some (.name (String.ofList (composed cs))) := by
  obtain ⟨hname, -⟩ := isVariableName_iff.1 h
  have hsep : ∀ c ∈ cs, c ∉ separators := fun c hc => not_mem_of_mem_identifier hname rfl hc
  have hreturn : '\r' ∉ cs := not_mem_identifier hname rfl
  have hline := ScansTo.name h rfl scansTo_newline
  have hscan : Token.scan cs = some [.name (String.ofList (composed cs))] := by
    obtain ⟨c, r, rfl⟩ := List.exists_cons_of_ne_nil (ne_nil_of_isIdentifier hname)
    exact scan_of_scansTo (hsep c List.mem_cons_self) hreturn hline
  exact ofText?_of_parses hscan ((Parses.name _).loosen le_rfl (by omega))

/-- A variable name is read as the name that it composes to, unless that is a word for a constant. -/
theorem read_of_isVariableName (h : isVariableName cs = true) (htrim : trim cs = cs) :
    Expr.read cs =
      if String.ofList (composed cs) ∈ constantWords then
        .error (.stray (.reservedName (String.ofList (composed cs))))
      else .ok (.name (String.ofList (composed cs))) := by
  obtain ⟨hname, -⟩ := isVariableName_iff.1 h
  have hplain : ∀ c ∈ cs, c ∉ respelled ∧ c ≠ '\x00' := fun c hc =>
    ⟨not_mem_of_mem_identifier hname rfl hc, ne_of_mem_identifier hname rfl hc⟩
  rw [read_of_ofText? (ne_nil_of_isIdentifier hname) htrim hplain (ofText?_of_isVariableName h),
    Phrase.check]
  split_ifs <;> rfl

end GrowthGrammar.Expression

/-! ## Values of names -/

namespace GrowthGrammar.Expr

variable {env : Environment} {n : String}

theorem valueOf_of_find? (h : n ≠ "__debug__") {x : Float} (hx : env.find? n = some x) :
    valueOf env n = .ok (.double x) := by
  rw [valueOf, if_neg h, hx]

/-- The value of a name does not depend on the double of another one. -/
theorem valueOf_set_of_ne {p : String} (h : n ≠ p ∨ n = "__debug__") (x : Float) :
    valueOf (env.set p x) n = valueOf env n := by
  unfold valueOf
  rcases h with h | h
  · rw [Environment.find?_set_of_ne env h]
  · rw [if_pos h, if_pos h]

end GrowthGrammar.Expr
