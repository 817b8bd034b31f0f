import GrowthGrammar.Proofs.Expression.Reading
import GrowthGrammar.Proofs.Number.Digits
import GrowthGrammar.Proofs.Number.Written

/-!
# Tokens of numbers

The digits that write a double are one number token, whose literal is the double
(`number_of_writes`).  As the text of an expression they are scanned into that token, and behind a
minus sign into the sign and that token (`scan_of_writes`).
-/

namespace GrowthGrammar.Expression

open GrowthGrammar.Number GrowthGrammar.Text

/-! ## Number tokens -/

section Ends

variable {c : Char} (hc : Token.endsWord c = true) (s : List Char)

include hc

theorem endsDigits_of_endsWord : EndsDigits (c :: s) := by
  obtain ⟨hword, -, -⟩ := Token.endsWord_iff.1 hc
  simp only [Token.isWordChar, Char.isAlphanum, Bool.or_eq_false_iff, beq_eq_false_iff_ne] at hword
  exact endsDigits_cons hword.1.1.2 hword.1.2

theorem ne_of_endsWord {d : Char} (hd : Token.endsWord d = false) : c ≠ d := by
  rintro rfl
  rw [hc] at hd
  cases hd

theorem exponentDigits_append (negative : Bool) {ds : List Char} (hne : ds ≠ [])
    (hds : ∀ d ∈ ds, d.isDigit = true) :
    Token.exponentDigits negative (ds ++ c :: s) =
      some (some (if negative then -(Nat.ofDigitChars 10 ds 0 : ℤ) else Nat.ofDigitChars 10 ds 0),
        c :: s) := by
  rw [Token.exponentDigits, leadingDigits_append hne hds (endsDigits_of_endsWord hc s)]
  rfl

theorem exponent_exponentChars (e : ℤ) :
    Token.exponent (Layout.exponentChars e ++ c :: s) = some (some e, c :: s) := by
  obtain ⟨ds, hchars, hne, hds, hvalue⟩ := exists_exponentDigits e
  rw [hchars]
  by_cases he : e < 0
  · have hminus : Token.exponent ('e' :: '-' :: (ds ++ c :: s)) =
        Token.exponentDigits true (ds ++ c :: s) := rfl
    have habs : -(e.natAbs : ℤ) = e := by omega
    rw [if_pos he, List.cons_append, List.cons_append, hminus,
      exponentDigits_append hc s true hne hds, hvalue, if_pos rfl, habs]
  · have hplus : Token.exponent ('e' :: '+' :: (ds ++ c :: s)) =
        Token.exponentDigits false (ds ++ c :: s) := rfl
    have habs : (e.natAbs : ℤ) = e := by omega
    rw [if_neg he, List.cons_append, List.cons_append, hplus,
      exponentDigits_append hc s false hne hds, hvalue, if_neg Bool.false_ne_true, habs]

/-- Where a number ends, it has no exponent. -/
theorem exponent_of_endsWord : Token.exponent (c :: s) = some (none, c :: s) := by
  have hsmall : c ≠ 'e' := ne_of_endsWord hc rfl
  have hlarge : c ≠ 'E' := ne_of_endsWord hc rfl
  cases s with
  | nil => rfl
  | cons d s => simp [Token.exponent, hsmall, hlarge]

theorem exponent_numeral (w : Numeral) :
    Token.exponent (w.exponentChars ++ c :: s) = some (w.exponent, c :: s) := by
  unfold Numeral.exponentChars
  cases w.exponent with
  | none => exact exponent_of_endsWord hc s
  | some e => exact exponent_exponentChars hc s e

theorem exponentChars_eq_cons (w : Numeral) :
    ∃ d r, w.exponentChars ++ c :: s = d :: r ∧ d.isDigit = false ∧ d ≠ '_' ∧ d ≠ '.' := by
  obtain ⟨-, hpoint, -⟩ := Token.endsWord_iff.1 hc
  obtain ⟨hdigit, hunder⟩ := endsDigits_of_endsWord hc s c s rfl
  unfold Numeral.exponentChars
  cases w.exponent with
  | none => exact ⟨c, s, rfl, hdigit, hunder, hpoint⟩
  | some e => exact ⟨'e', _, rfl, rfl, by decide, by decide⟩

theorem fraction_numeral (w : Numeral) :
    Token.fraction (w.tailChars ++ c :: s) = some (w.back, w.exponentChars ++ c :: s) := by
  obtain ⟨d, r, hd, hdigit, hunder, hpoint⟩ := exponentChars_eq_cons hc s w
  rw [Numeral.tailChars, List.append_assoc, hd]
  cases hb : w.back with
  | none =>
    have hchars : w.pointChars = [] := by rw [Numeral.pointChars, hb]
    rw [hchars, List.nil_append, Token.fraction]
    · intro x t h
      exact absurd (List.cons.inj h).1 hpoint
    · intro h
      exact absurd (List.cons.inj h).1 hpoint
  | some ds =>
    have hchars : w.pointChars = '.' :: ds := by rw [Numeral.pointChars, hb]
    have hds := w.back_digits ds hb
    have hrun := digitRun_append hds (endsDigits_cons (r := r) hdigit hunder)
    rw [hchars, List.cons_append]
    cases ds with
    | nil => simp [Token.fraction, hdigit]
    | cons x ds =>
      rw [List.cons_append] at hrun ⊢
      simp [Token.fraction, hds x List.mem_cons_self, hrun]

/-- Where a number ends, no letter makes it imaginary. -/
theorem decimalNumber_of_parts {cs front r r' : List Char} {back : Option (List Char)}
    {e : Option ℤ} (hpoint : ∀ t, cs ≠ '.' :: t) (hfront : digitRun Char.isDigit cs = some (front, r))
    (hback : Token.fraction r = some (back, r')) (he : Token.exponent r' = some (e, c :: s)) :
    Token.decimalNumber cs =
      if back.isNone && e.isNone then (Token.decimalInteger front).map (·, c :: s)
      else some (.double ((Decimal.ofDigits front (back.getD []) (e.getD 0)).toFloat false),
        c :: s) := by
  have hsmall : c ≠ 'j' := ne_of_endsWord hc rfl
  have hlarge : c ≠ 'J' := ne_of_endsWord hc rfl
  unfold Token.decimalNumber
  split
  · exact absurd rfl (hpoint _)
  · rw [hfront]
    simp only [Option.bind_eq_bind, Option.bind_some, hback, he]
    split
    · rename_i h
      exact absurd (List.cons.inj h).1 hsmall
    · rename_i h
      exact absurd (List.cons.inj h).1 hlarge
    · cases Token.decimalInteger front <;> rfl

theorem decimalNumber_numeral {w : Numeral} (hw : w.IsFractional) :
    Token.decimalNumber (w.chars ++ c :: s) =
      some (.double (w.decimal.toFloat false), c :: s) := by
  obtain ⟨d, f, hfront⟩ := List.exists_cons_of_ne_nil w.front_ne_nil
  have hd : d.isDigit = true := w.front_digits d (hfront ▸ List.mem_cons_self)
  have hpoint : ∀ t, w.chars ++ c :: s ≠ '.' :: t := by
    intro t ht
    rw [Numeral.chars, hfront, List.cons_append, List.cons_append] at ht
    rw [(List.cons.inj ht).1] at hd
    cases hd
  have hends : EndsDigits (w.tailChars ++ c :: s) := by
    obtain ⟨d, r, hcs, hdigit, hunder, -⟩ := exponentChars_eq_cons hc s w
    rw [Numeral.tailChars, List.append_assoc, hcs]
    unfold Numeral.pointChars
    cases w.back with
    | none => exact endsDigits_cons hdigit hunder
    | some ds => exact endsDigits_cons rfl (by decide)
  have hrun : digitRun Char.isDigit (w.chars ++ c :: s) = some (w.front, w.tailChars ++ c :: s) := by
    rw [Numeral.chars, List.append_assoc]
    exact digitRun_append w.front_digits hends
  have hkind : ¬(w.back.isNone && w.exponent.isNone) = true := by
    rw [Bool.and_eq_true, Option.isNone_iff_eq_none, Option.isNone_iff_eq_none]
    rintro ⟨hb, he⟩
    rcases hw with h | h
    · simp [hb] at h
    · simp [he] at h
  rw [decimalNumber_of_parts hc s hpoint hrun (fraction_numeral hc s w) (exponent_numeral hc s w),
    if_neg hkind, Numeral.decimal]

omit hc in
theorem decimalInteger_natDigits {n : ℕ} (hn : n < 2 ^ 1024) :
    Token.decimalInteger (natDigits n) = some (.integer n) := by
  have hval : Nat.ofDigitChars 10 (natDigits n) 0 = n := Nat.ofDigitChars_ten_toDigits
  unfold Token.decimalInteger
  rw [hval]
  dsimp only
  split_ifs with h0 hbad
  · rw [h0]
  · refine absurd hbad (not_or.2 ⟨head_natDigits_ne_zero (Nat.pos_of_ne_zero h0), ?_⟩)
    have hpow (k : ℕ) (hk : k ≤ digitLimit) : 2 ^ k ≤ 10 ^ digitLimit :=
      (Nat.pow_le_pow_left (by norm_num) k).trans (Nat.pow_le_pow_right (by norm_num) hk)
    exact not_lt.2 (digitCount_le_of_lt_pow (by decide) (hn.trans_le (hpow _ (by decide))))
  · rfl

theorem decimalNumber_natDigits {n : ℕ} (hn : n < 2 ^ 1024) :
    Token.decimalNumber (natDigits n ++ c :: s) = some (.integer n, c :: s) := by
  obtain ⟨-, hpoint, -⟩ := Token.endsWord_iff.1 hc
  have hrun : digitRun Char.isDigit (natDigits n ++ c :: s) = some (natDigits n, c :: s) :=
    digitRun_append (fun d hd => isDigit_of_mem_natDigits hd) (endsDigits_of_endsWord hc s)
  have hfront : ∀ t, natDigits n ++ c :: s ≠ '.' :: t := by
    intro t ht
    obtain ⟨d, r, hd⟩ := List.exists_cons_of_ne_nil (natDigits_ne_nil n)
    have hdigit := isDigit_of_mem_natDigits (hd ▸ List.mem_cons_self : d ∈ natDigits n)
    rw [hd, List.cons_append] at ht
    rw [(List.cons.inj ht).1] at hdigit
    cases hdigit
  have hback : Token.fraction (c :: s) = some (none, c :: s) := by
    rw [Token.fraction]
    · intro d t h
      exact absurd (List.cons.inj h).1 hpoint
    · intro h
      exact absurd (List.cons.inj h).1 hpoint
  rw [decimalNumber_of_parts hc s hfront hrun hback (exponent_of_endsWord hc s)]
  simp [decimalInteger_natDigits hn]

/-- Text in the characters of numbers is no number in another base than ten. -/
theorem number_eq_decimalNumber {cs : List Char} (h : ∀ d ∈ cs, d ∈ numberAlphabet) {t : Token}
    (ht : Token.decimalNumber (cs ++ c :: s) = some (t, c :: s)) :
    Token.number (cs ++ c :: s) = some (t, c :: s) := by
  have hletters : ∀ d, d ∈ numberAlphabet ∨ d = c →
      (d == 'x' || d == 'X') = false ∧ (d == 'o' || d == 'O') = false ∧
        (d == 'b' || d == 'B') = false := by
    rintro d (hd | rfl)
    · exact of_mem_numberAlphabet (P := fun d => (d == 'x' || d == 'X') = false ∧
        (d == 'o' || d == 'O') = false ∧ (d == 'b' || d == 'B') = false) (by decide) hd
    · have hne (x : Char) (hx : Token.endsWord x = false) : (d == x) = false :=
        beq_eq_false_iff_ne.2 (ne_of_endsWord hc hx)
      rw [hne 'x' rfl, hne 'X' rfl, hne 'o' rfl, hne 'O' rfl, hne 'b' rfl, hne 'B' rfl]
      exact ⟨rfl, rfl, rfl⟩
  have hend : Token.mayEndNumber (c :: s) = true := by
    obtain ⟨hword, -, -⟩ := Token.endsWord_iff.1 hc
    simp [Token.mayEndNumber, hword]
  unfold Token.number
  split
  · rename_i d r hcs
    have hd : d ∈ numberAlphabet ∨ d = c := by
      rcases cs with _ | ⟨x, _ | ⟨y, cs⟩⟩
      · exact absurd (List.cons.inj hcs).1 (ne_of_endsWord hc rfl)
      · exact Or.inr (List.cons.inj (List.cons.inj hcs).2).1.symm
      · exact Or.inl (h d (by simp [(List.cons.inj (List.cons.inj hcs).2).1]))
    obtain ⟨hx, ho, hb⟩ := hletters d hd
    simp only [hx, ho, hb, Bool.false_eq_true, if_false, ht]
    simp [hend]
  · simp only [ht]
    simp [hend]

end Ends

/-- The token of a written double, whatever ends the number, and the literal that it stands for. -/
theorem number_of_writes {M : ℕ} {cs : List Char} (h : Writes M cs) (hM : M < infinityMagnitude) :
    ∃ t p, (∀ c s, Token.endsWord c = true → Token.number (cs ++ c :: s) = some (t, c :: s)) ∧
      t.literal? = some p ∧ ∀ depth, p.check depth = .ok (.literal (ofMagnitude false M)) := by
  have halphabet : ∀ c ∈ cs, c ∈ numberAlphabet := fun c => h.mem_numberAlphabet
  cases h with
  | whole n hn hmag =>
    refine ⟨.integer n, .integer n, fun c s hc =>
      number_eq_decimalNumber hc s halphabet (decimalNumber_natDigits hc s hn), rfl, fun depth => ?_⟩
    have hfloat : ofInt? n = some (ofMagnitude false M) := by
      have hneg : ¬(n : ℤ) < 0 := by omega
      simp [ofInt?, hmag, hM.ne, hneg]
    simp [Phrase.check, hfloat]
  | broken w hw hmag =>
    refine ⟨.double (w.decimal.toFloat false), .double (w.decimal.toFloat false), fun c s hc =>
      number_eq_decimalNumber hc s halphabet (decimalNumber_numeral hc s hw), rfl,
      fun depth => ?_⟩
    simp [Phrase.check, Decimal.toFloat, hmag]

/-! ## Scanning -/

theorem not_mem_separators {c : Char} (h : c ∈ numberAlphabet) : c ∉ separators :=
  of_mem_numberAlphabet (P := (· ∉ separators)) (by decide) h

theorem opening?_of_head {c : Char} (hletter : c.isAlpha = false)
    (hquote : Quotation.isQuote c = false) (r : List Char) :
    Quotation.opening? (c :: r) = none := by
  simp [Quotation.opening?, hletter, hquote]

theorem isAlpha_of_isDigit {c : Char} (h : c.isDigit = true) : c.isAlpha = false :=
  of_mem_numberAlphabet (P := fun c => c.isDigit = true → c.isAlpha = false) (by decide)
    (mem_numberAlphabet_of_isDigit h) h

theorem isQuote_of_mem_numberAlphabet {c : Char} (h : c ∈ numberAlphabet) :
    Quotation.isQuote c = false :=
  of_mem_numberAlphabet (P := fun c => Quotation.isQuote c = false) (by decide) h

theorem next_of_digit {d : Char} (h : d.isDigit = true) (r : List Char) :
    Token.next (d :: r) = Token.number (d :: r) := by
  have hpoint : d ≠ '.' := by
    rintro rfl
    cases h
  have hopens : Token.opensNumber (d :: r) = true := by
    rw [Token.opensNumber]
    · exact h
    · rintro _ _ rfl
      exact absurd rfl hpoint
  have hmem := mem_numberAlphabet_of_isDigit h
  rw [Token.next, opening?_of_head (isAlpha_of_isDigit h) (isQuote_of_mem_numberAlphabet hmem)]
  simp only [hopens, if_true]

theorem next_minus {c : Char} (hequals : c ≠ '=') (harrow : c ≠ '>') (r : List Char) :
    Token.next ('-' :: c :: r) = some (.mark "-", c :: r) := by
  rw [Token.next, opening?_of_head rfl rfl]
  simp [Token.opensNumber, Token.isWordChar, Token.longestMark, Token.marks, hequals.symm,
    harrow.symm]
  rfl

theorem next_plus {c : Char} (hequals : c ≠ '=') (r : List Char) :
    Token.next ('+' :: c :: r) = some (.mark "+", c :: r) := by
  rw [Token.next, opening?_of_head rfl rfl]
  simp [Token.opensNumber, Token.isWordChar, Token.longestMark, Token.marks, hequals.symm]
  rfl

theorem depthAfter_of_literal {t : Token} {p : Phrase} (h : t.literal? = some p) (depth : ℕ) :
    t.depthAfter depth = some depth := by
  cases t with
  | mark m => cases h
  | _ => rfl

theorem ScansTo.number {M d : ℕ} {c : Char} {w r : List Char} {t : Token} {p : Phrase}
    {ts : List Token} (h : Writes M w) (hnumber : Token.number (w ++ c :: r) = some (t, c :: r))
    (hliteral : t.literal? = some p) (hr : ScansTo d (c :: r) ts) :
    ScansTo d (w ++ c :: r) (t :: ts) := by
  obtain ⟨x, v, rfl, hx⟩ := h.exists_cons
  have hnext := (next_of_digit hx (v ++ c :: r)).trans hnumber
  exact .token (not_mem_separators (mem_numberAlphabet_of_isDigit hx)) hnext
    (depthAfter_of_literal hliteral d) hr

/-- The tokens of a written double, and of one behind a minus sign. -/
theorem scan_of_writes {M : ℕ} {cs : List Char} (h : Writes M cs) (hM : M < infinityMagnitude) :
    ∃ t p, Token.scan cs = some [t] ∧ Token.scan ('-' :: cs) = some [.mark "-", t] ∧
      t.literal? = some p ∧ ∀ depth, p.check depth = .ok (.literal (ofMagnitude false M)) := by
  obtain ⟨t, p, hnumber, hliteral, hcheck⟩ := number_of_writes h hM
  have hline : ScansTo 0 (cs ++ ['\n']) [t] :=
    .number h (hnumber '\n' [] rfl) hliteral scansTo_newline
  obtain ⟨d, r, rfl, hd⟩ := h.exists_cons
  have halphabet := mem_numberAlphabet_of_isDigit hd
  have hreturn : '\r' ∉ '-' :: d :: r := by
    intro hc
    rcases List.mem_cons.1 hc with hc | hc
    · cases hc
    · have hmem := h.mem_numberAlphabet hc
      revert hmem
      decide
  have hminus : ScansTo 0 ('-' :: d :: r ++ ['\n']) [.mark "-", t] := by
    have hsigns : d ≠ '=' ∧ d ≠ '>' :=
      of_mem_numberAlphabet (P := fun d => d ≠ '=' ∧ d ≠ '>') (by decide) halphabet
    exact .token (w := []) (by decide) (next_minus hsigns.1 hsigns.2 _) rfl hline
  refine ⟨t, p, ?_, ?_, hliteral, hcheck⟩
  · exact scan_of_scansTo (not_mem_separators halphabet) (fun hc => hreturn (.tail _ hc)) hline
  · exact scan_of_scansTo (by decide) hreturn hminus

end GrowthGrammar.Expression
