import GrowthGrammar.Module
import GrowthGrammar.Proofs.Bracket.Offset
import GrowthGrammar.Proofs.ErrorClass
import GrowthGrammar.Proofs.Text.Cut
import GrowthGrammar.Proofs.Text.Trim

/-!
# Heads of modules

`splitHead` gives the trimmed name of a module and the text between its brackets, if these hold no
further ones (`splitHead_of_no_bracket`, `splitHead_brackets`).  Whatever the brackets hold, the
name stands in front of them (`splitHead_name`).  Blanks around a module are not part of its head,
though they are shown by the error of a bracket that is not closed (`classified_splitHead_blanks`).
-/

namespace GrowthGrammar

open GrowthGrammar.Text

theorem splitHead_of_no_bracket (kind : GrammarKind) {piece : List Char} (h : '(' ∉ piece) :
    splitHead kind piece = .ok (trim piece, none) := by
  rw [splitHead, cutAt_of_not_mem h]

theorem closingOffset_plain {cs : List Char} (h : ∀ c ∈ cs, c ≠ '(' ∧ c ≠ ')') (r : List Char) :
    closingOffset (isOnly "(") (isOnly ")") 0 (cs ++ ')' :: r) = some cs.length := by
  induction cs with
  | nil => rfl
  | cons c s ih =>
    obtain ⟨hopen, hclose⟩ := h c List.mem_cons_self
    have hs := ih fun d hd => h d (List.mem_cons_of_mem _ hd)
    rw [List.cons_append, closingOffset_of_ne hopen hclose, hs]
    rfl

/-- A module with a bracket is cut at the bracket that closes it, if there is one. -/
theorem splitHead_append (kind : GrammarKind) {a : List Char} (h : '(' ∉ a) (r : List Char) :
    splitHead kind (a ++ '(' :: r) =
      match closingOffset (isOnly "(") (isOnly ")") 0 r with
      | none => .error (.bracket (.unclosed ")" "(" a.length (String.ofList (a ++ '(' :: r))))
      | some k =>
        if (trim (r.drop (k + 1))).isEmpty then .ok (trim a, some (r.take k))
        else
          .error (.grammar (.textBehind kind (String.ofList (trim (r.drop (k + 1))))
            (String.ofList (trim (a ++ '(' :: r.take (k + 1)))))) := by
  have hopen : isOnly "(" '(' = true := rfl
  rw [splitHead, cutAt_append h]
  cases hk : closingOffset (isOnly "(") (isOnly ")") 0 r with
  | none => simp [closingIndex, hopen, hk]
  | some k =>
    have hdrop : (a ++ '(' :: r).drop (a.length + 1 + k + 1) = r.drop (k + 1) := by
      rw [show a.length + 1 + k + 1 = a.length + (k + 2) by omega, List.drop_length_add_append]
      rfl
    have htake : (a ++ '(' :: r).take (a.length + 1 + k + 1) = a ++ '(' :: r.take (k + 1) := by
      rw [show a.length + 1 + k + 1 = a.length + (k + 2) by omega, List.take_length_add_append]
      rfl
    have hinner : a.length + 1 + k - a.length - 1 = k := by omega
    simp [closingIndex, hopen, hk, hdrop, htake, hinner]

/-- The head of a module is parted at its brackets, if these hold no further ones and only blanks
stand behind them. -/
theorem splitHead_brackets (kind : GrammarKind) {name inner t : List Char} (hname : '(' ∉ name)
    (hinner : ∀ c ∈ inner, c ≠ '(' ∧ c ≠ ')') (ht : isBlankText t = true) :
    splitHead kind (name ++ '(' :: (inner ++ ')' :: t)) = .ok (trim name, some inner) := by
  have hrest : (inner ++ ')' :: t).drop (inner.length + 1) = t := by
    rw [List.drop_length_add_append]
    rfl
  rw [splitHead_append kind hname, closingOffset_plain hinner]
  dsimp only
  rw [hrest, trim_eq_nil_iff.2 ht, List.take_left]
  rfl

/-- The name in the head of a module is trimmed, and taken from the module in front of a bracket. -/
theorem splitHead_name {kind : GrammarKind} {piece name : List Char} {inner : Option (List Char)}
    (h : splitHead kind piece = .ok (name, inner)) :
    trim name = name ∧ '(' ∉ name ∧ ∀ c ∈ name, c ∈ piece := by
  by_cases hmem : '(' ∈ piece
  · obtain ⟨a, r, rfl, ha⟩ := List.eq_append_cons_of_mem hmem
    have hname : name = trim a := by
      rw [splitHead_append kind ha] at h
      split at h
      · cases h
      · split_ifs at h
        exact (Prod.mk.inj (Except.ok.inj h)).1.symm
    subst hname
    exact ⟨trim_trim a, fun hc => ha (mem_of_mem_trim hc),
      fun c hc => List.mem_append_left _ (mem_of_mem_trim hc)⟩
  · rw [splitHead_of_no_bracket kind hmem] at h
    obtain ⟨rfl, -⟩ := Prod.mk.inj (Except.ok.inj h)
    exact ⟨trim_trim piece, fun hc => hmem (mem_of_mem_trim hc), fun c => mem_of_mem_trim⟩

/-! ## Blanks around modules -/

/-- Blanks around a module are not part of its head, but a bracket that is not closed shows them. -/
theorem classified_splitHead_blanks (kind : GrammarKind) {l t : List Char}
    (hl : isBlankText l = true) (ht : isBlankText t = true) (piece : List Char) :
    classified (splitHead kind (l ++ piece ++ t)) = classified (splitHead kind piece) := by
  have hbracket {b : List Char} (hb : isBlankText b = true) : '(' ∉ b :=
    not_mem_of_isBlankText hb rfl
  by_cases hmem : '(' ∈ piece
  · obtain ⟨a, r, rfl, ha⟩ := List.eq_append_cons_of_mem hmem
    have hla : '(' ∉ l ++ a := fun h => (List.mem_append.1 h).elim (hbracket hl) ha
    have hplain : ∀ c ∈ t, isOnly "(" c = false ∧ isOnly ")" c = false := by
      intro c hc
      have hblank := isBlankText_iff.1 ht c hc
      constructor
      · refine Bool.eq_false_iff.2 fun h => ?_
        obtain rfl : '(' = c := by simpa [isOnly] using h
        cases hblank
      · refine Bool.eq_false_iff.2 fun h => ?_
        obtain rfl : ')' = c := by simpa [isOnly] using h
        cases hblank
    rw [List.append_assoc, List.append_assoc, ← List.append_assoc l, List.cons_append,
      splitHead_append kind hla, splitHead_append kind ha, closingOffset_append hplain]
    cases hk : closingOffset (isOnly "(") (isOnly ")") 0 r with
    | none => rfl
    | some k =>
      have hlt := closingOffset_lt hk
      have hdrop : (r ++ t).drop (k + 1) = r.drop (k + 1) ++ t :=
        List.drop_append_of_le_length hlt
      have htake : (r ++ t).take k = r.take k := List.take_append_of_le_length hlt.le
      have htake' : (r ++ t).take (k + 1) = r.take (k + 1) := List.take_append_of_le_length hlt
      dsimp only
      rw [hdrop, htake, htake', trim_append_blank ht, List.append_assoc, trim_blank_append hl,
        trim_blank_append hl]
  · have hmem' : '(' ∉ l ++ piece ++ t := by
      simp only [List.mem_append, not_or]
      exact ⟨⟨hbracket hl, hmem⟩, hbracket ht⟩
    rw [splitHead_of_no_bracket kind hmem', splitHead_of_no_bracket kind hmem, trim_blanks hl ht]

end GrowthGrammar
