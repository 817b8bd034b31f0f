import GrowthGrammar.Text.Blank
import Mathlib.Data.List.Basic
import Mathlib.Data.List.TakeWhile
import Mathlib.Tactic.Conv

/-!
# Blanks at the ends of a text

A text is its trimmed text between blanks (`exists_trim`), and blanks at its ends do not count for
the trimmed text (`trim_blank_append`, `trim_append_blank`).
-/

namespace GrowthGrammar.Text

theorem isBlankText_iff {cs : List Char} : isBlankText cs = true ↔ ∀ c ∈ cs, isBlank c = true := by
  simp [isBlankText]

theorem isBlankText_append (l r : List Char) :
    isBlankText (l ++ r) = (isBlankText l && isBlankText r) := by
  simp [isBlankText]

theorem isBlankText_reverse (cs : List Char) : isBlankText cs.reverse = isBlankText cs := by
  simp [isBlankText]

theorem not_mem_of_isBlankText {l : List Char} (hl : isBlankText l = true) {c : Char}
    (hc : isBlank c = false) : c ∉ l := fun hmem => by
  rw [isBlankText_iff.1 hl c hmem] at hc
  cases hc

theorem not_isBlankText_of_mem {cs : List Char} {c : Char} (hmem : c ∈ cs)
    (hc : isBlank c = false) : isBlankText cs = false :=
  Bool.eq_false_iff.2 fun h => not_mem_of_isBlankText h hc hmem

theorem not_mem_marks_of_isBlankText {l marks : List Char} (hl : isBlankText l = true)
    (hmarks : marks.all (!isBlank ·) = true) {c : Char} (hc : c ∈ l) : c ∉ marks := by
  intro hmem
  have hblank : isBlank c = false := by simpa using List.all_eq_true.1 hmarks c hmem
  exact not_mem_of_isBlankText hl hblank hc

/-! ## Either end -/

theorem trimStart_blank_append {l : List Char} (h : isBlankText l = true) (cs : List Char) :
    trimStart (l ++ cs) = trimStart cs :=
  List.dropWhile_append_of_pos (isBlankText_iff.1 h)

theorem trimEnd_append_blank {r : List Char} (h : isBlankText r = true) (cs : List Char) :
    trimEnd (cs ++ r) = trimEnd cs := by
  rw [← isBlankText_reverse] at h
  unfold trimEnd
  rw [List.reverse_append, List.dropWhile_append_of_pos (isBlankText_iff.1 h)]

theorem exists_trimStart (cs : List Char) :
    ∃ l, isBlankText l = true ∧ cs = l ++ trimStart cs :=
  ⟨cs.takeWhile isBlank, isBlankText_iff.2 fun _ => List.mem_takeWhile_imp,
    List.takeWhile_append_dropWhile.symm⟩

theorem exists_trimEnd (cs : List Char) : ∃ r, isBlankText r = true ∧ cs = trimEnd cs ++ r := by
  obtain ⟨l, hl, hcs⟩ := exists_trimStart cs.reverse
  refine ⟨l.reverse, (isBlankText_reverse l).trans hl, ?_⟩
  have hrev := congrArg List.reverse hcs
  rwa [List.reverse_reverse, List.reverse_append] at hrev

theorem trimStart_eq_nil_iff {cs : List Char} : trimStart cs = [] ↔ isBlankText cs = true := by
  rw [trimStart, List.dropWhile_eq_nil_iff, isBlankText_iff]

theorem trimEnd_eq_nil_iff {cs : List Char} : trimEnd cs = [] ↔ isBlankText cs = true := by
  rw [trimEnd, List.reverse_eq_nil_iff, ← trimStart, trimStart_eq_nil_iff, isBlankText_reverse]

/-- What has been trimmed at its head begins with no blank. -/
theorem not_isBlank_of_trimStart {cs : List Char} {c : Char} {r : List Char}
    (h : trimStart cs = c :: r) : isBlank c = false := by
  induction cs with
  | nil => cases h
  | cons d s ih =>
    rw [trimStart_cons] at h
    split_ifs at h with hd
    · exact ih h
    · obtain ⟨rfl, -⟩ := List.cons.inj h
      exact Bool.eq_false_iff.2 hd

/-- Blanks at the end of a text are there whatever stands in front of it. -/
theorem trimEnd_append {r : List Char} (h : isBlankText r = false) (l : List Char) :
    trimEnd (l ++ r) = l ++ trimEnd r := by
  obtain ⟨t, ht, hr⟩ := exists_trimEnd r
  rcases List.eq_nil_or_concat' (trimEnd r) with hnil | ⟨s, d, hs⟩
  · rw [trimEnd_eq_nil_iff.1 hnil] at h
    cases h
  · have hd : isBlank d = false := by
      have hrev := congrArg List.reverse hs
      rw [trimEnd, List.reverse_reverse, List.reverse_concat] at hrev
      exact not_isBlank_of_trimStart hrev
    have happend : l ++ r = (l ++ s ++ [d]) ++ t := by
      conv_lhs => rw [hr, hs]
      simp only [List.append_assoc]
    rw [happend, trimEnd_append_blank ht, trimEnd_append_singleton hd, hs, List.append_assoc]

theorem trimEnd_cons {c : Char} (h : isBlank c = false) (r : List Char) :
    trimEnd (c :: r) = c :: trimEnd r := by
  cases hr : isBlankText r with
  | true =>
    rw [← List.singleton_append, trimEnd_append_blank hr, trimEnd_eq_nil_iff.2 hr]
    exact trimEnd_append_singleton (r := []) h
  | false => exact trimEnd_append hr [c]

theorem trimEnd_of_no_blank {cs : List Char} (h : ∀ c ∈ cs, isBlank c = false) :
    trimEnd cs = cs := by
  rcases List.eq_nil_or_concat' cs with rfl | ⟨s, d, rfl⟩
  · rfl
  · exact trimEnd_append_singleton (h d (List.mem_append_right s List.mem_cons_self))

/-! ## Both ends -/

theorem trim_blank_append {l : List Char} (h : isBlankText l = true) (cs : List Char) :
    trim (l ++ cs) = trim cs := by
  rw [trim, trimStart_blank_append h, trim]

theorem trim_eq_nil_iff {cs : List Char} : trim cs = [] ↔ isBlankText cs = true := by
  obtain ⟨l, hl, hcs⟩ := exists_trimStart cs
  rw [trim, trimEnd_eq_nil_iff]
  conv_rhs => rw [hcs, isBlankText_append, hl, Bool.true_and]

theorem trim_append_blank {r : List Char} (h : isBlankText r = true) (cs : List Char) :
    trim (cs ++ r) = trim cs := by
  obtain ⟨l, hl, hcs⟩ := exists_trimStart cs
  cases hs : trimStart cs with
  | nil =>
    have hblank : isBlankText (cs ++ r) = true := by
      rw [isBlankText_append, trimStart_eq_nil_iff.1 hs, h]
      rfl
    rw [trim_eq_nil_iff.2 hblank, trim_eq_nil_iff.2 (trimStart_eq_nil_iff.1 hs)]
  | cons c s =>
    have hstart : trimStart (cs ++ r) = trimStart cs ++ r := by
      conv_lhs => rw [hcs, hs, List.append_assoc, trimStart_blank_append hl, List.cons_append]
      rw [trimStart_of_head (not_isBlank_of_trimStart hs), hs, List.cons_append]
    rw [trim, hstart, trimEnd_append_blank h, trim]

theorem trim_blanks {l t : List Char} (hl : isBlankText l = true) (ht : isBlankText t = true)
    (cs : List Char) : trim (l ++ cs ++ t) = trim cs := by
  rw [trim_append_blank ht, trim_blank_append hl]

/-- A text is its trimmed text between blanks. -/
theorem exists_trim (cs : List Char) :
    ∃ l r, isBlankText l = true ∧ isBlankText r = true ∧ cs = l ++ trim cs ++ r := by
  obtain ⟨l, hl, hcs⟩ := exists_trimStart cs
  obtain ⟨r, hr, hstart⟩ := exists_trimEnd (trimStart cs)
  refine ⟨l, r, hl, hr, ?_⟩
  rw [List.append_assoc, trim, ← hstart, ← hcs]

theorem trim_trim (cs : List Char) : trim (trim cs) = trim cs := by
  obtain ⟨l, r, hl, hr, hcs⟩ := exists_trim cs
  conv_rhs => rw [hcs, trim_append_blank hr, trim_blank_append hl]

theorem length_trim_le (cs : List Char) : (trim cs).length ≤ cs.length := by
  obtain ⟨l, r, -, -, hcs⟩ := exists_trim cs
  have hlength := congrArg List.length hcs
  simp only [List.length_append] at hlength
  omega

theorem trim_trimEnd (cs : List Char) : trim (trimEnd cs) = trim cs := by
  obtain ⟨r, hr, hcs⟩ := exists_trimEnd cs
  conv_rhs => rw [hcs, trim_append_blank hr]

/-- A character that is no blank parts the blanks at one end from those at the other. -/
theorem trim_append_cons {c : Char} (h : isBlank c = false) (l r : List Char) :
    trim (l ++ c :: r) = trimStart l ++ c :: trimEnd r := by
  have hblank : isBlankText (c :: r) = false := by simp [isBlankText, h]
  obtain ⟨b, hb, hl⟩ := exists_trimStart l
  have hstart : trimStart (l ++ c :: r) = trimStart l ++ c :: r := by
    conv_lhs => rw [hl, List.append_assoc, trimStart_blank_append hb]
    cases hs : trimStart l with
    | nil => exact trimStart_of_head h
    | cons d s => exact trimStart_of_head (not_isBlank_of_trimStart hs)
  rw [trim, hstart, trimEnd_append hblank, trimEnd_cons h]

theorem mem_of_mem_trim {cs : List Char} {c : Char} (h : c ∈ trim cs) : c ∈ cs := by
  obtain ⟨l, r, -, -, hcs⟩ := exists_trim cs
  rw [hcs]
  exact List.mem_append_left _ (List.mem_append_right _ h)

theorem infix_trim (cs : List Char) : trim cs <:+: cs := by
  obtain ⟨l, r, -, -, hcs⟩ := exists_trim cs
  exact ⟨l, r, hcs.symm⟩

theorem trim_of_no_blank {cs : List Char} (h : ∀ c ∈ cs, isBlank c = false) : trim cs = cs := by
  obtain ⟨l, r, hl, hr, hcs⟩ := exists_trim cs
  have hnil {t : List Char} (ht : isBlankText t = true) (hsub : ∀ c ∈ t, c ∈ cs) : t = [] := by
    cases t with
    | nil => rfl
    | cons c s =>
      have hc := isBlankText_iff.1 ht c List.mem_cons_self
      rw [h c (hsub c List.mem_cons_self)] at hc
      cases hc
  have hl' : l = [] := hnil hl fun c hc => by
    rw [hcs]
    exact List.mem_append_left _ (List.mem_append_left _ hc)
  have hr' : r = [] := hnil hr fun c hc => by
    rw [hcs]
    exact List.mem_append_right _ hc
  rw [hl', hr', List.nil_append, List.append_nil] at hcs
  exact hcs.symm

/-! ## Words -/

theorem splitWhere_append {sep : Char → Bool} {c : Char} (hc : sep c = true) (a b : List Char) :
    splitWhere sep (a ++ c :: b) = splitWhere sep a ++ splitWhere sep b := by
  induction a with
  | nil => simp [splitWhere, hc]
  | cons d a ih =>
    cases hd : sep d with
    | true => simp [splitWhere, hd, ih]
    | false =>
      cases ha : splitWhere sep a with
      | nil => exact absurd ha (splitWhere_ne_nil sep a)
      | cons p ps => simp [splitWhere, hd, ih, ha, consHead]

theorem words_append {c : Char} (hc : isBlank c = true) (a b : List Char) :
    words (a ++ c :: b) = words a ++ words b := by
  rw [words, splitWhere_append hc, List.filter_append, words, words]

theorem words_of_no_blank {cs : List Char} (hne : cs ≠ []) (h : ∀ c ∈ cs, isBlank c = false) :
    words cs = [cs] := by
  have hsplit : splitWhere isBlank cs = [cs] := by
    clear hne
    induction cs with
    | nil => rfl
    | cons c r ih =>
      obtain ⟨hc, hr⟩ := List.forall_mem_cons.1 h
      rw [splitWhere, hc, ih hr]
      rfl
  simp [words, hsplit, hne]

theorem isBlankText_of_words_eq_nil {cs : List Char} (h : words cs = []) :
    isBlankText cs = true := by
  induction cs with
  | nil => rfl
  | cons c r ih =>
    cases hc : isBlank c with
    | true =>
      have hr : words r = [] := by
        have happend := words_append hc [] r
        rw [List.nil_append, h] at happend
        exact (List.append_eq_nil_iff.1 happend.symm).2
      rw [isBlankText, List.all_cons, hc, Bool.true_and]
      exact ih hr
    | false =>
      cases hr : splitWhere isBlank r with
      | nil => exact absurd hr (splitWhere_ne_nil isBlank r)
      | cons p ps => simp [words, splitWhere, hc, hr, consHead] at h

/-- A trimmed text of one word holds no blank. -/
theorem not_isBlank_of_word {cs : List Char} (htrim : trim cs = cs)
    (hwords : (words cs).length ≤ 1) : ∀ c ∈ cs, isBlank c = false := by
  intro c hmem
  refine Bool.eq_false_iff.2 fun hc => ?_
  obtain ⟨a, b, rfl⟩ := List.append_of_mem hmem
  rw [words_append hc, List.length_append] at hwords
  -- With a blank in between, one of the parts would be blank, and trimmed off with it.
  rcases Nat.eq_zero_or_pos (words a).length with ha | ha
  · have hblank := isBlankText_of_words_eq_nil (List.length_eq_zero_iff.1 ha)
    have hfront : isBlankText (a ++ [c]) = true := by
      rw [isBlankText_append, hblank, isBlankText, List.all_cons, hc]
      rfl
    have htext := trim_blank_append hfront b
    rw [List.append_assoc, List.singleton_append, htrim] at htext
    have hlength := length_trim_le b
    rw [← htext, List.length_append, List.length_cons] at hlength
    omega
  · have hb : (words b).length = 0 := by omega
    have hblank := isBlankText_of_words_eq_nil (List.length_eq_zero_iff.1 hb)
    have hback : isBlankText (c :: b) = true := by
      rw [isBlankText, List.all_cons, hc, Bool.true_and]
      exact hblank
    have hlength := length_trim_le a
    rw [← trim_append_blank hback, htrim, List.length_append, List.length_cons] at hlength
    omega

end GrowthGrammar.Text
