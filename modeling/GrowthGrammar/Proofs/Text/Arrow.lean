import GrowthGrammar.Proofs.Text.Trim

/-!
# Sides of an arrow

Characters that belong to no arrow, put at an end of a text, go to the first or the last of the
pieces between its arrows (`splitAtArrow_append_left`, `splitAtArrow_append_right`); blanks do.  An
arrow between two texts that hold none is the only one (`splitAtArrow_append_arrow`).
-/

namespace GrowthGrammar.Text

theorem splitAtArrow_cons_of_ne {c : Char} {r : List Char}
    (h : c = '-' → ∀ s, r ≠ '-' :: '>' :: s) :
    splitAtArrow (c :: r) = consHead c (splitAtArrow r) := by
  rw [splitAtArrow]
  exact fun s hc hs => h hc s hs

theorem splitAtArrow_append_left {l : List Char} (hl : '-' ∉ l) {cs p : List Char}
    {ps : List (List Char)} (h : splitAtArrow cs = p :: ps) :
    splitAtArrow (l ++ cs) = (l ++ p) :: ps := by
  induction l with
  | nil => exact h
  | cons c l ih =>
    obtain ⟨hc, hl⟩ := not_or.1 (mt List.mem_cons.2 hl)
    have hdash : c ≠ '-' := Ne.symm hc
    rw [List.cons_append, splitAtArrow_cons_of_ne fun h => absurd h hdash, ih hl]
    rfl

theorem splitAtArrow_of_not_mem {cs : List Char} (h : '-' ∉ cs) : splitAtArrow cs = [cs] := by
  have hnil : splitAtArrow [] = [[]] := rfl
  have happend := splitAtArrow_append_left h hnil
  rwa [List.append_nil] at happend

/-- No arrow begins in a text and ends behind it. -/
theorem ne_arrow_append {t : List Char} (ht : '-' ∉ t) (ht' : '>' ∉ t) {r : List Char}
    (hr : ∀ s, r ≠ '-' :: '>' :: s) (s : List Char) : r ++ t ≠ '-' :: '>' :: s := by
  intro hs
  cases r with
  | nil =>
    have hdash : t = '-' :: '>' :: s := hs
    exact ht (hdash ▸ List.mem_cons_self)
  | cons d r =>
    obtain ⟨rfl, hd⟩ := List.cons.inj hs
    cases r with
    | nil =>
      have htip : t = '>' :: s := hd
      exact ht' (htip ▸ List.mem_cons_self)
    | cons e r =>
      obtain ⟨rfl, -⟩ := List.cons.inj hd
      exact hr r rfl

theorem splitAtArrow_append_right {t : List Char} (ht : '-' ∉ t) (ht' : '>' ∉ t) {cs p : List Char}
    {ps : List (List Char)} (h : splitAtArrow cs = ps ++ [p]) :
    splitAtArrow (cs ++ t) = ps ++ [p ++ t] := by
  fun_induction splitAtArrow cs generalizing ps p with
  | case1 =>
    cases ps with
    | nil =>
      obtain rfl := List.singleton_inj.1 h
      exact splitAtArrow_of_not_mem ht
    | cons q qs => simp at h
  | case2 r ih =>
    cases ps with
    | nil => exact absurd (List.cons.inj h).2 (splitAtArrow_ne_nil r)
    | cons q qs =>
      obtain ⟨rfl, hqs⟩ := List.cons.inj h
      have hr := ih hqs
      simp only [List.cons_append, splitAtArrow, hr]
  | case3 c r hr ih =>
    have hstep : splitAtArrow (c :: r ++ t) = consHead c (splitAtArrow (r ++ t)) :=
      splitAtArrow_cons_of_ne fun hc => ne_arrow_append ht ht' fun s hs => hr s hc hs
    rw [hstep]
    cases hpieces : splitAtArrow r with
    | nil => exact absurd hpieces (splitAtArrow_ne_nil r)
    | cons q qs =>
      rw [hpieces, consHead] at h
      cases ps with
      | nil =>
        obtain ⟨rfl, rfl⟩ := List.cons.inj h
        have hr : splitAtArrow (r ++ t) = [] ++ [q ++ t] := ih hpieces
        rw [hr]
        rfl
      | cons p' ps =>
        obtain ⟨rfl, rfl⟩ := List.cons.inj h
        have hr : splitAtArrow (r ++ t) = (q :: ps) ++ [p ++ t] := ih hpieces
        rw [hr]
        rfl

/-! ## Texts without arrows -/

/-- No arrow stands in the text. -/
def ArrowFree (cs : List Char) : Prop :=
  ¬arrow <:+: cs

theorem arrowFree_nil : ArrowFree [] := by
  intro h
  have hlength := h.length_le
  contradiction

theorem ArrowFree.within {p cs : List Char} (h : ArrowFree cs) (hp : p <:+: cs) : ArrowFree p :=
  fun harrow => h (harrow.trans hp)

/-- An arrow does not reach over a character that belongs to none. -/
theorem arrowFree_append_cons {c : Char} (hc : c ∉ arrow) (a b : List Char) :
    ArrowFree (a ++ c :: b) ↔ ArrowFree a ∧ ArrowFree b := by
  refine ⟨fun h => ⟨fun ha => h ?_, fun hb => h ?_⟩, ?_⟩
  · exact ha.trans (List.prefix_append a _).isInfix
  · exact hb.trans ((List.suffix_cons c b).trans (List.suffix_append a _)).isInfix
  · rintro ⟨ha, hb⟩ ⟨s, u, h⟩
    rcases List.append_eq_append_iff.1 h with ⟨m, rfl, -⟩ | ⟨m, hleft, hright⟩
    · exact ha ⟨s, m, rfl⟩
    · cases m with
      | nil =>
        rw [List.append_nil] at hleft
        exact ha ⟨s, [], by rw [List.append_nil, hleft]⟩
      | cons d m =>
        obtain ⟨rfl, rfl⟩ := List.cons.inj hright
        rcases List.append_eq_append_iff.1 hleft with ⟨k, -, hk⟩ | ⟨k, -, hk⟩
        · exact hc (hk ▸ List.mem_append_right k List.mem_cons_self)
        · cases k with
          | nil =>
            rw [List.nil_append] at hk
            exact hc (hk ▸ List.mem_cons_self)
          | cons e k =>
            obtain ⟨-, rfl⟩ := List.cons.inj hk
            exact hb ⟨k, u, rfl⟩

theorem arrowFree_append_left {l : List Char} (hl : ∀ c ∈ l, c ∉ arrow) (cs : List Char) :
    ArrowFree (l ++ cs) ↔ ArrowFree cs := by
  induction l with
  | nil => rfl
  | cons c l ih =>
    have hcons := arrowFree_append_cons (hl c List.mem_cons_self) [] (l ++ cs)
    rw [List.cons_append, ← List.nil_append (c :: (l ++ cs)), hcons,
      ih fun d hd => hl d (List.mem_cons_of_mem _ hd)]
    exact and_iff_right arrowFree_nil

theorem arrowFree_of_no_mark {cs : List Char} (h : ∀ c ∈ cs, c ∉ arrow) : ArrowFree cs := by
  have happend := arrowFree_append_left h []
  rw [List.append_nil] at happend
  exact happend.2 arrowFree_nil

theorem arrowFree_of_isBlankText {cs : List Char} (h : isBlankText cs = true) : ArrowFree cs :=
  arrowFree_of_no_mark fun _ hc => not_mem_marks_of_isBlankText h (by decide) hc

theorem arrowFree_append_right {t : List Char} (ht : ∀ c ∈ t, c ∉ arrow) (cs : List Char) :
    ArrowFree (cs ++ t) ↔ ArrowFree cs := by
  cases t with
  | nil => rw [List.append_nil]
  | cons c t =>
    have ht' : ArrowFree t := arrowFree_of_no_mark fun d hd => ht d (List.mem_cons_of_mem _ hd)
    rw [arrowFree_append_cons (ht c List.mem_cons_self)]
    exact and_iff_left ht'

theorem arrowFree_blanks {l t : List Char} (hl : isBlankText l = true) (ht : isBlankText t = true)
    (cs : List Char) : ArrowFree (l ++ cs ++ t) ↔ ArrowFree cs := by
  rw [arrowFree_append_right fun c hc => not_mem_marks_of_isBlankText ht (by decide) hc,
    arrowFree_append_left fun c hc => not_mem_marks_of_isBlankText hl (by decide) hc]

theorem arrowFree_intercalate {c : Char} (hc : c ∉ arrow) {ps : List (List Char)}
    (h : ∀ p ∈ ps, ArrowFree p) : ArrowFree ([c].intercalate ps) := by
  induction ps with
  | nil => exact arrowFree_nil
  | cons p ps ih =>
    have hp := h p List.mem_cons_self
    have hps := ih fun q hq => h q (List.mem_cons_of_mem _ hq)
    cases ps with
    | nil => rwa [List.intercalate_singleton]
    | cons q ps =>
      rw [List.intercalate_cons_cons, List.append_assoc, List.singleton_append,
        arrowFree_append_cons hc]
      exact ⟨hp, hps⟩

theorem splitAtArrow_of_arrowFree {cs : List Char} (h : ArrowFree cs) : splitAtArrow cs = [cs] := by
  fun_induction splitAtArrow cs with
  | case1 => rfl
  | case2 r ih => exact absurd ⟨[], r, rfl⟩ h
  | case3 c r hr ih =>
    have hfree : ArrowFree r := h.within (List.suffix_cons c r).isInfix
    rw [ih hfree]
    rfl

/-- The first arrow of a text is the one behind a text without any. -/
theorem splitAtArrow_append_arrow {l : List Char} (hl : ArrowFree l) (r : List Char) :
    splitAtArrow (l ++ arrow ++ r) = l :: splitAtArrow r := by
  induction l with
  | nil => rfl
  | cons c l ih =>
    have hfree : ArrowFree l := hl.within (List.suffix_cons c l).isInfix
    have hopens : c = '-' → ∀ s, l ++ arrow ++ r ≠ '-' :: '>' :: s := by
      rintro rfl s hs
      match l, hs with
      | [], hs => cases (List.cons.inj (List.cons.inj hs).2).1
      | [d], hs => cases (List.cons.inj (List.cons.inj hs).2).1
      | d :: e :: l, hs =>
        obtain ⟨rfl, rfl, -⟩ : d = '-' ∧ e = '>' ∧ l ++ arrow ++ r = s := by simpa using hs
        exact hl ⟨[], l, rfl⟩
    rw [List.cons_append, List.cons_append, splitAtArrow_cons_of_ne hopens, ih hfree]
    rfl

theorem arrowFree_of_mem_splitAtArrow {cs p : List Char} (h : p ∈ splitAtArrow cs) :
    ArrowFree p := by
  fun_induction splitAtArrow cs generalizing p with
  | case1 =>
    obtain rfl := List.mem_singleton.1 h
    exact arrowFree_nil
  | case2 r ih =>
    rcases List.mem_cons.1 h with rfl | h
    · exact arrowFree_nil
    · exact ih h
  | case3 c r hr ih =>
    cases hpieces : splitAtArrow r with
    | nil => exact absurd hpieces (splitAtArrow_ne_nil r)
    | cons q qs =>
      rw [hpieces, consHead] at h
      rw [hpieces] at ih
      rcases List.mem_cons.1 h with rfl | h
      · rintro ⟨s, u, hq⟩
        cases s with
        | nil =>
          -- The arrow would be one at the beginning of the text.
          obtain ⟨rfl, rfl⟩ : '-' = c ∧ '-' :: '>' :: u = q := by simpa [arrow] using hq
          have htext := intercalate_splitAtArrow r
          rw [hpieces] at htext
          cases qs with
          | nil =>
            rw [List.intercalate_singleton] at htext
            exact hr u rfl htext.symm
          | cons p qs =>
            rw [List.intercalate_cons_cons, List.append_assoc] at htext
            exact hr _ rfl htext.symm
        | cons d s => exact ih List.mem_cons_self ⟨s, u, (List.cons.inj hq).2⟩
      · exact ih (List.mem_cons_of_mem q h)

end GrowthGrammar.Text
