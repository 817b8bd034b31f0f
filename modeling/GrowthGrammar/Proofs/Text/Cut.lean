import GrowthGrammar.Text.Split
import Mathlib.Data.List.Basic

/-!
# Pieces between separators

What `splitAt` and `cutAt` do with a text that is put together from pieces without the separator,
and that no piece of a cut text holds it.  What is put at an end of a text goes to the piece there
(`splitAt_append_right`, `cutAt_append_left`).
-/

namespace GrowthGrammar.Text

/-! ## Cutting everywhere -/

theorem splitAt_cons_self (sep : Char) (r : List Char) :
    splitAt sep (sep :: r) = [] :: splitAt sep r := by
  simp [splitAt, splitWhere]

theorem splitAt_cons_of_ne {sep c : Char} (h : c ≠ sep) (r : List Char) :
    splitAt sep (c :: r) = consHead c (splitAt sep r) := by
  simp [splitAt, splitWhere, h]

theorem splitAt_of_not_mem {sep : Char} {cs : List Char} (h : sep ∉ cs) :
    splitAt sep cs = [cs] := by
  induction cs with
  | nil => rfl
  | cons c r ih =>
    obtain ⟨hc, hr⟩ := not_or.1 (mt List.mem_cons.2 h)
    rw [splitAt_cons_of_ne (Ne.symm hc), ih hr]
    rfl

theorem splitAt_append {sep : Char} {p : List Char} (h : sep ∉ p) (r : List Char) :
    splitAt sep (p ++ sep :: r) = p :: splitAt sep r := by
  induction p with
  | nil => exact splitAt_cons_self sep r
  | cons c p ih =>
    obtain ⟨hc, hp⟩ := not_or.1 (mt List.mem_cons.2 h)
    rw [List.cons_append, splitAt_cons_of_ne (Ne.symm hc), ih hp]
    rfl

/-- A text is cut at a separator wherever it stands. -/
theorem splitAt_append_sep (sep : Char) (cs t : List Char) :
    splitAt sep (cs ++ sep :: t) = splitAt sep cs ++ splitAt sep t := by
  induction cs with
  | nil => exact splitAt_cons_self sep t
  | cons c cs ih =>
    rw [List.cons_append]
    by_cases hc : c = sep
    · subst hc
      rw [splitAt_cons_self, splitAt_cons_self, ih, List.cons_append]
    · rw [splitAt_cons_of_ne hc, splitAt_cons_of_ne hc, ih]
      cases hs : splitAt sep cs with
      | nil => exact absurd hs (splitWhere_ne_nil _ cs)
      | cons p ps => rfl

theorem not_mem_of_mem_splitAt {sep : Char} {cs p : List Char} (h : p ∈ splitAt sep cs) :
    sep ∉ p := by
  induction cs generalizing p with
  | nil =>
    rw [List.mem_singleton.1 h]
    exact List.not_mem_nil
  | cons c r ih =>
    by_cases hc : c = sep
    · subst hc
      rw [splitAt_cons_self] at h
      rcases List.mem_cons.1 h with rfl | h
      · exact List.not_mem_nil
      · exact ih h
    · rw [splitAt_cons_of_ne hc] at h
      cases hs : splitAt sep r with
      | nil => exact absurd hs (splitWhere_ne_nil _ r)
      | cons q qs =>
        rw [hs, consHead] at h
        rcases List.mem_cons.1 h with rfl | h
        · have hq : sep ∉ q := ih (hs ▸ List.mem_cons_self)
          exact List.not_mem_cons_of_ne_of_not_mem (Ne.symm hc) hq
        · exact ih (hs ▸ List.mem_cons_of_mem _ h)

theorem mem_of_mem_splitAt {sep d : Char} {cs p : List Char} (h : p ∈ splitAt sep cs) (hd : d ∈ p) :
    d ∈ cs := by
  induction cs generalizing p with
  | nil =>
    rw [List.mem_singleton.1 h] at hd
    exact hd
  | cons c r ih =>
    by_cases hc : c = sep
    · subst hc
      rw [splitAt_cons_self] at h
      rcases List.mem_cons.1 h with rfl | h
      · cases hd
      · exact List.mem_cons_of_mem _ (ih h hd)
    · rw [splitAt_cons_of_ne hc] at h
      cases hs : splitAt sep r with
      | nil => exact absurd hs (splitWhere_ne_nil _ r)
      | cons q qs =>
        rw [hs, consHead] at h
        rcases List.mem_cons.1 h with rfl | h
        · rcases List.mem_cons.1 hd with rfl | hd
          · exact List.mem_cons_self
          · exact List.mem_cons_of_mem _ (ih (hs ▸ List.mem_cons_self) hd)
        · exact List.mem_cons_of_mem _ (ih (hs ▸ List.mem_cons_of_mem _ h) hd)

theorem splitAt_eq_concat (sep : Char) (cs : List Char) :
    ∃ ps p, splitAt sep cs = ps ++ [p] := by
  rcases List.eq_nil_or_concat' (splitAt sep cs) with hnil | hconcat
  · exact absurd hnil (splitWhere_ne_nil _ cs)
  · exact hconcat

/-- What follows a text goes to the last of its pieces. -/
theorem splitAt_append_right {sep : Char} {t : List Char} (ht : sep ∉ t) {cs p : List Char}
    {ps : List (List Char)} (h : splitAt sep cs = ps ++ [p]) :
    splitAt sep (cs ++ t) = ps ++ [p ++ t] := by
  rw [← intercalate_splitAt sep cs, h]
  have hpieces : ∀ q ∈ ps ++ [p], sep ∉ q := fun q hq => not_mem_of_mem_splitAt (h ▸ hq)
  clear h
  induction ps with
  | nil =>
    have hp : sep ∉ p := hpieces p List.mem_cons_self
    have hlast : [sep].intercalate [p] = p := by simp [List.intercalate]
    rw [List.nil_append, hlast]
    refine splitAt_of_not_mem fun hmem => ?_
    exact (List.mem_append.1 hmem).elim hp ht
  | cons q qs ih =>
    have hq : sep ∉ q := hpieces q List.mem_cons_self
    have hrest := ih fun r hr => hpieces r (List.mem_cons_of_mem _ hr)
    have hjoin : [sep].intercalate (q :: qs ++ [p]) =
        q ++ sep :: [sep].intercalate (qs ++ [p]) := by
      cases qs with
      | nil => simp [List.intercalate]
      | cons q' qs => simp [List.intercalate, List.intersperse]
    rw [hjoin, List.append_assoc, List.cons_append, splitAt_append hq, hrest]
    rfl

/-- Pieces stand in the text that they are joined to. -/
theorem infix_intercalate {sep p : List Char} {ps : List (List Char)} (h : p ∈ ps) :
    p <:+: sep.intercalate ps := by
  induction ps with
  | nil => cases h
  | cons q qs ih =>
    cases qs with
    | nil =>
      obtain rfl := List.mem_singleton.1 h
      exact ⟨[], [], by simp⟩
    | cons r qs =>
      rw [List.intercalate_cons_cons, List.append_assoc]
      rcases List.mem_cons.1 h with rfl | h
      · exact (List.prefix_append p _).isInfix
      · exact (ih h).trans ((List.suffix_append sep _).trans (List.suffix_append q _)).isInfix

theorem not_mem_intercalate {c sep : Char} (hsep : c ≠ sep) {ps : List (List Char)}
    (h : ∀ p ∈ ps, c ∉ p) : c ∉ [sep].intercalate ps := by
  induction ps with
  | nil => exact List.not_mem_nil
  | cons p ps ih =>
    have hp := h p List.mem_cons_self
    have hps := ih fun q hq => h q (List.mem_cons_of_mem _ hq)
    cases ps with
    | nil => rwa [List.intercalate_singleton]
    | cons q ps =>
      simp only [List.intercalate_cons_cons, List.mem_append, List.mem_singleton, not_or]
      exact ⟨⟨hp, hsep⟩, hps⟩

/-- Pieces without the separator are the pieces of the text that they are joined to. -/
theorem splitAt_intercalate {sep : Char} {ps : List (List Char)} (hne : ps ≠ [])
    (h : ∀ p ∈ ps, sep ∉ p) : splitAt sep ([sep].intercalate ps) = ps := by
  induction ps with
  | nil => exact absurd rfl hne
  | cons p ps ih =>
    have hp := h p List.mem_cons_self
    cases ps with
    | nil => rw [List.intercalate_singleton, splitAt_of_not_mem hp]
    | cons q ps =>
      have hps := ih (List.cons_ne_nil _ _) fun r hr => h r (List.mem_cons_of_mem _ hr)
      rw [List.intercalate_cons_cons, List.append_assoc, List.singleton_append, splitAt_append hp,
        hps]

/-! ## Cutting once -/

theorem cutAt_of_not_mem {sep : Char} {cs : List Char} (h : sep ∉ cs) :
    cutAt sep cs = (cs, none) := by
  induction cs with
  | nil => rfl
  | cons c r ih =>
    obtain ⟨hc, hr⟩ := not_or.1 (mt List.mem_cons.2 h)
    rw [cutAt, if_neg (Ne.symm hc), ih hr]

theorem cutAt_append {sep : Char} {a : List Char} (h : sep ∉ a) (r : List Char) :
    cutAt sep (a ++ sep :: r) = (a, some r) := by
  induction a with
  | nil => simp [cutAt]
  | cons c a ih =>
    obtain ⟨hc, ha⟩ := not_or.1 (mt List.mem_cons.2 h)
    rw [List.cons_append, cutAt, if_neg (Ne.symm hc), ih ha]

theorem cutAt_append_left {sep : Char} {l : List Char} (h : sep ∉ l) (cs : List Char) :
    cutAt sep (l ++ cs) = (l ++ (cutAt sep cs).1, (cutAt sep cs).2) := by
  induction l with
  | nil => rfl
  | cons c l ih =>
    obtain ⟨hc, hl⟩ := not_or.1 (mt List.mem_cons.2 h)
    rw [List.cons_append, cutAt, if_neg (Ne.symm hc), ih hl]
    rfl

/-- What is cut off in front holds no separator, and both parts stand in the text. -/
theorem infix_of_cutAt (sep : Char) (cs : List Char) :
    sep ∉ (cutAt sep cs).1 ∧ (cutAt sep cs).1 <:+: cs ∧
      ∀ r, (cutAt sep cs).2 = some r → r <:+: cs := by
  by_cases h : sep ∈ cs
  · obtain ⟨a, r, rfl, ha⟩ := List.eq_append_cons_of_mem h
    rw [cutAt_append ha]
    refine ⟨ha, (List.prefix_append a _).isInfix, fun r' hr => ?_⟩
    obtain rfl := Option.some.inj hr
    exact ((List.suffix_cons sep r).trans (List.suffix_append a _)).isInfix
  · rw [cutAt_of_not_mem h]
    exact ⟨h, List.infix_rfl, fun r hr => by cases hr⟩

end GrowthGrammar.Text
