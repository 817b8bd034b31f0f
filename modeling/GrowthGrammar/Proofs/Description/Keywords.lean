import GrowthGrammar.Description
import GrowthGrammar.Proofs.Fallible
import GrowthGrammar.Proofs.Text.Arrow
import GrowthGrammar.Proofs.Word.Head

/-!
# Keywords of descriptions

A line says something by at most one keyword (`afterKeyword_unique`).  Where a keyword with a colon
begins a rule, it is the name of the rule and what follows is the condition, so that the rule is
never the one that the rest of the line writes (`read_ne_of_afterKeyword`).
-/

namespace GrowthGrammar.Description

open GrowthGrammar.Text

/-! ## Small and capital letters -/

/-- Only letters are changed into other characters. -/
theorem eq_of_toLower_eq {c d : Char} (hd : d.toNat < 97) (h : c.toLower = d) : c = d := by
  unfold Char.toLower at h
  split at h
  · rename_i hupper
    have hl : 65 ≤ c.val.toNat := UInt32.le_iff_toNat_le.1 hupper.1
    have hu : c.val.toNat ≤ 90 := UInt32.le_iff_toNat_le.1 hupper.2
    have hval : d.toNat = (c.val.toNat + 32) % 2 ^ 32 := by
      rw [← h]
      rfl
    omega
  · exact h

theorem not_mem_of_map_toLower {c : Char} (hc : c.toLower = c) {head keyword : List Char}
    (h : head.map Char.toLower = keyword) (hk : c ∉ keyword) : c ∉ head := by
  intro hmem
  have := List.mem_map_of_mem (f := Char.toLower) hmem
  rw [h, hc] at this
  exact hk this

/-! ## One keyword a line -/

theorem afterKeyword_eq_some_iff {keyword line r : List Char} :
    afterKeyword keyword line = some r ↔
      ∃ head, line = head ++ r ∧ head.map Char.toLower = keyword := by
  unfold afterKeyword
  constructor
  · intro h
    split_ifs at h with hk
    obtain rfl := Option.some.inj h
    exact ⟨line.take keyword.length, (List.take_append_drop _ _).symm, hk⟩
  · rintro ⟨head, rfl, hk⟩
    have hlength : keyword.length = head.length := by rw [← hk, List.length_map]
    rw [hlength, List.take_left, List.drop_left, if_pos hk]

theorem afterKeyword_unique {keyword other line r : List Char}
    (hlength : keyword.length = other.length) (hne : keyword ≠ other)
    (h : afterKeyword keyword line = some r) : afterKeyword other line = none := by
  unfold afterKeyword at h ⊢
  split_ifs at h with hk
  rw [if_neg]
  rw [← hlength, hk]
  exact hne

/-! ## Rules that begin with a keyword -/

theorem splitSides_eq_ok {cs left right : List Char}
    (h : Rule.splitSides cs = .ok (left, right)) : splitAtArrow cs = [left, right] := by
  unfold Rule.splitSides at h
  split at h
  · rename_i l r hsides
    obtain ⟨rfl, rfl⟩ := Prod.mk.inj (Except.ok.inj h)
    exact hsides
  · cases h
  · cases h
  · cases h

/-- The condition that is read between a colon and the arrow. -/
theorem readCondition_eq_ok {rule : String} {cs : List Char} {o : Option Condition}
    (h : Rule.readCondition rule (some cs) = .ok o) (hne : isBlankText cs = false) :
    ∃ c, o = some c ∧ c.text = String.ofList (trim cs) := by
  rw [Rule.readCondition, hne] at h
  simp only [Bool.false_eq_true, if_false] at h
  cases hread : Condition.read cs with
  | error e =>
    rw [hread] at h
    cases h
  | ok c =>
    rw [hread] at h
    obtain rfl := Except.ok.inj h
    obtain ⟨e, -, hc⟩ := bind_eq_ok.1 hread
    obtain rfl := Except.ok.inj hc
    exact ⟨_, rfl, rfl⟩

/-- The name of a rule is not blank, and its condition is read from what is behind the colon. -/
theorem exists_left_of_read {globals : Environment} {cs : List Char} {r : Rule}
    (h : Rule.read globals cs = .ok r) :
    ∃ left right, splitAtArrow cs = [left, right] ∧ isBlankText (cutAt ':' left).1 = false ∧
      Rule.readCondition r.name (cutAt ':' left).2 = .ok r.condition := by
  obtain ⟨⟨left, right⟩, hsides, h⟩ := bind_eq_ok.1 h
  obtain ⟨⟨name, inner⟩, hhead, h⟩ := bind_eq_ok.1 h
  obtain ⟨name', hname, h⟩ := bind_eq_ok.1 h
  obtain ⟨parameters, -, h⟩ := bind_eq_ok.1 h
  obtain ⟨condition, hcondition, h⟩ := bind_eq_ok.1 h
  obtain ⟨successors, -, h⟩ := bind_eq_ok.1 h
  obtain rfl := Except.ok.inj h
  refine ⟨left, right, splitSides_eq_ok hsides, Bool.eq_false_iff.2 fun hblank => ?_, hcondition⟩
  have hbracket : '(' ∉ (cutAt ':' left).1 := not_mem_of_isBlankText hblank rfl
  rw [splitHead_of_no_bracket _ hbracket, trim_eq_nil_iff.2 hblank] at hhead
  obtain ⟨rfl, -⟩ := Prod.mk.inj (Except.ok.inj hhead)
  cases hname

/-- The left side of a line is what stands in front of a text and the left side of the text. -/
theorem exists_left_append {head rest left right left' right' : List Char} (hhead : '-' ∉ head)
    (h : splitAtArrow (head ++ rest) = [left, right])
    (h' : splitAtArrow (trim rest) = [left', right']) :
    ∃ l, isBlankText l = true ∧ left = head ++ (l ++ left') := by
  obtain ⟨l, t, hl, ht, hrest⟩ := exists_trim rest
  have htail : splitAtArrow (trim rest ++ t) = [left'] ++ [right' ++ t] :=
    splitAtArrow_append_right (not_mem_of_isBlankText ht rfl) (not_mem_of_isBlankText ht rfl) h'
  have hwhole := splitAtArrow_append_left hhead
    (splitAtArrow_append_left (not_mem_of_isBlankText hl rfl) htail)
  rw [← List.append_assoc l, ← hrest, h] at hwhole
  exact ⟨l, hl, (List.cons.inj hwhole).1⟩

/-- A condition behind a colon in a text is another one than the whole text. -/
theorem trim_ne_of_colon (a y : List Char) : trim (a ++ ':' :: y) ≠ trim y := by
  intro h
  rw [trim_append_cons rfl] at h
  have hlength := congrArg List.length h
  have hle : (trim y).length ≤ (trimEnd y).length := by
    rw [← trim_trimEnd]
    exact length_trim_le _
  rw [List.length_append, List.length_cons] at hlength
  omega

/-- A rule that begins with a keyword and a colon has the rest of its left side as its condition,
and so it is not the rule that the rest of the line is. -/
theorem read_ne_of_afterKeyword {globals : Environment} (keyword : List Char)
    {line rest : List Char} (hcolon : ':' ∉ keyword) (harrow : '-' ∉ keyword) {r r' : Rule}
    (hline : afterKeyword (keyword ++ [':']) line = some rest) (h : Rule.read globals line = .ok r)
    (h' : Rule.read globals (trim rest) = .ok r') : r ≠ r' := by
  obtain ⟨head, rfl, hhead⟩ := afterKeyword_eq_some_iff.1 hline
  obtain ⟨name, colon, rfl, hname, hcolon'⟩ := List.map_eq_append_iff.1 hhead
  obtain ⟨c, rfl, hc⟩ := List.map_eq_singleton_iff.1 hcolon'
  obtain rfl : c = ':' := eq_of_toLower_eq (by decide) hc
  have hnameColon : ':' ∉ name := not_mem_of_map_toLower rfl hname hcolon
  have hheadArrow : '-' ∉ name ++ [':'] := by
    rw [List.mem_append, not_or]
    exact ⟨not_mem_of_map_toLower rfl hname harrow, by decide⟩
  obtain ⟨left, right, hsides, -, hcondition⟩ := exists_left_of_read h
  obtain ⟨left', right', hsides', hblank', hcondition'⟩ := exists_left_of_read h'
  obtain ⟨l, hl, rfl⟩ := exists_left_append hheadArrow hsides hsides'
  have hcut : cutAt ':' (name ++ [':'] ++ (l ++ left')) = (name, some (l ++ left')) := by
    rw [List.append_assoc, List.singleton_append, cutAt_append hnameColon]
  have hleft : isBlankText left' = false := by
    refine Bool.eq_false_iff.2 fun hb => ?_
    rw [cutAt_of_not_mem (not_mem_of_isBlankText hb rfl), hb] at hblank'
    cases hblank'
  rw [hcut] at hcondition
  obtain ⟨c, hc, htext⟩ := readCondition_eq_ok hcondition (by
    rw [isBlankText_append, hleft, Bool.and_false])
  rw [trim_blank_append hl] at htext
  rintro rfl
  by_cases hmem : ':' ∈ left'
  · obtain ⟨a, y, rfl, ha⟩ := List.eq_append_cons_of_mem hmem
    rw [cutAt_append ha, hc] at hcondition'
    cases hy : isBlankText y with
    | true =>
      rw [Rule.readCondition, hy] at hcondition'
      cases hcondition'
    | false =>
      obtain ⟨c', hc', htext'⟩ := readCondition_eq_ok hcondition' hy
      obtain rfl := Option.some.inj hc'
      rw [htext] at htext'
      exact trim_ne_of_colon a y (String.ofList_injective htext')
  · rw [cutAt_of_not_mem hmem, hc] at hcondition'
    cases hcondition'

end GrowthGrammar.Description
