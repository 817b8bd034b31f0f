import GrowthGrammar.Proofs.Text.Arrow
import GrowthGrammar.Proofs.Word.Head
import GrowthGrammar.Rule.Reader

/-!
# Blanks around rules

A rule is read with the same answer, or an error of the same class, when blanks stand around it
(`classified_read_blanks`), and so from the trimmed text (`classified_read_trim`).
-/

namespace GrowthGrammar.Rule

open GrowthGrammar.Text

section Blanks

variable {l t : List Char} (hl : isBlankText l = true) (ht : isBlankText t = true)

include hl ht

theorem splitSides_blanks (cs : List Char) :
    splitSides (l ++ cs ++ t) =
      (splitSides cs).map fun sides => (l ++ sides.1, sides.2 ++ t) := by
  have hlarrow : '-' ∉ l := not_mem_of_isBlankText hl rfl
  have htarrow : '-' ∉ t := not_mem_of_isBlankText ht rfl
  have htarrow' : '>' ∉ t := not_mem_of_isBlankText ht rfl
  unfold splitSides
  rw [List.append_assoc]
  match hpieces : splitAtArrow cs with
  | [] => exact absurd hpieces (splitAtArrow_ne_nil cs)
  | [p] =>
    have hright : splitAtArrow (cs ++ t) = [p ++ t] :=
      splitAtArrow_append_right htarrow htarrow' (show splitAtArrow cs = [] ++ [p] from hpieces)
    rw [splitAtArrow_append_left hlarrow hright, ← List.append_assoc l cs, trim_blanks hl ht]
    rfl
  | [p, q] =>
    have hright : splitAtArrow (cs ++ t) = [p, q ++ t] :=
      splitAtArrow_append_right htarrow htarrow' (show splitAtArrow cs = [p] ++ [q] from hpieces)
    rw [splitAtArrow_append_left hlarrow hright]
    rfl
  | p :: q :: r :: s =>
    obtain ⟨ps, last, hlast⟩ :=
      (List.eq_nil_or_concat' (r :: s)).resolve_left (List.cons_ne_nil r s)
    have hright : splitAtArrow (cs ++ t) = p :: q :: (ps ++ [last ++ t]) :=
      splitAtArrow_append_right htarrow htarrow'
        (show splitAtArrow cs = (p :: q :: ps) ++ [last] by rw [hpieces, hlast]; rfl)
    rw [splitAtArrow_append_left hlarrow hright, ← List.append_assoc l cs, trim_blanks hl ht]
    cases ps with
    | nil => rfl
    | cons p' ps => rfl

omit hl in
theorem classified_readSuccessors_append_blank (cs : List Char) :
    classified (readSuccessors (cs ++ t)) = classified (readSuccessors cs) := by
  obtain ⟨ps, p, hpieces⟩ := splitAt_eq_concat ';' cs
  have hsuccessor : classified (readSuccessor (p ++ t)) = classified (readSuccessor p) := by
    unfold readSuccessor
    exact classified_bind_congr (classified_splitHead_blanks _ (l := []) rfl ht p) fun _ => rfl
  unfold readSuccessors
  rw [splitAt_append_right (not_mem_of_isBlankText ht rfl) hpieces, hpieces]
  refine classified_bind_congr ?_ fun _ => rfl
  rw [classified_mapM, classified_mapM, List.mapM_append, List.mapM_append, List.mapM_cons,
    List.mapM_cons, hsuccessor]

/-- Blanks around a rule do not count, but a bracket that is not closed shows them. -/
theorem classified_read_blanks (globals : Environment) (cs : List Char) :
    classified (read globals (l ++ cs ++ t)) = classified (read globals cs) := by
  unfold read
  rw [splitSides_blanks hl ht]
  cases splitSides cs with
  | error e => rfl
  | ok sides =>
    obtain ⟨left, right⟩ := sides
    have hname (name : List Char) : checkName (l ++ cs ++ t) name = checkName cs name := by
      unfold checkName
      rw [trim_blanks hl ht]
    have hhead : classified (splitHead .ruleParameter (l ++ (cutAt ':' left).1)) =
        classified (splitHead .ruleParameter (cutAt ':' left).1) := by
      have := classified_splitHead_blanks .ruleParameter hl (t := []) rfl (cutAt ':' left).1
      rwa [List.append_nil] at this
    have hcut := cutAt_append_left (not_mem_of_isBlankText hl rfl : ':' ∉ l) left
    simp only [Except.map, ok_bind, hcut, hname]
    refine classified_bind_congr hhead fun head => ?_
    refine classified_bind_congr rfl fun name => ?_
    refine classified_bind_congr rfl fun parameters => ?_
    refine classified_bind_congr rfl fun condition => ?_
    exact classified_bind_congr (classified_readSuccessors_append_blank ht right) fun _ => rfl

end Blanks

theorem classified_read_trim (globals : Environment) (cs : List Char) :
    classified (read globals (trim cs)) = classified (read globals cs) := by
  obtain ⟨l, t, hl, ht, hcs⟩ := exists_trim cs
  conv_rhs => rw [hcs]
  exact (classified_read_blanks hl ht globals (trim cs)).symm

end GrowthGrammar.Rule
