import GrowthGrammar.Axiom
import GrowthGrammar.Proofs.Word.Head

/-!
# Blanks behind axioms

A word is read from its axiom with the same answer, or an error of the same class, when blanks stand
behind the axiom (`classified_readAxiom_append_blank`).
-/

namespace GrowthGrammar

open GrowthGrammar.Text

theorem classified_readSymbol_blanks {l t : List Char} (hl : isBlankText l = true)
    (ht : isBlankText t = true) (piece : List Char) :
    classified (readSymbol (l ++ piece ++ t)) = classified (readSymbol piece) := by
  unfold readSymbol
  refine classified_bind_congr (classified_splitHead_blanks _ hl ht piece) fun head => ?_
  rw [trim_blanks hl ht]

theorem classified_readAxiom_append_blank {t : List Char} (ht : isBlankText t = true)
    (cs : List Char) : classified (readAxiom (cs ++ t)) = classified (readAxiom cs) := by
  obtain ⟨ps, p, hpieces⟩ := splitAt_eq_concat ';' cs
  have hlast : isBlankText (p ++ t) = isBlankText p := by
    rw [isBlankText_append, ht, Bool.and_true]
  have hsymbol : classified (readSymbol (p ++ t)) = classified (readSymbol p) :=
    classified_readSymbol_blanks (l := []) rfl ht p
  unfold readAxiom
  rw [splitAt_append_right (not_mem_of_isBlankText ht rfl) hpieces, hpieces, classified_mapM,
    classified_mapM, List.filter_append, List.filter_append, List.mapM_append, List.mapM_append]
  refine bind_congr fun symbols => ?_
  cases hp : isBlankText p with
  | true => simp [hlast, hp]
  | false => simp [hlast, hp, hsymbol]

end GrowthGrammar
