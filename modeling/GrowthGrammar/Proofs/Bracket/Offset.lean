import GrowthGrammar.Bracket
import Mathlib.Data.Nat.Notation

/-!
# Offsets of closing brackets

What `closingOffset` does with one character of a text, and with a text that holds no bracket.
-/

namespace GrowthGrammar

variable {a c : Char} {r t : List Char} {opens closes : Char → Bool}

/-! ## One character -/

theorem closingOffset_of_opens (hopen : opens c = true) (depth : ℕ) (r : List Char) :
    closingOffset opens closes depth (c :: r) =
      (closingOffset opens closes (depth + 1) r).map (· + 1) := by
  rw [closingOffset.eq_def]
  exact if_pos hopen

theorem closingOffset_zero_of_closes (hopen : ¬opens c = true) (hclose : closes c = true)
    (r : List Char) : closingOffset opens closes 0 (c :: r) = some 0 := by
  rw [closingOffset.eq_def]
  exact (if_neg hopen).trans (if_pos hclose)

theorem closingOffset_succ_of_closes (hopen : ¬opens c = true) (hclose : closes c = true)
    (depth : ℕ) (r : List Char) :
    closingOffset opens closes (depth + 1) (c :: r) =
      (closingOffset opens closes depth r).map (· + 1) := by
  rw [closingOffset.eq_def]
  exact (if_neg hopen).trans (if_pos hclose)

theorem closingOffset_of_other (hopen : ¬opens c = true) (hclose : ¬closes c = true) (depth : ℕ)
    (r : List Char) :
    closingOffset opens closes depth (c :: r) =
      (closingOffset opens closes depth r).map (· + 1) := by
  rw [closingOffset.eq_def]
  exact (if_neg hopen).trans (if_neg hclose)

/-! ## Texts without brackets -/

theorem closingOffset_of_no_bracket
    (h : ∀ c ∈ t, opens c = false ∧ closes c = false) (depth : ℕ) :
    closingOffset opens closes depth t = none := by
  induction t with
  | nil => rfl
  | cons c t ih =>
    obtain ⟨hopen, hclose⟩ := h c List.mem_cons_self
    have ht := ih fun d hd => h d (List.mem_cons_of_mem _ hd)
    simp [closingOffset, hopen, hclose, ht]

theorem closingOffset_append (h : ∀ c ∈ t, opens c = false ∧ closes c = false)
    (depth : ℕ) (r : List Char) :
    closingOffset opens closes depth (r ++ t) = closingOffset opens closes depth r := by
  fun_induction closingOffset opens closes depth r with
  | case1 depth => exact closingOffset_of_no_bracket h depth
  | case2 depth c r hopen ih => simp [closingOffset, hopen, ih]
  | case3 c r hopen hclose => simp [closingOffset, hopen, hclose]
  | case4 c r hopen hclose d ih => simp [closingOffset, hopen, hclose, ih]
  | case5 depth c r hopen hclose ih => simp [closingOffset, hopen, hclose, ih]

theorem closingOffset_lt {depth k : ℕ}
    (h : closingOffset opens closes depth r = some k) : k < r.length := by
  fun_induction closingOffset opens closes depth r generalizing k with
  | case1 depth => cases h
  | case3 c r hopen hclose =>
    obtain rfl := Option.some.inj h
    exact Nat.zero_lt_succ _
  | case2 depth c r hopen ih | case4 c r hopen hclose d ih | case5 depth c r hopen hclose ih =>
    obtain ⟨j, hj, rfl⟩ := Option.map_eq_some_iff.1 h
    exact Nat.succ_lt_succ (ih hj)

/-! ## Brackets that are single characters -/

theorem isOnly_singleton : isOnly (String.singleton a) c = true ↔ c = a := by
  rw [isOnly, String.toList_singleton, beq_iff_eq, List.cons.injEq, eq_comm]
  exact and_iff_left rfl

theorem closingOffset_open (depth : ℕ) (r : List Char) :
    closingOffset (isOnly "(") (isOnly ")") depth ('(' :: r) =
      (closingOffset (isOnly "(") (isOnly ")") (depth + 1) r).map (· + 1) :=
  closingOffset_of_opens rfl depth r

theorem closingOffset_close (depth : ℕ) (r : List Char) :
    closingOffset (isOnly "(") (isOnly ")") (depth + 1) (')' :: r) =
      (closingOffset (isOnly "(") (isOnly ")") depth r).map (· + 1) :=
  closingOffset_succ_of_closes (by decide) rfl depth r

theorem closingOffset_of_ne (hopen : c ≠ '(') (hclose : c ≠ ')') (depth : ℕ) (r : List Char) :
    closingOffset (isOnly "(") (isOnly ")") depth (c :: r) =
      (closingOffset (isOnly "(") (isOnly ")") depth r).map (· + 1) :=
  closingOffset_of_other (by simp [isOnly, hopen.symm]) (by simp [isOnly, hclose.symm]) depth r

end GrowthGrammar
