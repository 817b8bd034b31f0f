import GrowthGrammar.Proofs.Bracket.Offset
import Mathlib.Order.Bounds.Basic
import Mathlib.Order.Nat

/-!
# Pairs of brackets

Two brackets of a text are a pair if the second is the first one up to which, from the other on, as
many brackets are closed as opened (`IsPair`).  `closingOffset` finds such a place whatever number
of brackets is open in front of it (`closingOffset_eq_some_iff`), and what closes more brackets
stands farther behind (`exists_closingOffset_of_lt`).  Main statement: `closingIndex` finds the
other bracket of a pair, pairs lie within or apart from each other, and what is not one character
has no pairs (`closingIndex_pairs`).
-/

namespace GrowthGrammar

variable {a b c : Char} {depth k : ℕ} {r text : List Char} {opens closes : Char → Bool}

/-! ## How many brackets are closed -/

/-- The places of a text up to which it closes one bracket more than the `depth` that are open in
front of it, next to those that it opens itself. -/
def closers (a b : Char) (depth : ℕ) (r : List Char) : Set ℕ :=
  {k | k < r.length ∧ (r.take (k + 1)).count b = (r.take (k + 1)).count a + depth + 1}

theorem isLeast_add_iff {S T : Set ℕ} {n : ℕ} (hlow : ∀ k < n, k ∉ S)
    (hadd : ∀ k, k + n ∈ S ↔ k ∈ T) : IsLeast S k ↔ ∃ j, IsLeast T j ∧ j + n = k := by
  have hge {k : ℕ} (hk : k ∈ S) : n ≤ k := Nat.le_of_not_lt fun h => hlow k h hk
  constructor
  · rintro ⟨hk, hleast⟩
    obtain ⟨j, rfl⟩ := Nat.exists_eq_add_of_le' (hge hk)
    exact ⟨j, ⟨(hadd j).1 hk, fun i hi => Nat.le_of_add_le_add_right (hleast ((hadd i).2 hi))⟩, rfl⟩
  · rintro ⟨j, ⟨hj, hleast⟩, rfl⟩
    refine ⟨(hadd j).2 hj, fun i hi => ?_⟩
    obtain ⟨i, rfl⟩ := Nat.exists_eq_add_of_le' (hge hi)
    exact Nat.add_le_add_right (hleast ((hadd i).1 hi)) n

theorem closingOffset_eq_some_iff (hne : a ≠ b) :
    closingOffset (isOnly (.singleton a)) (isOnly (.singleton b)) depth r = some k ↔
      IsLeast (closers a b depth r) k := by
  induction r generalizing depth k with
  | nil =>
    refine ⟨fun h => (by cases h), fun h => ?_⟩
    exact absurd h.1.1 (Nat.not_lt_zero k)
  | cons c r ih =>
    by_cases hopen : c = a
    · subst hopen
      have hzero : ∀ k < 1, k ∉ closers c b depth (c :: r) := by simp [closers, hne]
      have hsucc (k : ℕ) : k + 1 ∈ closers c b depth (c :: r) ↔ k ∈ closers c b (depth + 1) r := by
        simp [closers, hne]
        omega
      rw [closingOffset_of_opens (isOnly_singleton.2 rfl), Option.map_eq_some_iff,
        isLeast_add_iff hzero hsucc]
      simp only [ih]
    · have hopens : ¬isOnly (.singleton a) c = true := mt isOnly_singleton.1 hopen
      by_cases hclose : c = b
      · subst hclose
        have hcloses : isOnly (.singleton c) c = true := isOnly_singleton.2 rfl
        cases depth with
        | zero =>
          have hzero : 0 ∈ closers a c 0 (c :: r) := by simp [closers, hopen]
          have hleast : IsLeast (closers a c 0 (c :: r)) 0 := ⟨hzero, fun _ _ => Nat.zero_le _⟩
          rw [closingOffset_zero_of_closes hopens hcloses, Option.some.injEq]
          exact ⟨fun h => h ▸ hleast, hleast.unique⟩
        | succ depth =>
          have hzero : ∀ k < 1, k ∉ closers a c (depth + 1) (c :: r) := by
            simp [closers, hopen]
          have hsucc (k : ℕ) :
              k + 1 ∈ closers a c (depth + 1) (c :: r) ↔ k ∈ closers a c depth r := by
            simp [closers, hopen]
            omega
          rw [closingOffset_succ_of_closes hopens hcloses, Option.map_eq_some_iff,
            isLeast_add_iff hzero hsucc]
          simp only [ih]
      · have hcloses : ¬isOnly (.singleton b) c = true := mt isOnly_singleton.1 hclose
        have hzero : ∀ k < 1, k ∉ closers a b depth (c :: r) := by
          simp [closers, hopen, hclose]
        have hsucc (k : ℕ) : k + 1 ∈ closers a b depth (c :: r) ↔ k ∈ closers a b depth r := by
          simp [closers, hopen, hclose]
        rw [closingOffset_of_other hopens hcloses, Option.map_eq_some_iff,
          isLeast_add_iff hzero hsucc]
        simp only [ih]

/-! ## Brackets within brackets -/

/-- Fewer open brackets are closed farther in front. -/
theorem exists_closingOffset_of_lt {d : ℕ} (hd : d < depth)
    (h : closingOffset opens closes depth r = some k) :
    ∃ j < k, closingOffset opens closes d r = some j := by
  fun_induction closingOffset opens closes depth r generalizing d k with
  | case1 => cases h
  | case2 depth c r hopen ih =>
    obtain ⟨k, hk, rfl⟩ := Option.map_eq_some_iff.1 h
    obtain ⟨j, hj, hoffset⟩ := ih (Nat.succ_lt_succ hd) hk
    exact ⟨j + 1, Nat.succ_lt_succ hj, by rw [closingOffset_of_opens hopen, hoffset]; rfl⟩
  | case3 c r hopen hclose => cases hd
  | case4 c r hopen hclose depth ih =>
    obtain ⟨k, hk, rfl⟩ := Option.map_eq_some_iff.1 h
    cases d with
    | zero => exact ⟨0, Nat.succ_pos k, closingOffset_zero_of_closes hopen hclose r⟩
    | succ d =>
      obtain ⟨j, hj, hoffset⟩ := ih (Nat.lt_of_succ_lt_succ hd) hk
      refine ⟨j + 1, Nat.succ_lt_succ hj, ?_⟩
      rw [closingOffset_succ_of_closes hopen hclose, hoffset]
      rfl
  | case5 depth c r hopen hclose ih =>
    obtain ⟨k, hk, rfl⟩ := Option.map_eq_some_iff.1 h
    obtain ⟨j, hj, hoffset⟩ := ih hd hk
    exact ⟨j + 1, Nat.succ_lt_succ hj, by rw [closingOffset_of_other hopen hclose, hoffset]; rfl⟩

/-- In front of the closing bracket some number of brackets is open everywhere. -/
theorem exists_closingOffset_of_append {p : List Char}
    (h : closingOffset opens closes depth (p ++ r) = some k) (hp : p.length ≤ k) :
    ∃ d j, closingOffset opens closes d r = some j ∧ k = p.length + j := by
  induction p generalizing depth k with
  | nil => exact ⟨depth, k, h, (Nat.zero_add k).symm⟩
  | cons c p ih =>
    obtain ⟨d, i, hi, rfl⟩ : ∃ d i, closingOffset opens closes d (p ++ r) = some i ∧ k = i + 1 := by
      rw [List.cons_append] at h
      by_cases hopen : opens c = true
      · rw [closingOffset_of_opens hopen] at h
        obtain ⟨i, hi, rfl⟩ := Option.map_eq_some_iff.1 h
        exact ⟨depth + 1, i, hi, rfl⟩
      · by_cases hclose : closes c = true
        · cases depth with
          | zero =>
            rw [closingOffset_zero_of_closes hopen hclose] at h
            obtain rfl := Option.some.inj h
            cases hp
          | succ depth =>
            rw [closingOffset_succ_of_closes hopen hclose] at h
            obtain ⟨i, hi, rfl⟩ := Option.map_eq_some_iff.1 h
            exact ⟨depth, i, hi, rfl⟩
        · rw [closingOffset_of_other hopen hclose] at h
          obtain ⟨i, hi, rfl⟩ := Option.map_eq_some_iff.1 h
          exact ⟨depth, i, hi, rfl⟩
    obtain ⟨d, j, hj, rfl⟩ := ih hi (Nat.le_of_succ_le_succ hp)
    exact ⟨d, j, hj, by rw [List.length_cons]; omega⟩

/-- A bracket in front of the closing one is closed in front of it. -/
theorem exists_closingOffset_within {p : List Char} (hopen : opens c = true)
    (h : closingOffset opens closes depth (p ++ c :: r) = some k) (hp : p.length ≤ k) :
    ∃ j, closingOffset opens closes 0 r = some j ∧ p.length + 1 + j < k := by
  obtain ⟨d, i, hi, rfl⟩ := exists_closingOffset_of_append h hp
  rw [closingOffset_of_opens hopen] at hi
  obtain ⟨m, hm, rfl⟩ := Option.map_eq_some_iff.1 hi
  obtain ⟨j, hj, hoffset⟩ := exists_closingOffset_of_lt (Nat.succ_pos d) hm
  exact ⟨j, hoffset, by omega⟩

/-- What is found closes and does not open. -/
theorem exists_append_of_closingOffset (h : closingOffset opens closes depth r = some k) :
    ∃ s c t, r = s ++ c :: t ∧ s.length = k ∧ ¬opens c = true ∧ closes c = true := by
  fun_induction closingOffset opens closes depth r generalizing k with
  | case1 => cases h
  | case3 c r hopen hclose =>
    obtain rfl := Option.some.inj h
    exact ⟨[], c, r, rfl, rfl, hopen, hclose⟩
  | case2 depth c r hopen ih | case4 c r hopen hclose depth ih | case5 depth c r hopen hclose ih =>
    obtain ⟨j, hj, rfl⟩ := Option.map_eq_some_iff.1 h
    obtain ⟨s, d, t, rfl, rfl, hd⟩ := ih hj
    exact ⟨c :: s, d, t, rfl, rfl, hd⟩

/-! ## Pairs -/

/-- The places of two brackets that are a pair: up to the closing one, and no nearer one, a text has
as many closing as opening brackets from the opening one on. -/
def IsPair (a b : Char) (text : List Char) (i j : ℕ) : Prop :=
  text[i]? = some a ∧ IsLeast {j | i < j ∧ j < text.length ∧
    (text.extract i (j + 1)).count b = (text.extract i (j + 1)).count a} j

theorem closingIndex_eq_ok_iff {index : ℤ} {opening closing : String} {j : ℕ} :
    closingIndex text index opening closing = .ok j ↔
      ∃ p c r k, text = p ++ c :: r ∧ index = p.length ∧ isOnly opening c = true ∧
        closingOffset (isOnly opening) (isOnly closing) 0 r = some k ∧ j = p.length + 1 + k := by
  constructor
  · intro h
    cases index with
    | negSucc n => cases h
    | ofNat i =>
      rw [closingIndex] at h
      cases hdrop : text.drop i with
      | nil =>
        simp only [hdrop] at h
        cases h
      | cons c r =>
        simp only [hdrop] at h
        split_ifs at h with hopen
        cases hoffset : closingOffset (isOnly opening) (isOnly closing) 0 r with
        | none =>
          rw [hoffset] at h
          cases h
        | some k =>
          rw [hoffset] at h
          obtain rfl := Except.ok.inj h
          have hlength : (text.take i).length = i := by
            have := List.length_drop (i := i) (l := text)
            rw [hdrop, List.length_cons] at this
            exact List.length_take_of_le (by omega)
          refine ⟨text.take i, c, r, k, ?_, ?_, hopen, hoffset, ?_⟩
          · rw [← hdrop, List.take_append_drop]
          · rw [hlength]
            rfl
          · rw [hlength]
  · rintro ⟨p, c, r, k, rfl, rfl, hopen, hoffset, rfl⟩
    simp [closingIndex, hopen, hoffset]

theorem exists_append_of_getElem? {i : ℕ} (h : text[i]? = some c) :
    ∃ p r, text = p ++ c :: r ∧ p.length = i := by
  obtain ⟨hi, rfl⟩ := List.getElem?_eq_some_iff.1 h
  refine ⟨text.take i, text.drop (i + 1), ?_, List.length_take_of_le hi.le⟩
  rw [← List.drop_eq_getElem_cons, List.take_append_drop]

theorem isPair_append (hne : a ≠ b) {p : List Char} {j : ℕ} :
    IsPair a b (p ++ a :: r) p.length j ↔
      ∃ k, IsLeast (closers a b 0 r) k ∧ k + (p.length + 1) = j := by
  have hslice (k : ℕ) : (p ++ a :: r).extract p.length (k + (p.length + 1) + 1) =
      a :: r.take (k + 1) := by
    rw [List.extract_eq_take_drop, List.drop_left, ← List.take_succ_cons]
    congr 1
    omega
  rw [IsPair, List.getElem?_append_right (Nat.le_refl _), Nat.sub_self]
  refine (and_iff_right rfl).trans (isLeast_add_iff ?_ fun k => ?_)
  · rintro k hk ⟨hlt, -⟩
    omega
  · simp only [closers, Set.mem_ofPred_eq, hslice, List.length_append, List.length_cons,
      List.count_cons_of_ne hne, List.count_cons_self]
    omega

theorem closingIndex_singleton_eq_ok_iff (hne : a ≠ b) {index : ℤ} {j : ℕ} :
    closingIndex text index (.singleton a) (.singleton b) = .ok j ↔
      ∃ i : ℕ, index = i ∧ IsPair a b text i j := by
  rw [closingIndex_eq_ok_iff]
  constructor
  · rintro ⟨p, c, r, k, rfl, rfl, hopen, hoffset, rfl⟩
    obtain rfl := isOnly_singleton.1 hopen
    rw [closingOffset_eq_some_iff hne] at hoffset
    exact ⟨p.length, rfl, (isPair_append hne).2 ⟨k, hoffset, Nat.add_comm _ _⟩⟩
  · rintro ⟨i, rfl, hpair⟩
    obtain ⟨p, r, rfl, rfl⟩ := exists_append_of_getElem? hpair.1
    obtain ⟨k, hk, rfl⟩ := (isPair_append hne).1 hpair
    exact ⟨p, a, r, k, rfl, rfl, isOnly_singleton.2 rfl, (closingOffset_eq_some_iff hne).2 hk,
      Nat.add_comm _ _⟩

/-- What stands between the brackets of a pair is closed between them. -/
theorem exists_closingIndex_within {index : ℤ} {closing : String} {j : ℕ}
    (h : closingIndex text index (.singleton a) closing = .ok j) {i : ℕ} (hi : index < i)
    (hij : i < j) (ha : text[i]? = some a) :
    ∃ k, closingIndex text i (.singleton a) closing = .ok k ∧ i < k ∧ k < j := by
  have hopen : isOnly (.singleton a) a = true := isOnly_singleton.2 rfl
  obtain ⟨p, c, r, k, rfl, rfl, -, hoffset, rfl⟩ := closingIndex_eq_ok_iff.1 h
  obtain ⟨m, rfl⟩ : ∃ m, i = p.length + (m + 1) := ⟨i - p.length - 1, by omega⟩
  rw [List.getElem?_append_right (Nat.le_add_right _ _), Nat.add_sub_cancel_left,
    List.getElem?_cons_succ] at ha
  obtain ⟨q, r, rfl, rfl⟩ := exists_append_of_getElem? ha
  obtain ⟨k', hk', hlt⟩ := exists_closingOffset_within hopen hoffset (by omega)
  have hlength : (p ++ c :: q).length = p.length + (q.length + 1) := by simp
  refine ⟨(p ++ c :: q).length + 1 + k', closingIndex_eq_ok_iff.2 ?_, by omega, by omega⟩
  exact ⟨p ++ c :: q, a, r, k', by simp, by rw [hlength], hopen, hk', rfl⟩

/-- Brackets that are found are two different characters. -/
theorem exists_singleton_of_closingIndex {index : ℤ} {opening closing : String} {j : ℕ}
    (h : closingIndex text index opening closing = .ok j) :
    ∃ c d, opening.toList = [c] ∧ closing.toList = [d] ∧ c ≠ d := by
  obtain ⟨p, c, r, k, -, -, hopen, hoffset, -⟩ := closingIndex_eq_ok_iff.1 h
  obtain ⟨-, d, -, -, -, hother, hclose⟩ := exists_append_of_closingOffset hoffset
  refine ⟨c, d, beq_iff_eq.1 hopen, beq_iff_eq.1 hclose, ?_⟩
  rintro rfl
  exact hother hopen

/-! ## Main statement -/

/-- For two different characters the index of the closing bracket is that of the other bracket of a
pair, and an error where there is no pair; an opening bracket between the two has its own pair
there.  What are not two different characters have no pairs. -/
theorem closingIndex_pairs (text : List Char) (index : ℤ) :
    (∀ a b : Char, a ≠ b →
      (∀ j, closingIndex text index (.singleton a) (.singleton b) = .ok j ↔
        ∃ i : ℕ, index = i ∧ IsPair a b text i j) ∧
      ((¬∃ i j : ℕ, index = i ∧ IsPair a b text i j) →
        ∃ e, closingIndex text index (.singleton a) (.singleton b) = .error e) ∧
      ∀ j, closingIndex text index (.singleton a) (.singleton b) = .ok j →
        ∀ i : ℕ, index < i → i < j → text[i]? = some a →
          ∃ k, closingIndex text i (.singleton a) (.singleton b) = .ok k ∧ i < k ∧ k < j) ∧
    ∀ opening closing : String,
      opening = closing ∨ opening.length ≠ 1 ∨ closing.length ≠ 1 →
        ∃ e, closingIndex text index opening closing = .error e := by
  refine ⟨fun a b hne => ⟨fun j => closingIndex_singleton_eq_ok_iff hne, fun hnone => ?_,
    fun j hj i hi hij ha => exists_closingIndex_within hj hi hij ha⟩, fun opening closing h => ?_⟩
  · cases hindex : closingIndex text index (.singleton a) (.singleton b) with
    | error e => exact ⟨e, rfl⟩
    | ok j =>
      obtain ⟨i, hi, hpair⟩ := (closingIndex_singleton_eq_ok_iff hne).1 hindex
      exact absurd ⟨i, j, hi, hpair⟩ hnone
  · cases hindex : closingIndex text index opening closing with
    | error e => exact ⟨e, rfl⟩
    | ok j =>
      obtain ⟨c, d, hopening, hclosing, hcd⟩ := exists_singleton_of_closingIndex hindex
      rcases h with rfl | h | h
      · rw [hopening] at hclosing
        exact absurd (List.cons.inj hclosing).1 hcd
      · rw [← String.length_toList, hopening] at h
        exact absurd rfl h
      · rw [← String.length_toList, hclosing] at h
        exact absurd rfl h

/-- Brackets within brackets, and brackets of two characters. -/
theorem closingIndex_pairs_nested :
    IsPair '(' ')' "f(a(b)c)".toList 1 7 ∧
      (∃ k, closingIndex "f(a(b)c)".toList 3 "(" ")" = .ok k ∧ 3 < k ∧ k < 7) ∧
      (∃ e, closingIndex "f(a(b)c".toList 1 "(" ")" = .error e) ∧
      ∃ e, closingIndex "f(a(b)c)".toList 1 "(" "))" = .error e := by
  have hfound : closingIndex "f(a(b)c)".toList 1 "(" ")" = .ok 7 := rfl
  have hlost (j : ℕ) : closingIndex "f(a(b)c".toList 1 "(" ")" ≠ .ok j := fun h => by cases h
  obtain ⟨⟨hpair, -, hwithin⟩, hnone⟩ :=
    (closingIndex_pairs "f(a(b)c)".toList 1).imp_left fun h => h '(' ')' (by decide)
  obtain ⟨hpair', hunpaired, -⟩ := (closingIndex_pairs "f(a(b)c".toList 1).1 '(' ')' (by decide)
  refine ⟨?_, hwithin 7 hfound 3 (by decide) (by decide) rfl, hunpaired ?_,
    hnone "(" "))" (Or.inr (Or.inr (by decide)))⟩
  · obtain ⟨i, hi, h⟩ := (hpair 7).1 hfound
    obtain rfl : 1 = i := Int.ofNat.inj hi
    exact h
  · rintro ⟨i, j, hi, h⟩
    exact hlost j ((hpair' j).2 ⟨i, hi, h⟩)

end GrowthGrammar
