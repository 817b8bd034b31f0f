import GrowthGrammar.Proofs.Bracket.Matching
import GrowthGrammar.Proofs.Word.Brackets
import Mathlib.Data.List.Infix

/-!
# Texts between brackets

A text is balanced if none of its beginnings closes more brackets than it opens and the whole closes
as many (`IsBalancedFrom 0`).  `closingOffset` finds the end of a balanced text
(`isBalancedFrom_take`), and an argument is a balanced text without commas outside of brackets
(`isArgumentFrom_iff`).  Main statement: a module that is read holds a balanced text between its
brackets, and its arguments are the one way to cut this text at commas into such parts
(`splitArguments_unique`).
-/

namespace GrowthGrammar

open GrowthGrammar.Text

variable {depth k : ℕ} {c : Char} {r cs piece name inner : List Char} {kind : GrammarKind}

/-! ## Balanced texts -/

/-- No beginning of the text closes more brackets than it opens and than are open in front of it,
`depth` many, and the whole closes as many. -/
structure IsBalancedFrom (depth : ℕ) (cs : List Char) : Prop where
  beginnings : ∀ p, p <+: cs → p.count ')' ≤ p.count '(' + depth
  total : cs.count ')' = cs.count '(' + depth

theorem isBalancedFrom_nil : IsBalancedFrom depth [] ↔ depth = 0 := by
  constructor
  · intro h
    simpa using h.total.symm
  · rintro rfl
    refine ⟨fun p hp => ?_, rfl⟩
    rw [List.prefix_nil.1 hp]
    rfl

theorem forall_prefix_cons {P : List Char → Prop} :
    (∀ p, p <+: c :: r → P p) ↔ P [] ∧ ∀ p, p <+: r → P (c :: p) := by
  constructor
  · intro h
    exact ⟨h [] List.nil_prefix, fun p hp => h _ (List.cons_prefix_cons.2 ⟨rfl, hp⟩)⟩
  · rintro ⟨hnil, hcons⟩ p hp
    rcases List.prefix_cons_iff.1 hp with rfl | ⟨q, rfl, hq⟩
    · exact hnil
    · exact hcons q hq

theorem isBalancedFrom_cons : IsBalancedFrom depth (c :: r) ↔
    (∀ p, p <+: r → (c :: p).count ')' ≤ (c :: p).count '(' + depth) ∧
      (c :: r).count ')' = (c :: r).count '(' + depth := by
  constructor
  · rintro ⟨hbeginnings, htotal⟩
    exact ⟨(forall_prefix_cons.1 hbeginnings).2, htotal⟩
  · rintro ⟨hbeginnings, htotal⟩
    exact ⟨forall_prefix_cons.2 ⟨Nat.zero_le _, hbeginnings⟩, htotal⟩

theorem isBalancedFrom_iff : IsBalancedFrom depth cs ↔
    (∀ p, p <+: cs → p.count ')' ≤ p.count '(' + depth) ∧ cs.count ')' = cs.count '(' + depth :=
  ⟨fun h => ⟨h.beginnings, h.total⟩, fun h => ⟨h.1, h.2⟩⟩

instance : Decidable (IsBalancedFrom depth cs) :=
  decidable_of_iff
    ((∀ p ∈ cs.inits, p.count ')' ≤ p.count '(' + depth) ∧ cs.count ')' = cs.count '(' + depth)
    (by simp only [List.mem_inits, isBalancedFrom_iff])

theorem isBalancedFrom_open :
    IsBalancedFrom depth ('(' :: r) ↔ IsBalancedFrom (depth + 1) r := by
  rw [isBalancedFrom_cons, isBalancedFrom_iff]
  simp [Nat.add_right_comm, Nat.add_assoc]

theorem isBalancedFrom_close :
    IsBalancedFrom (depth + 1) (')' :: r) ↔ IsBalancedFrom depth r := by
  rw [isBalancedFrom_cons, isBalancedFrom_iff]
  simp [← Nat.add_assoc]

theorem not_isBalancedFrom_close : ¬IsBalancedFrom 0 (')' :: r) := by
  intro h
  have hfirst := h.beginnings [')'] (List.prefix_append [')'] r)
  simp at hfirst

theorem isBalancedFrom_of_ne (hopen : c ≠ '(') (hclose : c ≠ ')') :
    IsBalancedFrom depth (c :: r) ↔ IsBalancedFrom depth r := by
  rw [isBalancedFrom_cons, isBalancedFrom_iff]
  simp [hopen, hclose]

/-- The text in front of the bracket that closes what is open is balanced. -/
theorem isBalancedFrom_take (h : closingOffset (isOnly "(") (isOnly ")") depth r = some k) :
    IsBalancedFrom depth (r.take k) := by
  -- Both count the open brackets from the left, so that they agree for any number of them.
  induction r generalizing depth k with
  | nil => cases h
  | cons c r ih =>
    by_cases hopen : c = '('
    · subst hopen
      rw [closingOffset_open] at h
      obtain ⟨j, hj, rfl⟩ := Option.map_eq_some_iff.1 h
      exact isBalancedFrom_open.2 (ih hj)
    · by_cases hclose : c = ')'
      · subst hclose
        cases depth with
        | zero =>
          obtain rfl := Option.some.inj h
          exact isBalancedFrom_nil.2 rfl
        | succ depth =>
          rw [closingOffset_close] at h
          obtain ⟨j, hj, rfl⟩ := Option.map_eq_some_iff.1 h
          exact isBalancedFrom_close.2 (ih hj)
      · rw [closingOffset_of_ne hopen hclose] at h
        obtain ⟨j, hj, rfl⟩ := Option.map_eq_some_iff.1 h
        exact (isBalancedFrom_of_ne hopen hclose).2 (ih hj)

/-! ## Commas outside of brackets -/

/-- The number of commas that stand outside of brackets, when `depth` are open in front. -/
def outerCommas (depth : ℕ) (cs : List Char) : ℕ :=
  (List.range cs.length).countP fun i =>
    cs[i]? = some ',' ∧ (cs.take i).count ')' = (cs.take i).count '(' + depth

theorem outerCommas_cons : outerCommas depth (c :: r) =
    (List.range r.length).countP (fun i => r[i]? = some ',' ∧
      (c :: r.take i).count ')' = (c :: r.take i).count '(' + depth) +
      if c = ',' ∧ depth = 0 then 1 else 0 := by
  rw [outerCommas, List.length_cons, List.range_succ_eq_map, List.countP_cons, List.countP_map]
  congr 1
  simp [@eq_comm _ 0 depth]

theorem outerCommas_open : outerCommas depth ('(' :: r) = outerCommas (depth + 1) r := by
  rw [outerCommas_cons, outerCommas]
  simp [Nat.add_right_comm, Nat.add_assoc]

theorem outerCommas_close : outerCommas (depth + 1) (')' :: r) = outerCommas depth r := by
  rw [outerCommas_cons, outerCommas]
  simp [← Nat.add_assoc]

theorem outerCommas_of_ne (hopen : c ≠ '(') (hclose : c ≠ ')') :
    outerCommas depth (c :: r) = outerCommas depth r + if c = ',' ∧ depth = 0 then 1 else 0 := by
  rw [outerCommas_cons, outerCommas]
  simp [hopen, hclose]

/-- An argument is a balanced text without commas outside of brackets. -/
theorem isArgumentFrom_iff :
    IsArgumentFrom depth cs ↔ IsBalancedFrom depth cs ∧ outerCommas depth cs = 0 := by
  induction cs generalizing depth with
  | nil =>
    rw [isBalancedFrom_nil]
    constructor
    · rintro ⟨⟩
      exact ⟨rfl, rfl⟩
    · rintro ⟨rfl, -⟩
      exact .nil
  | cons c r ih =>
    by_cases hopen : c = '('
    · subst hopen
      rw [isBalancedFrom_open, outerCommas_open, ← ih]
      constructor
      · intro h
        cases h with
        | opens h => exact h
        | other hopen => exact absurd rfl hopen
      · exact .opens
    · by_cases hclose : c = ')'
      · subst hclose
        cases depth with
        | zero =>
          refine ⟨fun h => ?_, fun h => absurd h.1 not_isBalancedFrom_close⟩
          cases h with
          | other _ hclose => exact absurd rfl hclose
        | succ depth =>
          rw [isBalancedFrom_close, outerCommas_close, ← ih]
          constructor
          · intro h
            cases h with
            | closes h => exact h
            | other _ hclose => exact absurd rfl hclose
          · exact .closes
      · rw [isBalancedFrom_of_ne hopen hclose, outerCommas_of_ne hopen hclose, Nat.add_eq_zero_iff,
          ite_eq_right_iff, ← and_assoc, ← ih]
        constructor
        · intro h
          cases h with
          | opens h => exact absurd rfl hopen
          | closes h => exact absurd rfl hclose
          | other _ _ hcomma h => exact ⟨h, fun ⟨hc, hdepth⟩ => absurd hdepth (hcomma hc)⟩
        · rintro ⟨h, hcomma⟩
          exact .other hopen hclose (fun hc hdepth => absurd (hcomma ⟨hc, hdepth⟩) (by decide)) h

theorem length_consHead {ps : List (List Char)} (h : ps ≠ []) :
    (consHead c ps).length = ps.length := by
  cases ps with
  | nil => exact absurd rfl h
  | cons p ps => rfl

/-- A balanced text is cut at the commas outside of its brackets. -/
theorem length_cutArguments (h : IsBalancedFrom depth cs) :
    (cutArguments depth cs).length = outerCommas depth cs + 1 := by
  fun_induction cutArguments depth cs with
  | case1 => rfl
  | case2 depth r ih =>
    rw [outerCommas_open, length_consHead (cutArguments_ne_nil _ r), ih (isBalancedFrom_open.1 h)]
  | case3 depth r _ ih =>
    cases depth with
    | zero => exact absurd h not_isBalancedFrom_close
    | succ depth =>
      rw [outerCommas_close, length_consHead (cutArguments_ne_nil _ r)]
      exact ih (isBalancedFrom_close.1 h)
  | case4 depth c r hopen hclose hcomma ih =>
    have hdepth : depth = 0 := hcomma.2
    subst hdepth
    rw [outerCommas_of_ne hopen hclose, if_pos hcomma, List.length_cons,
      ih ((isBalancedFrom_of_ne hopen hclose).1 h)]
  | case5 depth c r hopen hclose hcomma ih =>
    rw [outerCommas_of_ne hopen hclose, if_neg hcomma, length_consHead (cutArguments_ne_nil _ r),
      ih ((isBalancedFrom_of_ne hopen hclose).1 h)]

/-! ## Main statement -/

/-- A module with brackets is its name, an opening bracket and the text up to the bracket that
closes it, with blanks around the name and behind the closing bracket. -/
theorem exists_brackets_of_splitHead (h : splitHead kind piece = .ok (name, some inner)) :
    '(' ∉ name ∧ IsBalancedFrom 0 inner ∧ ∃ l m t, isBlankText l = true ∧ isBlankText m = true ∧
      isBlankText t = true ∧ piece = l ++ name ++ m ++ '(' :: (inner ++ ')' :: t) := by
  by_cases hmem : '(' ∈ piece
  · obtain ⟨a, r, rfl, ha⟩ := List.eq_append_cons_of_mem hmem
    rw [splitHead_append kind ha] at h
    cases hk : closingOffset (isOnly "(") (isOnly ")") 0 r with
    | none =>
      rw [hk] at h
      cases h
    | some k =>
      have hbalanced := isBalancedFrom_take hk
      simp only [hk] at h
      split_ifs at h with hrest
      obtain ⟨rfl, hinner⟩ := Prod.mk.inj (Except.ok.inj h)
      obtain rfl := Option.some.inj hinner
      obtain ⟨s, c, t, rfl, rfl, -, hclose⟩ := exists_append_of_closingOffset hk
      obtain rfl : c = ')' := isOnly_singleton.1 hclose
      have hdrop : (s ++ ')' :: t).drop (s.length + 1) = t := by
        rw [List.drop_length_add_append]
        rfl
      rw [hdrop, List.isEmpty_iff, trim_eq_nil_iff] at hrest
      obtain ⟨l, m, hl, hm, htrim⟩ := exists_trim a
      refine ⟨mt mem_of_mem_trim ha, hbalanced, l, m, t, hl, hm, hrest, ?_⟩
      rw [List.take_left, ← htrim]
  · rw [splitHead_of_no_bracket kind hmem] at h
    cases h

/-- What is read of a module with brackets is a balanced text between them, behind its name.  Its
arguments, none if it is blank, are this text cut at commas into balanced texts without commas
outside of brackets, one more than it has such commas; and it is cut so in no other way. -/
theorem splitArguments_unique (h : splitHead kind piece = .ok (name, some inner)) :
    IsBalancedFrom 0 inner ∧
    ('(' ∉ name ∧ ∃ l m t, isBlankText l = true ∧ isBlankText m = true ∧ isBlankText t = true ∧
      piece = l ++ name ++ m ++ '(' :: (inner ++ ')' :: t)) ∧
    (splitArguments (some inner) = [] ↔ isBlankText inner = true) ∧
    (isBlankText inner = false →
      [','].intercalate (splitArguments (some inner)) = inner ∧
      (∀ p ∈ splitArguments (some inner), IsBalancedFrom 0 p ∧ outerCommas 0 p = 0) ∧
      (splitArguments (some inner)).length = outerCommas 0 inner + 1 ∧
      ∀ ps, ps ≠ [] → [','].intercalate ps = inner →
        (∀ p ∈ ps, IsBalancedFrom 0 p ∧ outerCommas 0 p = 0) →
          ps = splitArguments (some inner)) := by
  obtain ⟨hname, hbalanced, hbrackets⟩ := exists_brackets_of_splitHead h
  refine ⟨hbalanced, ⟨hname, hbrackets⟩, ?_, fun hinner => ?_⟩
  · rw [splitArguments]
    split_ifs with hinner
    · exact iff_of_true rfl hinner
    · exact iff_of_false (cutArguments_ne_nil 0 inner) hinner
  · have hcut : splitArguments (some inner) = cutArguments 0 inner := by
      rw [splitArguments, hinner, if_neg Bool.false_ne_true]
    have hpieces : ∀ p ∈ splitArguments (some inner), IsArgumentFrom 0 p := fun p hp =>
      ((infix_of_splitHead h).2 p hp).1
    rw [hcut] at hpieces ⊢
    refine ⟨intercalate_cutArguments 0 inner, fun p hp => isArgumentFrom_iff.1 (hpieces p hp),
      length_cutArguments hbalanced, fun ps hne hjoin hps => ?_⟩
    rw [← hjoin, cutArguments_joined hne fun p hp => isArgumentFrom_iff.2 (hps p hp)]

/-- Arguments with brackets and commas of their own, one of them empty. -/
theorem splitArguments_unique_nested :
    splitHead .axiomParameter " A (max(1,2),, 3) ".toList =
        .ok (['A'], some "max(1,2),, 3".toList) ∧
      isBlankText "max(1,2),, 3".toList = false ∧
      (splitArguments (some "max(1,2),, 3".toList)).length =
        outerCommas 0 "max(1,2),, 3".toList + 1 ∧
      splitArguments (some "max(1,2),, 3".toList) = ["max(1,2)".toList, [], " 3".toList] := by
  have hhead : splitHead .axiomParameter " A (max(1,2),, 3) ".toList =
      .ok (['A'], some "max(1,2),, 3".toList) := by decide
  have hblank : isBlankText "max(1,2),, 3".toList = false := by decide
  obtain ⟨-, -, -, hunique⟩ := splitArguments_unique hhead
  obtain ⟨-, -, hlength, hps⟩ := hunique hblank
  refine ⟨hhead, hblank, hlength, (hps ["max(1,2)".toList, [], " 3".toList] ?_ ?_ ?_).symm⟩
  · decide
  · decide
  · decide

end GrowthGrammar
