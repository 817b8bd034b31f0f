import GrowthGrammar.Proofs.Word.Head

/-!
# Arguments with brackets

The brackets of a module hold arguments that may have brackets of their own, `IsArgumentFrom 0`.
What is read of a module are such arguments (`infix_of_splitHead`), and arguments of this kind are
read back from a module that holds them between commas (`splitHead_arguments`).
-/

namespace GrowthGrammar

open GrowthGrammar.Text

/-- The text closes its own brackets and those that are open in front of it, `depth` many, and it has
no comma outside of brackets. -/
inductive IsArgumentFrom : ℕ → List Char → Prop
  | nil : IsArgumentFrom 0 []
  | opens {depth : ℕ} {r : List Char} (h : IsArgumentFrom (depth + 1) r) :
      IsArgumentFrom depth ('(' :: r)
  | closes {depth : ℕ} {r : List Char} (h : IsArgumentFrom depth r) :
      IsArgumentFrom (depth + 1) (')' :: r)
  | other {depth : ℕ} {c : Char} {r : List Char} (hopen : c ≠ '(') (hclose : c ≠ ')')
      (hcomma : c = ',' → depth ≠ 0) (h : IsArgumentFrom depth r) : IsArgumentFrom depth (c :: r)

variable {depth : ℕ} {cs l t : List Char}

/-! ## Blanks around arguments -/

theorem isArgumentFrom_cons_blank {c : Char} (hc : isBlank c = true) :
    IsArgumentFrom depth (c :: cs) ↔ IsArgumentFrom depth cs := by
  have hopen : c ≠ '(' := by
    rintro rfl
    cases hc
  have hclose : c ≠ ')' := by
    rintro rfl
    cases hc
  have hcomma : c ≠ ',' := by
    rintro rfl
    cases hc
  constructor
  · intro h
    cases h with
    | opens h => exact absurd rfl hopen
    | closes h => exact absurd rfl hclose
    | other _ _ _ h => exact h
  · exact .other hopen hclose fun h => absurd h hcomma

theorem isArgumentFrom_blank_append (hl : isBlankText l = true) (cs : List Char) :
    IsArgumentFrom depth (l ++ cs) ↔ IsArgumentFrom depth cs := by
  induction l with
  | nil => rfl
  | cons c l ih =>
    obtain ⟨hc, hl⟩ := List.forall_mem_cons.1 (isBlankText_iff.1 hl)
    rw [List.cons_append, isArgumentFrom_cons_blank hc, ih (isBlankText_iff.2 hl)]

theorem isArgumentFrom_blank (ht : isBlankText t = true) :
    IsArgumentFrom depth t ↔ IsArgumentFrom depth [] := by
  rw [← isArgumentFrom_blank_append ht [], List.append_nil]

theorem isArgumentFrom_append_blank (ht : isBlankText t = true) (cs : List Char) :
    IsArgumentFrom depth (cs ++ t) ↔ IsArgumentFrom depth cs := by
  induction cs generalizing depth with
  | nil => exact isArgumentFrom_blank ht
  | cons c cs ih =>
    constructor
    · intro h
      cases h with
      | opens h => exact .opens (ih.1 h)
      | closes h => exact .closes (ih.1 h)
      | other hopen hclose hcomma h => exact .other hopen hclose hcomma (ih.1 h)
    · intro h
      cases h with
      | opens h => exact .opens (ih.2 h)
      | closes h => exact .closes (ih.2 h)
      | other hopen hclose hcomma h => exact .other hopen hclose hcomma (ih.2 h)

theorem isArgumentFrom_blanks (hl : isBlankText l = true) (ht : isBlankText t = true)
    (cs : List Char) : IsArgumentFrom depth (l ++ cs ++ t) ↔ IsArgumentFrom depth cs := by
  rw [isArgumentFrom_append_blank ht, isArgumentFrom_blank_append hl]

theorem isArgumentFrom_trim (h : IsArgumentFrom depth cs) : IsArgumentFrom depth (trim cs) := by
  obtain ⟨l, t, hl, ht, hcs⟩ := exists_trim cs
  rw [hcs] at h
  exact (isArgumentFrom_blanks hl ht _).1 h

theorem isArgumentFrom_plain {cs : List Char} (h : ∀ c ∈ cs, c ∉ ['(', ')', ',']) :
    IsArgumentFrom 0 cs := by
  induction cs with
  | nil => exact .nil
  | cons c r ih =>
    obtain ⟨hc, hr⟩ := List.forall_mem_cons.1 h
    simp only [List.mem_cons, List.not_mem_nil, or_false, not_or] at hc
    obtain ⟨hopen, hclose, hcomma⟩ := hc
    exact .other hopen hclose (fun h => absurd h hcomma) (ih hr)

/-! ## Cutting -/

theorem cutArguments_argument (h : IsArgumentFrom depth cs) : cutArguments depth cs = [cs] := by
  induction h with
  | nil => rfl
  | opens h ih => simp [cutArguments, ih, consHead]
  | closes h ih => simp [cutArguments, ih, consHead]
  | other hopen hclose hcomma h ih => simp_all [cutArguments, consHead]

theorem cutArguments_argument_append (h : IsArgumentFrom depth cs) (r : List Char) :
    cutArguments depth (cs ++ ',' :: r) = cs :: cutArguments 0 r := by
  induction h with
  | nil => simp [cutArguments]
  | opens h ih => simp [cutArguments, ih, consHead]
  | closes h ih => simp [cutArguments, ih, consHead]
  | other hopen hclose hcomma h ih => simp_all [cutArguments, consHead]

/-- Arguments between commas are cut at the commas. -/
theorem cutArguments_joined {ps : List (List Char)} (hne : ps ≠ [])
    (h : ∀ p ∈ ps, IsArgumentFrom 0 p) : cutArguments 0 ([','].intercalate ps) = ps := by
  induction ps with
  | nil => exact absurd rfl hne
  | cons p qs ih =>
    have hp := h p List.mem_cons_self
    cases qs with
    | nil => rw [List.intercalate_singleton, cutArguments_argument hp]
    | cons q qs =>
      have hqs := ih (List.cons_ne_nil _ _) fun r hr => h r (List.mem_cons_of_mem _ hr)
      rw [List.intercalate_cons_cons, List.append_assoc, List.singleton_append,
        cutArguments_argument_append hp, hqs]

theorem cutArguments_ne_nil (depth : ℕ) (cs : List Char) : cutArguments depth cs ≠ [] := by
  have hcons (c : Char) (ps : List (List Char)) : consHead c ps ≠ [] := by
    cases ps <;> exact List.cons_ne_nil _ _
  cases cs with
  | nil => exact List.cons_ne_nil _ _
  | cons c r =>
    rw [cutArguments]
    split_ifs <;> first | exact hcons _ _ | exact List.cons_ne_nil _ _

/-- The arguments between commas are the text. -/
theorem intercalate_cutArguments (depth : ℕ) (cs : List Char) :
    [','].intercalate (cutArguments depth cs) = cs := by
  fun_induction cutArguments depth cs with
  | case1 => rfl
  | case2 depth r ih => rw [intercalate_consHead, ih]
  | case3 depth r _ ih => rw [intercalate_consHead, ih]
  | case4 depth c r _ _ hcomma ih =>
    rw [intercalate_nil_cons _ (cutArguments_ne_nil 0 r), ih, hcomma.1]
    rfl
  | case5 depth c r _ _ _ ih => rw [intercalate_consHead, ih]

/-! ## Closing brackets -/

/-- An argument closes what is open in front of it. -/
theorem closingOffset_argument_append (h : IsArgumentFrom depth cs) (r : List Char) :
    closingOffset (isOnly "(") (isOnly ")") depth (cs ++ r) =
      (closingOffset (isOnly "(") (isOnly ")") 0 r).map (· + cs.length) := by
  induction h with
  | nil => simp
  | opens h ih =>
    rw [List.cons_append, closingOffset_open, ih, Option.map_map]
    rfl
  | closes h ih =>
    rw [List.cons_append, closingOffset_close, ih, Option.map_map]
    rfl
  | other hopen hclose hcomma h ih =>
    rw [List.cons_append, closingOffset_of_ne hopen hclose, ih, Option.map_map]
    rfl

theorem closingOffset_joined {ps : List (List Char)} (h : ∀ p ∈ ps, IsArgumentFrom 0 p)
    (t : List Char) : closingOffset (isOnly "(") (isOnly ")") 0 ([','].intercalate ps ++ ')' :: t) =
      some ([','].intercalate ps).length := by
  induction ps with
  | nil => rfl
  | cons p qs ih =>
    have hp := h p List.mem_cons_self
    have hqs := ih fun q hq => h q (List.mem_cons_of_mem _ hq)
    cases qs with
    | nil =>
      rw [List.intercalate_singleton, closingOffset_argument_append hp]
      exact congrArg some (Nat.zero_add _)
    | cons q qs =>
      rw [List.intercalate_cons_cons, List.append_assoc, List.append_assoc,
        closingOffset_argument_append hp, List.singleton_append,
        closingOffset_of_ne (by decide) (by decide), hqs]
      simp only [Option.map_some, List.length_append, List.length_singleton]
      congr 1
      omega

/-- Behind open brackets, the text in front of the one that closes them all is cut into arguments. -/
theorem isArgument_of_closingOffset {k : ℕ} {r : List Char}
    (h : closingOffset (isOnly "(") (isOnly ")") depth r = some k) :
    ∃ p ps, cutArguments depth (r.take k) = p :: ps ∧ IsArgumentFrom depth p ∧
      ∀ q ∈ ps, IsArgumentFrom 0 q := by
  induction r generalizing depth k with
  | nil => cases h
  | cons c r ih =>
    by_cases hopen : c = '('
    · subst hopen
      rw [closingOffset_open] at h
      obtain ⟨j, hj, rfl⟩ := Option.map_eq_some_iff.1 h
      obtain ⟨p, ps, hcut, hp, hps⟩ := ih hj
      refine ⟨'(' :: p, ps, ?_, .opens hp, hps⟩
      rw [List.take_succ_cons, cutArguments, if_pos rfl, hcut, consHead]
    · by_cases hclose : c = ')'
      · subst hclose
        cases depth with
        | zero =>
          obtain rfl := Option.some.inj h
          exact ⟨[], [], rfl, .nil, fun q hq => absurd hq List.not_mem_nil⟩
        | succ depth =>
          rw [closingOffset_close] at h
          obtain ⟨j, hj, rfl⟩ := Option.map_eq_some_iff.1 h
          obtain ⟨p, ps, hcut, hp, hps⟩ := ih hj
          refine ⟨')' :: p, ps, ?_, .closes hp, hps⟩
          rw [List.take_succ_cons, cutArguments, if_neg hopen, if_pos rfl, Nat.add_sub_cancel, hcut,
            consHead]
      · rw [closingOffset_of_ne hopen hclose] at h
        obtain ⟨j, hj, rfl⟩ := Option.map_eq_some_iff.1 h
        obtain ⟨p, ps, hcut, hp, hps⟩ := ih hj
        rw [List.take_succ_cons, cutArguments, if_neg hopen, if_neg hclose]
        by_cases hcomma : c = ',' ∧ depth = 0
        · obtain ⟨rfl, rfl⟩ := hcomma
          refine ⟨[], p :: ps, ?_, .nil, List.forall_mem_cons.2 ⟨hp, hps⟩⟩
          rw [if_pos ⟨rfl, rfl⟩, hcut]
        · refine ⟨c :: p, ps, ?_, .other hopen hclose (not_and.1 hcomma) hp, hps⟩
          rw [if_neg hcomma, hcut, consHead]

/-! ## Modules -/

/-- The arguments of a module that is read are arguments, and stand in its text; so does its name. -/
theorem infix_of_splitHead {kind : GrammarKind} {piece name : List Char}
    {inner : Option (List Char)} (h : splitHead kind piece = .ok (name, inner)) :
    name <:+: piece ∧ ∀ q ∈ splitArguments inner, IsArgumentFrom 0 q ∧ q <:+: piece := by
  by_cases hmem : '(' ∈ piece
  · obtain ⟨a, r, rfl, ha⟩ := List.eq_append_cons_of_mem hmem
    rw [splitHead_append kind ha] at h
    cases hk : closingOffset (isOnly "(") (isOnly ")") 0 r with
    | none =>
      rw [hk] at h
      cases h
    | some k =>
      simp only [hk] at h
      split_ifs at h
      obtain ⟨rfl, rfl⟩ := Prod.mk.inj (Except.ok.inj h)
      have hinner : r.take k <:+: a ++ '(' :: r :=
        (List.take_prefix k r).isInfix.trans
          ((List.suffix_cons '(' r).trans (List.suffix_append a _)).isInfix
      refine ⟨(infix_trim a).trans (List.prefix_append a _).isInfix, fun q hq => ?_⟩
      rw [splitArguments] at hq
      split_ifs at hq
      · cases hq
      · obtain ⟨p, ps, hcut, hp, hps⟩ := isArgument_of_closingOffset hk
        have hstands : q <:+: r.take k := by
          rw [← intercalate_cutArguments 0 (r.take k)]
          exact infix_intercalate hq
        refine ⟨?_, hstands.trans hinner⟩
        rw [hcut] at hq
        rcases List.mem_cons.1 hq with rfl | hq
        · exact hp
        · exact hps q hq
  · rw [splitHead_of_no_bracket kind hmem] at h
    obtain ⟨rfl, rfl⟩ := Prod.mk.inj (Except.ok.inj h)
    exact ⟨infix_trim piece, fun q hq => absurd hq List.not_mem_nil⟩

/-- A module with brackets is parted into its name and the arguments between its brackets. -/
theorem splitHead_arguments (kind : GrammarKind) {name : List Char} (hname : '(' ∉ name)
    {ps : List (List Char)} (h : ∀ p ∈ ps, IsArgumentFrom 0 p) (ht : isBlankText t = true) :
    splitHead kind (name ++ '(' :: ([','].intercalate ps ++ ')' :: t)) =
      .ok (trim name, some ([','].intercalate ps)) := by
  have hrest : ([','].intercalate ps ++ ')' :: t).drop (([','].intercalate ps).length + 1) = t := by
    rw [List.drop_length_add_append]
    rfl
  rw [splitHead_append kind hname, closingOffset_joined h]
  dsimp only
  rw [hrest, trim_eq_nil_iff.2 ht, List.take_left]
  rfl

theorem splitArguments_joined {ps : List (List Char)} (hne : ps ≠ [])
    (h : ∀ p ∈ ps, IsArgumentFrom 0 p ∧ isBlankText p = false) :
    splitArguments (some ([','].intercalate ps)) = ps := by
  have hblank : isBlankText ([','].intercalate ps) = false := by
    obtain ⟨p, qs, rfl⟩ := List.exists_cons_of_ne_nil hne
    obtain ⟨-, hp⟩ := h p List.mem_cons_self
    refine Bool.eq_false_iff.2 fun hjoined => ?_
    have hall : isBlankText p = true := isBlankText_iff.2 fun c hc =>
      isBlankText_iff.1 hjoined c ((infix_intercalate List.mem_cons_self).subset hc)
    rw [hall] at hp
    cases hp
  rw [splitArguments, hblank, if_neg Bool.false_ne_true]
  exact cutArguments_joined hne fun p hp => (h p hp).1

end GrowthGrammar
