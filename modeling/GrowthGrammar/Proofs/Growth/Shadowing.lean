import GrowthGrammar.Proofs.Growth.FirstMatch

/-!
# Shadowed rules

A rule without a condition leaves no symbol that it is for to the rules behind it, so one of them
that is for no other symbols never answers: it is shadowed (`Rule.shadows_iff`).  Main statement:
a run takes the same course without a shadowed rule, wherever it stands
(`sameCourse_dropRule_of_shadows`).
-/

namespace GrowthGrammar

variable {r d : Rule} {x : Symbol} {rules : List Rule} {i j : ℕ}

/-! ## Rules in the shadow of another -/

/-- The rule has no condition and the name of the other one; it is for any number of parameters, or
both are for one and the same number. -/
structure Rule.Shadows (r d : Rule) : Prop where
  condition : r.condition = none
  name : r.name = d.name
  parameters : r.parameters = [] ∨ d.parameters ≠ [] ∧ r.parameters.length = d.parameters.length

namespace Rule

theorem matches_of_condition_eq_none (h : r.condition = none) (hfor : r.IsFor x) : r.Matches x :=
  ⟨hfor, fun c hc => by rw [h] at hc; cases hc⟩

theorem not_passesOver_of_matches (h : r.Matches x) : ¬r.PassesOver x := by
  intro hpass
  obtain ⟨c, hc, hfalse⟩ := hpass h.1
  have htrue := h.2 c hc
  rw [hfalse] at htrue
  cases htrue

/-- A rule shadows another exactly if it is for all symbols that the other is for and asks nothing
of them. -/
theorem shadows_iff : r.Shadows d ↔ r.condition = none ∧ ∀ x, d.IsFor x → r.IsFor x := by
  constructor
  · rintro ⟨hcondition, hname, hparameters⟩
    refine ⟨hcondition, fun x hfor => ⟨hname.trans hfor.1, ?_⟩⟩
    rcases hparameters with hnone | ⟨hsome, hlength⟩
    · exact Or.inl hnone
    · exact Or.inr (hlength.trans (hfor.2.resolve_left hsome))
  · rintro ⟨hcondition, hall⟩
    -- Symbols with as many parameters as the other rule has names, and with one more.
    have hexact := hall ⟨d.name, List.replicate d.parameters.length 0⟩
      ⟨rfl, Or.inr List.length_replicate.symm⟩
    refine ⟨hcondition, hexact.1, ?_⟩
    by_cases hnone : d.parameters = []
    · have hmore := hall ⟨d.name, List.replicate (r.parameters.length + 1) 0⟩ ⟨rfl, Or.inl hnone⟩
      refine Or.inl (hmore.2.resolve_right fun hlength => ?_)
      rw [List.length_replicate] at hlength
      omega
    · refine hexact.2.imp_right fun hlength => ⟨hnone, ?_⟩
      rwa [List.length_replicate] at hlength

end Rule

/-! ## One symbol -/

/-- A rule that passes over a symbol may be left out. -/
theorem blockOf_eraseIdx_of_passesOver (hd : rules[j]? = some d) (hpass : d.PassesOver x) :
    blockOf x (rules.eraseIdx j) = blockOf x rules := by
  induction rules generalizing j with
  | nil => cases hd
  | cons q rules ih =>
    cases j with
    | zero =>
      obtain rfl := Option.some.inj hd
      rw [List.eraseIdx_cons_zero, blockOf, Rule.rewrite_of_passesOver hpass]
    | succ j => rw [List.eraseIdx_cons_succ, blockOf, blockOf, ih hd]

/-- Any rule behind one that does not pass over a symbol may be left out. -/
theorem blockOf_eraseIdx_of_lt (hij : i < j) (hr : rules[i]? = some r) (hpass : ¬r.PassesOver x) :
    blockOf x (rules.eraseIdx j) = blockOf x rules := by
  induction rules generalizing i j with
  | nil => cases hr
  | cons q rules ih =>
    obtain ⟨j, rfl⟩ := Nat.exists_eq_succ_of_ne_zero (Nat.ne_zero_of_lt hij)
    rw [List.eraseIdx_cons_succ]
    cases i with
    | zero =>
      obtain rfl := Option.some.inj hr
      exact blockOf_of_not_passesOver (List.forall_mem_nil _) hpass _ _
    | succ i => rw [blockOf, blockOf, ih (Nat.lt_of_succ_lt_succ hij) hr]

theorem blockOf_eraseIdx_of_shadows (hij : i < j) (hr : rules[i]? = some r)
    (hd : rules[j]? = some d) (h : r.Shadows d) (x : Symbol) :
    blockOf x (rules.eraseIdx j) = blockOf x rules := by
  obtain ⟨hcondition, hall⟩ := Rule.shadows_iff.1 h
  by_cases hfor : d.IsFor x
  · have hmatch := Rule.matches_of_condition_eq_none hcondition (hall x hfor)
    exact blockOf_eraseIdx_of_lt hij hr (Rule.not_passesOver_of_matches hmatch)
  · exact blockOf_eraseIdx_of_passesOver hd fun h => absurd h hfor

/-! ## Main statement -/

namespace Growth

variable {s : Growth}

theorem dropRule_natCast (j : ℕ) (s : Growth) :
    s.dropRule j = s.withRules (s.rules.eraseIdx j) := by
  have hplace : placeOf s.rules.length j = j := if_neg (Int.not_lt.2 (Int.natCast_nonneg j))
  rw [dropRule, hplace]
  exact if_neg (Int.not_lt.2 (Int.natCast_nonneg j))

/-- Without a rule that is shadowed by one in front of it a system takes the same course, and what
it comes to is the same with the rule dropped before or behind the run. -/
theorem sameCourse_dropRule_of_shadows (hij : i < j) (hr : s.rules[i]? = some r)
    (hd : s.rules[j]? = some d) (h : r.Shadows d) (n : ℕ) :
    (trace n s).SameCourse (trace n (s.dropRule j)) ∧
      advance n (s.dropRule j) = ((advance n s).1.dropRule j, (advance n s).2) := by
  have hblock (x : Symbol) : blockOf x s.rules = blockOf x (s.rules.eraseIdx j) :=
    (blockOf_eraseIdx_of_shadows hij hr hd h x).symm
  have hrules : (advance n s).1.rules = s.rules := by
    rw [advance_natCast, rules_advanceBy]
  rw [dropRule_natCast, dropRule_natCast, hrules]
  exact ⟨sameCourse_withRules hblock n, advance_withRules hblock n⟩

/-- A rule for the symbols that `fading` is for. -/
def branching : Rule :=
  ⟨"A", ["y"], none, [⟨"A", [⟨"y", .name "y"⟩]⟩, ⟨"A", [⟨"y", .name "y"⟩]⟩], .empty⟩

theorem sameCourse_dropRule_of_shadows_branching :
    fading.Shadows branching ∧
      (trace 5 ⟨[⟨"A", [1]⟩], [restarting, fading, branching], 0⟩).SameCourse
        (trace 5 (dropRule (2 : ℕ) ⟨[⟨"A", [1]⟩], [restarting, fading, branching], 0⟩)) ∧
      (trace 5 ⟨[⟨"A", [1]⟩], [restarting, fading, branching], 0⟩).words.length = 1 ∧
      (trace 5 ⟨[⟨"A", [1]⟩], [restarting, fading, branching], 0⟩).failure ≠ none := by
  have hshadows : fading.Shadows branching :=
    ⟨rfl, rfl, Or.inr ⟨List.cons_ne_nil _ _, rfl⟩⟩
  obtain ⟨hcourse, -⟩ := sameCourse_dropRule_of_shadows (i := 1) (j := 2)
    (s := ⟨[⟨"A", [1]⟩], [restarting, fading, branching], 0⟩) (by decide) rfl rfl hshadows 5
  exact ⟨hshadows, hcourse, by decide +kernel, by decide +kernel⟩

end Growth

end GrowthGrammar
