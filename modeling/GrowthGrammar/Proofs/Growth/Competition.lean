import GrowthGrammar.Proofs.Growth.Locality

/-!
# Rules that compete for a symbol

A rule that is not for symbols of some name and number of parameters leaves such a symbol to the
others (`Rule.rewrite_of_not_fits`), so the block of a symbol is that of its `competitors`
(`blockOf_competitors`).  A run depends on nothing else of its rules than on these blocks
(`trace_withRules`).  Main statement: only the order among competitors matters
(`sameCourse_of_competitors`).
-/

namespace GrowthGrammar

variable {R R₁ R₂ : List Rule}

/-! ## Rules for a symbol -/

/-- The rules for symbols of a name and a number of parameters, in their order. -/
def competitors (rules : List Rule) (name : String) (arity : ℕ) : List Rule :=
  rules.filter fun r => r.name = name ∧ (r.parameters = [] ∨ r.parameters.length = arity)

theorem Rule.fits_iff {r : Rule} {name : String} {arity : ℕ} :
    r.fits name arity = true ↔
      r.name = name ∧ (r.parameters = [] ∨ r.parameters.length = arity) := by
  rw [Rule.fits, Bool.and_eq_true, Bool.or_eq_true, beq_iff_eq, beq_iff_eq, List.isEmpty_iff,
    eq_comm]

theorem Rule.rewrite_of_not_fits {r : Rule} {x : Symbol}
    (h : ¬r.fits x.name x.parameters.length = true) : r.rewrite x = .ok none := by
  rw [Rule.rewrite, Rule.bind, if_neg h]

theorem blockOf_competitors (x : Symbol) (rules : List Rule) :
    blockOf x (competitors rules x.name x.parameters.length) = blockOf x rules := by
  induction rules with
  | nil => rfl
  | cons r rules ih =>
    rw [competitors, List.filter_cons, ← competitors]
    split_ifs with h
    · rw [blockOf, blockOf, ih]
    · rw [decide_eq_true_iff, ← Rule.fits_iff] at h
      rw [ih, blockOf, Rule.rewrite_of_not_fits h]

/-! ## Runs under other rules -/

theorem rewriteWord_congr (h : ∀ x, blockOf x R₁ = blockOf x R₂) (w : List Symbol) :
    rewriteWord R₁ w = rewriteWord R₂ w := by
  rw [rewriteWord, rewriteWord, funext h]

/-- Two runs take the same course: they complete the same words, end with the same error, and leave
the same word in the same generation. -/
structure Run.SameCourse (r r' : Run) : Prop where
  words : r.words = r'.words
  failure : r.failure = r'.failure
  symbols : r.final.symbols = r'.final.symbols
  generation : r.final.generation = r'.final.generation

namespace Growth

/-- The system with other rules. -/
def withRules (R : List Rule) (s : Growth) : Growth :=
  { s with rules := R }

theorem step_withRules {s : Growth} (h : ∀ x, blockOf x s.rules = blockOf x R) :
    (s.withRules R).step = s.step.map (withRules R) := by
  rw [step_eq, step_eq, withRules, rewriteWord_congr h]
  cases rewriteWord R s.symbols <;> rfl

/-- A run depends on its rules by the blocks of symbols. -/
theorem trace_withRules {s : Growth} (h : ∀ x, blockOf x s.rules = blockOf x R) (n : ℕ) :
    trace n (s.withRules R) =
      ⟨(trace n s).words, (trace n s).final.withRules R, (trace n s).failure⟩ := by
  induction n generalizing s with
  | zero => rfl
  | succ n ih =>
    rw [trace, trace, step_withRules h]
    cases hs : s.step with
    | error e => rfl
    | ok t =>
      have ht := ih (s := t) (by rwa [rules_step hs])
      simp only [Except.map, ht]
      rfl

theorem sameCourse_withRules {s : Growth} (h : ∀ x, blockOf x s.rules = blockOf x R) (n : ℕ) :
    (trace n s).SameCourse (trace n (s.withRules R)) := by
  rw [trace_withRules h]
  exact ⟨rfl, rfl, rfl, rfl⟩

theorem advance_withRules {s : Growth} (h : ∀ x, blockOf x s.rules = blockOf x R) (n : ℕ) :
    advance n (s.withRules R) = ((advance n s).1.withRules R, (advance n s).2) := by
  rw [advance_natCast, advance_natCast, ← trace_eq_advanceBy, ← trace_eq_advanceBy,
    trace_withRules h]

/-! ## Main statement -/

/-- Rules that are put in another order take the same course, as long as those for symbols of one
name and number of parameters stay in theirs. -/
theorem sameCourse_of_competitors
    (h : ∀ name arity, competitors R₁ name arity = competitors R₂ name arity) (X : List Symbol)
    (g n : ℕ) :
    (trace n ⟨X, R₁, g⟩).SameCourse (trace n ⟨X, R₂, g⟩) ∧
      advance n ⟨X, R₂, g⟩ =
        ((advance n ⟨X, R₁, g⟩).1.withRules R₂, (advance n ⟨X, R₁, g⟩).2) := by
  have hblock (x : Symbol) : blockOf x R₁ = blockOf x R₂ := by
    rw [← blockOf_competitors x R₁, h, blockOf_competitors]
  exact ⟨sameCourse_withRules (s := ⟨X, R₁, g⟩) hblock n,
    advance_withRules (s := ⟨X, R₁, g⟩) hblock n⟩

/-- A rule under which `B` of any number of parameters starts to count down from two. -/
def restarting : Rule :=
  ⟨"B", [], none, [⟨"A", [⟨"2", .literal 2⟩]⟩], .empty⟩

theorem sameCourse_of_competitors_fading :
    (trace 5 ⟨[⟨"A", [1]⟩], [fading, restarting], 0⟩).SameCourse
        (trace 5 ⟨[⟨"A", [1]⟩], [restarting, fading], 0⟩) ∧
      (trace 5 ⟨[⟨"A", [1]⟩], [fading, restarting], 0⟩).words.length = 1 ∧
      (trace 5 ⟨[⟨"A", [1]⟩], [fading, restarting], 0⟩).failure ≠ none := by
  have hcompetitors (name : String) (arity : ℕ) :
      competitors [fading, restarting] name arity = competitors [restarting, fading] name arity := by
    by_cases hname : name = "A"
    · have hother : restarting.name ≠ name := by
        rw [hname]
        decide
      simp [competitors, List.filter_cons, hother]
    · have hother : fading.name ≠ name := Ne.symm hname
      simp [competitors, List.filter_cons, hother]
  obtain ⟨hcourse, -⟩ := sameCourse_of_competitors hcompetitors [⟨"A", [1]⟩] 0 5
  exact ⟨hcourse, by decide +kernel, by decide +kernel⟩

end Growth

end GrowthGrammar
