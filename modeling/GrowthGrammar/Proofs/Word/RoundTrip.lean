import GrowthGrammar.Proofs.Word.Names

/-!
# Words as axioms

The text of a word that a system reaches is an axiom.  Main statement: it is read as the word again,
zeros without their signs, if all parameters are finite, and else a parameter is refused
(`readAxiom_text_of_reached`).
-/

namespace GrowthGrammar

open GrowthGrammar.Expression GrowthGrammar.Number

/-- Every parameter of every symbol is a finite double. -/
def HasFiniteParameters (symbols : List Symbol) : Prop :=
  ∀ s ∈ symbols, ∀ x ∈ s.parameters, x.isFinite = true

instance : DecidablePred HasFiniteParameters :=
  fun symbols => inferInstanceAs (Decidable (∀ s ∈ symbols, ∀ x ∈ s.parameters, x.isFinite = true))

/-- The symbol with zeros that have no sign. -/
def Symbol.unsigned (s : Symbol) : Symbol :=
  { s with parameters := s.parameters.map fun x => if x == 0 then 0 else x }

/-! ## Symbols -/

theorem Symbol.readBack_of_finite {s : Symbol} (h : ∀ x ∈ s.parameters, x.isFinite = true) :
    s.readBack = .ok s.unsigned := by
  have hread : (s.parameters.map numberChars).mapM readConstant =
      .ok (s.parameters.map fun x => if x == 0 then 0 else x) := by
    rw [List.mapM_map]
    exact mapM_eq_ok_map fun x hx => readConstant_of_finite ((isFinite_iff x).1 (h x hx))
  rw [Symbol.readBack, hread]
  rfl

/-- What is refused in a symbol is a parameter. -/
theorem Symbol.kind_of_readBack {s : Symbol} {e : Error} (h : s.readBack = .error e) :
    ∃ g, e = .grammar g ∧ g.kind = .axiomParameter := by
  obtain ⟨cs, hcs, he⟩ : ∃ cs ∈ s.parameters.map numberChars, readConstant cs = .error e := by
    cases hread : (s.parameters.map numberChars).mapM readConstant with
    | error e' =>
      rw [Symbol.readBack, hread] at h
      obtain rfl := Except.error.inj h
      exact exists_mem_of_mapM_error hread
    | ok ys =>
      rw [Symbol.readBack, hread] at h
      cases h
  obtain ⟨x, -, rfl⟩ := List.mem_map.1 hcs
  by_cases hfinite : magnitude x < infinityMagnitude
  · rw [readConstant_of_finite hfinite] at he
    cases he
  · obtain ⟨g, hg, hkind⟩ := readConstant_of_not_finite hfinite
    rw [hg] at he
    exact ⟨g, (Except.error.inj he).symm, hkind⟩

/-- A parameter that is not finite is refused. -/
theorem Symbol.readBack_of_not_finite {s : Symbol} {x : Float} (hx : x ∈ s.parameters)
    (h : ¬x.isFinite = true) : ∃ e, s.readBack = .error e := by
  obtain ⟨g, hg, -⟩ := readConstant_of_not_finite (mt (isFinite_iff x).2 h)
  obtain ⟨e, he⟩ := exists_error_of_mapM (List.mem_map_of_mem hx) hg
  exact ⟨e, by rw [Symbol.readBack, he]; rfl⟩

/-! ## Words -/

theorem mapM_readBack_of_finite {symbols : List Symbol} (h : HasFiniteParameters symbols) :
    symbols.mapM Symbol.readBack = .ok (symbols.map Symbol.unsigned) :=
  mapM_eq_ok_map fun s hs => Symbol.readBack_of_finite (h s hs)

theorem mapM_readBack_of_not_finite {symbols : List Symbol} (h : ¬HasFiniteParameters symbols) :
    ∃ e, symbols.mapM Symbol.readBack = .error (.grammar e) ∧ e.kind = .axiomParameter := by
  simp only [HasFiniteParameters, not_forall] at h
  obtain ⟨s, hs, x, hx, hfinite⟩ := h
  obtain ⟨e, he⟩ := Symbol.readBack_of_not_finite hx hfinite
  obtain ⟨e', he'⟩ := exists_error_of_mapM hs he
  obtain ⟨t, -, ht⟩ := exists_mem_of_mapM_error he'
  obtain ⟨g, rfl, hkind⟩ := Symbol.kind_of_readBack ht
  exact ⟨g, he', hkind⟩

/-! ## Systems -/

/-- The systems that are read from a text or loaded from a file, and what they are run to. -/
inductive Growth.Reached : Growth → Prop
  | read {globals : Environment} {count : Option ℤ} {cs : List Char} {s : Growth}
      (h : Growth.read globals count cs = .ok s) : Reached s
  | load {read : String → Except Error Bytes} {path : String} {overrides : List (String × Given)}
      {source : Source} (h : Source.load read path overrides = .ok source) : Reached source.growth
  | advance {s : Growth} (h : Reached s) (n : ℤ) : Reached (s.advance n).1

theorem Growth.Reached.named {s : Growth} (h : s.Reached) : s.Named := by
  induction h with
  | read h => exact Growth.named_read h
  | load h => exact Source.named_load h
  | advance _ n ih => exact ih.advance n

/-- The text of a word that a system reaches is read as the word, zeros without their signs, exactly
if all parameters are finite; else a parameter of the axiom is refused. -/
theorem readAxiom_text_of_reached {s : Growth} (h : s.Reached) :
    ((∃ word, readAxiom s.text.toList = .ok word) ↔ HasFiniteParameters s.symbols) ∧
      (HasFiniteParameters s.symbols →
        readAxiom s.text.toList = .ok (s.symbols.map Symbol.unsigned)) ∧
      (¬HasFiniteParameters s.symbols →
        ∃ e, readAxiom s.text.toList = .error (.grammar e) ∧ e.kind = .axiomParameter) := by
  have hword : readAxiom s.text.toList = s.symbols.mapM Symbol.readBack :=
    readAxiom_wordText h.named.symbols
  rw [hword]
  refine ⟨⟨?_, fun hfinite => ⟨_, mapM_readBack_of_finite hfinite⟩⟩, mapM_readBack_of_finite,
    mapM_readBack_of_not_finite⟩
  rintro ⟨word, hok⟩
  by_contra hfinite
  obtain ⟨e, he, -⟩ := mapM_readBack_of_not_finite hfinite
  rw [hok] at he
  cases he

/-- A system with a negative zero, in which the generation after the first one is not finite. -/
def risingDescription : List Char :=
  ("Axiom: A(-2, 0.5); B(-0.0)\nCount: 1\nRules:\n" ++
    "A(x, y): y > 0.4 --> A(x*3, y/2)\nA(x, y) --> A(x, y/1e-309)\n").toList

theorem readAxiom_text_of_reached_rising :
    ∃ s : Growth, Growth.read .empty none risingDescription = .ok s ∧ s.text = "A(-6,0.25); B(0)" ∧
      readAxiom s.text.toList = .ok (s.symbols.map Symbol.unsigned) ∧
      ∃ e, readAxiom (s.advance 1).1.text.toList = .error (.grammar e) ∧
        e.kind = .axiomParameter := by
  have hread : okAnd (fun s => s.text == "A(-6,0.25); B(0)" &&
      decide (HasFiniteParameters s.symbols) &&
      !decide (HasFiniteParameters (s.advance 1).1.symbols))
      (Growth.read .empty none risingDescription) = true := by decide +kernel
  obtain ⟨s, hs, htest⟩ := okAnd_iff.1 hread
  simp only [Bool.and_eq_true, Bool.not_eq_true', beq_iff_eq, decide_eq_true_eq,
    decide_eq_false_iff_not] at htest
  obtain ⟨⟨htext, hfinite⟩, hinfinite⟩ := htest
  have hreached : s.Reached := .read hs
  exact ⟨s, hs, htext, (readAxiom_text_of_reached hreached).2.1 hfinite,
    (readAxiom_text_of_reached (hreached.advance 1)).2.2 hinfinite⟩

end GrowthGrammar
