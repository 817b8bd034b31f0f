import GrowthGrammar.Description
import GrowthGrammar.Proofs.Expression.Stray

/-!
# Stray errors of axioms, rules and descriptions

The readers of texts add no stray errors to those of the expressions in them: each predicate says at
which expression a text fails first (`readAxiom_eq_stray_iff`, `Rule.read_eq_stray_iff`,
`Description.read_eq_stray_iff`).
-/

namespace GrowthGrammar

open Expression Number Text

variable {cs : List Char} {s : Stray}

/-! ## Modules -/

theorem splitHead_ne_stray {kind : GrammarKind} : splitHead kind cs ≠ .error (.stray s) := by
  unfold splitHead
  dsimp only
  split
  · exact fun h => by cases h
  · split
    · exact fun h => by cases h
    · split_ifs <;> exact fun h => by cases h

/-- The stray error of a module with a name is that of its first argument that fails. -/
def ModuleStrays {α : Type} (kind : GrammarKind) (f : List Char → Except Error α)
    (P : List Char → Prop) (piece : List Char) : Prop :=
  ∃ name inner, splitHead kind piece = .ok (name, inner) ∧ name.isEmpty = false ∧
    FailsFirst f P (splitArguments inner)

theorem module_eq_stray_iff {α β : Type} {kind : GrammarKind} {f : List Char → Except Error α}
    {P : List Char → Prop} (hf : ∀ p, f p = .error (.stray s) ↔ P p)
    {k : List Char × Option (List Char) → Except Error β}
    (hk : ∀ name inner, k (name, inner) = .error (.stray s) ↔
      name.isEmpty = false ∧ (splitArguments inner).mapM f = .error (.stray s))
    {piece : List Char} :
    (splitHead kind piece >>= k) = .error (.stray s) ↔ ModuleStrays kind f P piece := by
  have harguments (inner : Option (List Char)) :
      (splitArguments inner).mapM f = .error (.stray s) ↔ FailsFirst f P (splitArguments inner) :=
    mapM_eq_error_iff fun p _ => hf p
  rw [bind_eq_error]
  constructor
  · rintro (h | ⟨⟨name, inner⟩, hhead, h⟩)
    · exact absurd h splitHead_ne_stray
    · obtain ⟨hname, h⟩ := (hk name inner).1 h
      exact ⟨name, inner, hhead, hname, (harguments inner).1 h⟩
  · rintro ⟨name, inner, hhead, hname, h⟩
    exact Or.inr ⟨(name, inner), hhead, (hk name inner).2 ⟨hname, (harguments inner).2 h⟩⟩

/-! ## Axioms -/

/-- The stray error of a piece of an axiom. -/
def SymbolStrays (piece : List Char) (s : Stray) : Prop :=
  ModuleStrays .axiomParameter readConstant (ConstantStrays · s) piece

theorem readSymbol_eq_stray_iff {piece : List Char} :
    readSymbol piece = .error (.stray s) ↔ SymbolStrays piece s := by
  refine module_eq_stray_iff (fun _ => readConstant_eq_stray_iff) fun name inner => ?_
  cases hname : name.isEmpty with
  | true => simp [hname]
  | false =>
    simp only [hname, Bool.false_eq_true, if_false, true_and]
    exact bind_eq_error_left (fun _ h => by cases h)

/-- The stray error of an axiom is that of its first piece that fails. -/
def AxiomStrays (cs : List Char) (s : Stray) : Prop :=
  FailsFirst readSymbol (SymbolStrays · s) ((splitAt ';' cs).filter fun piece => !isBlankText piece)

theorem readAxiom_eq_stray_iff : readAxiom cs = .error (.stray s) ↔ AxiomStrays cs s :=
  mapM_eq_error_iff fun _ _ => readSymbol_eq_stray_iff

/-! ## Rules -/

namespace Rule

/-- What a rule says apart from its expressions: its name, its parameters, and the texts of its
condition and of its successors. -/
structure Frame where
  name : String
  parameters : List String
  condition : Option (List Char)
  successors : List Char

/-- The frame of a rule. -/
def readFrame (cs : List Char) : Except Error Frame := do
  let (left, right) ← splitSides cs
  let (head, condition) := cutAt ':' left
  let (name, inner) ← splitHead .ruleParameter head
  let name ← checkName cs name
  let parameters ← checkParameters name ((splitArguments inner).map trim)
  return ⟨name, parameters, condition, right⟩

theorem read_eq_readFrame (globals : Environment) (cs : List Char) :
    read globals cs = readFrame cs >>= fun f =>
      readCondition f.name f.condition >>= fun condition =>
        readSuccessors f.successors >>= fun successors =>
          .ok ⟨f.name, f.parameters, condition, successors, globals⟩ := by
  simp only [read, readFrame, bind_assoc]
  rfl

theorem splitSides_ne_stray : splitSides cs ≠ .error (.stray s) := by
  unfold splitSides
  split <;> exact fun h => by cases h

theorem checkName_ne_stray {name : List Char} : checkName cs name ≠ .error (.stray s) := by
  unfold checkName
  split_ifs
  · exact fun h => by cases h
  · split <;> exact fun h => by cases h

theorem checkParameters_ne_stray {rule : String} {ps : List (List Char)} :
    checkParameters rule ps ≠ .error (.stray s) := by
  unfold checkParameters
  split
  · exact fun h => by cases h
  · dsimp only
    split_ifs <;> exact fun h => by cases h

theorem readFrame_ne_stray : readFrame cs ≠ .error (.stray s) := by
  intro h
  rcases bind_eq_error.1 h with h | ⟨⟨left, right⟩, -, h⟩
  · exact splitSides_ne_stray h
  rcases bind_eq_error.1 h with h | ⟨⟨name, inner⟩, -, h⟩
  · exact splitHead_ne_stray h
  rcases bind_eq_error.1 h with h | ⟨name, -, h⟩
  · exact checkName_ne_stray h
  rcases bind_eq_error.1 h with h | ⟨ps, -, h⟩
  · exact checkParameters_ne_stray h
  · cases h

/-- The stray error of a condition that is there. -/
def ConditionStrays (condition : Option (List Char)) (s : Stray) : Prop :=
  ∃ cs, condition = some cs ∧ isBlankText cs = false ∧ Expression.Strays cs s

theorem readCondition_eq_stray_iff {rule : String} {condition : Option (List Char)} :
    readCondition rule condition = .error (.stray s) ↔ ConditionStrays condition s := by
  cases condition with
  | none => exact ⟨fun h => (by cases h), fun ⟨_, h, _⟩ => (by cases h)⟩
  | some cs =>
    have hinCondition (e : Error) : inCondition cs rule e = .stray s ↔ e = .stray s := by
      cases e <;> simp [inCondition]
    rw [readCondition]
    split_ifs with hblank
    · refine ⟨fun h => (by cases h), ?_⟩
      rintro ⟨_, ht, hfalse, -⟩
      obtain rfl := Option.some.inj ht
      rw [hblank] at hfalse
      cases hfalse
    · have hmap : ((Condition.read cs).mapError (inCondition cs rule)).map some =
          .error (.stray s) ↔ Expression.Strays cs s :=
        (map_eq_error (f := some)).trans
          ((mapError_eq_stray_iff hinCondition).trans Condition.read_eq_stray_iff)
      rw [hmap]
      refine ⟨fun h => ⟨cs, rfl, Bool.eq_false_iff.2 hblank, h⟩, ?_⟩
      rintro ⟨_, ht, -, h⟩
      obtain rfl := Option.some.inj ht
      exact h

theorem readParameter_eq_stray_iff :
    readParameter cs = .error (.stray s) ↔ Expression.Strays cs s := by
  have hinSuccessor (e : Error) : inSuccessor cs e = .stray s ↔ e = .stray s := by
    cases e <;> simp [inSuccessor]
  rw [readParameter, mapError_eq_stray_iff hinSuccessor, Quantity.read_eq_stray_iff]

/-- The stray error of a successor. -/
def SuccessorStrays (piece : List Char) (s : Stray) : Prop :=
  ModuleStrays .ruleParameter readParameter (Expression.Strays · s) piece

theorem readSuccessor_eq_stray_iff {piece : List Char} :
    readSuccessor piece = .error (.stray s) ↔ SuccessorStrays piece s := by
  refine module_eq_stray_iff (fun _ => readParameter_eq_stray_iff) fun name inner => ?_
  cases hname : name.isEmpty with
  | true => simp [hname, pure, Except.pure]
  | false =>
    simp only [hname, Bool.false_eq_true, if_false, true_and]
    exact bind_eq_error_left (fun _ h => by cases h)

theorem readSuccessors_eq_stray_iff :
    readSuccessors cs = .error (.stray s) ↔
      FailsFirst readSuccessor (SuccessorStrays · s) (splitAt ';' cs) := by
  rw [readSuccessors, bind_eq_error_left (fun _ h => by cases h),
    mapM_eq_error_iff fun p _ => readSuccessor_eq_stray_iff]

end Rule

/-- The stray error of a rule is that of its condition or, behind that, of its first successor that
fails. -/
def RuleStrays (cs : List Char) (s : Stray) : Prop :=
  ∃ f, Rule.readFrame cs = .ok f ∧
    (Rule.ConditionStrays f.condition s ∨
      (∃ condition, Rule.readCondition f.name f.condition = .ok condition) ∧
        FailsFirst Rule.readSuccessor (Rule.SuccessorStrays · s) (splitAt ';' f.successors))

theorem Rule.read_eq_stray_iff {globals : Environment} :
    Rule.read globals cs = .error (.stray s) ↔ RuleStrays cs s := by
  rw [read_eq_readFrame, bind_eq_error]
  constructor
  · rintro (h | ⟨f, hf, h⟩)
    · exact absurd h readFrame_ne_stray
    · refine ⟨f, hf, ?_⟩
      rcases bind_eq_error.1 h with h | ⟨condition, hcondition, h⟩
      · exact Or.inl (readCondition_eq_stray_iff.1 h)
      · rcases bind_eq_error.1 h with h | ⟨successors, -, h⟩
        · exact Or.inr ⟨⟨condition, hcondition⟩, readSuccessors_eq_stray_iff.1 h⟩
        · cases h
  · rintro ⟨f, hf, h⟩
    refine Or.inr ⟨f, hf, bind_eq_error.2 ?_⟩
    rcases h with h | ⟨⟨condition, hcondition⟩, h⟩
    · exact Or.inl (readCondition_eq_stray_iff.2 h)
    · exact Or.inr ⟨condition, hcondition,
        bind_eq_error.2 (Or.inl (readSuccessors_eq_stray_iff.2 h))⟩

/-! ## Descriptions -/

namespace Description

/-- The stray error of a line: that of the axiom behind its keyword, or that of the rule that it
is. -/
inductive LineStrays (p : Progress) (line : List Char) (s : Stray) : Prop
  | word {r : List Char} (hline : isSkipped (trim line) = false)
      (hr : afterKeyword "axiom:".toList (trim line) = some r) (h : AxiomStrays r s)
  | rule {q : Progress} {r : List Char} (hline : isSkipped (trim line) = false)
      (hr : readKeyword p (trim line) = .ok (q, r)) (hrules : q.inRules = true)
      (hlength : leastRuleLine ≤ r.length) (h : RuleStrays r s)

theorem readKeyword_eq_stray_iff {p : Progress} {line : List Char} :
    readKeyword p line = .error (.stray s) ↔
      ∃ r, afterKeyword "axiom:".toList line = some r ∧ AxiomStrays r s := by
  unfold readKeyword
  cases hr : afterKeyword "axiom:".toList line with
  | none =>
    refine ⟨fun h => ?_, fun ⟨_, h, _⟩ => by cases h⟩
    dsimp only at h
    split at h
    · cases h
    · split at h <;> cases h
  | some r =>
    dsimp only
    rw [bind_eq_error, readAxiom_eq_stray_iff]
    constructor
    · rintro (h | ⟨symbols, -, h⟩)
      · exact ⟨r, rfl, h⟩
      · cases h
    · rintro ⟨_, hr', h⟩
      obtain rfl := Option.some.inj hr'
      exact Or.inl h

theorem readRuleLine_eq_stray_iff {globals : Environment} {p : Progress} {line : List Char} :
    readRuleLine globals p line = .error (.stray s) ↔
      p.inRules = true ∧ leastRuleLine ≤ line.length ∧ RuleStrays line s := by
  unfold readRuleLine
  split_ifs with hrule
  · obtain ⟨hrules, hlength⟩ := (Bool.and_eq_true _ _).mp hrule
    rw [bind_eq_error, Rule.read_eq_stray_iff]
    constructor
    · rintro (h | ⟨r, -, h⟩)
      · exact ⟨hrules, of_decide_eq_true hlength, h⟩
      · cases h
    · rintro ⟨-, -, h⟩
      exact Or.inl h
  · refine ⟨fun h => (by cases h), ?_⟩
    rintro ⟨hrules, hlength, -⟩
    exact absurd ((Bool.and_eq_true _ _).mpr ⟨hrules, decide_eq_true hlength⟩) hrule

theorem readLine_eq_stray_iff {globals : Environment} {p : Progress} {line : List Char} :
    readLine globals p line = .error (.stray s) ↔ LineStrays p line s := by
  unfold readLine
  dsimp only
  split_ifs with hskip
  · refine ⟨fun h => (by cases h), fun h => ?_⟩
    cases h with
    | word hline _ _ | rule hline _ _ _ _ =>
      rw [hskip] at hline
      cases hline
  · have hline := Bool.eq_false_iff.2 hskip
    rw [bind_eq_error, readKeyword_eq_stray_iff]
    constructor
    · rintro (⟨r, hr, h⟩ | ⟨⟨q, r⟩, hr, h⟩)
      · exact .word hline hr h
      · obtain ⟨hrules, hlength, h⟩ := readRuleLine_eq_stray_iff.1 h
        exact .rule hline hr hrules hlength h
    · intro h
      cases h with
      | word _ hr h => exact Or.inl ⟨_, hr, h⟩
      | rule _ hr hrules hlength h =>
        exact Or.inr ⟨(_, _), hr, readRuleLine_eq_stray_iff.2 ⟨hrules, hlength, h⟩⟩

end Description

/-- The stray error of a description is that of its first line that fails. -/
def DescriptionStrays (globals : Environment) (cs : List Char) (s : Stray) : Prop :=
  ∃ before line after p, lines cs = before ++ line :: after ∧
    before.foldlM (Description.readLine globals) .start = .ok p ∧ Description.LineStrays p line s

theorem Description.read_eq_stray_iff {globals : Environment} :
    Description.read globals cs = .error (.stray s) ↔ DescriptionStrays globals cs s := by
  rw [Description.read, bind_eq_error_left (fun _ h => by cases h), foldlM_eq_error_iff]
  simp only [DescriptionStrays, readLine_eq_stray_iff]

end GrowthGrammar
