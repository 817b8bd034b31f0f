import GrowthGrammar.Proofs.Description.Stray
import GrowthGrammar.Proofs.ErrorClass

/-!
# Documented errors of readers

Expressions, axioms, rules and descriptions each have their classes of errors: whatever else keeps a
text from being read is stray.  Main statement: a reader keeps to its classes exactly on the texts
that do not stray (`readers_documented`), which is not on all texts (`readers_stray`).
-/

namespace GrowthGrammar

open Expression Text

variable {α β σ : Type} {P Q : Error → Prop} {cs : List Char}

/-! ## Generic rules for errors -/

/-- Every error that a step may end with has a property. -/
def FailsWith (P : Error → Prop) (x : Except Error α) : Prop :=
  ∀ e, x = .error e → P e

theorem failsWith_ok (a : α) : FailsWith P (.ok a) := by
  intro e h
  cases h

theorem failsWith_error {e : Error} (h : P e) : FailsWith P (.error e : Except Error α) := by
  intro e' he
  obtain rfl := Except.error.inj he
  exact h

theorem FailsWith.mono {x : Except Error α} (h : FailsWith P x) (hPQ : ∀ e, P e → Q e) :
    FailsWith Q x := fun e he => hPQ e (h e he)

theorem FailsWith.bind {x : Except Error α} {f : α → Except Error β} (hx : FailsWith P x)
    (hf : ∀ a, FailsWith P (f a)) : FailsWith P (x >>= f) := by
  intro e he
  rcases bind_eq_error.1 he with h | ⟨a, -, h⟩
  · exact hx e h
  · exact hf a e h

theorem FailsWith.mapError {f : Error → Error} {x : Except Error α} (h : FailsWith P x)
    (hf : ∀ e, P e → Q (f e)) : FailsWith Q (x.mapError f) := by
  cases x with
  | error e => exact failsWith_error (hf e (h e rfl))
  | ok a => exact failsWith_ok a

theorem failsWith_mapM {f : α → Except Error β} (h : ∀ a, FailsWith P (f a)) (xs : List α) :
    FailsWith P (xs.mapM f) := by
  intro e he
  obtain ⟨x, -, hx⟩ := exists_mem_of_mapM_error he
  exact h x e hx

theorem failsWith_foldlM {f : σ → α → Except Error σ} (h : ∀ s a, FailsWith P (f s a))
    (xs : List α) (s : σ) : FailsWith P (xs.foldlM f s) := by
  intro e he
  obtain ⟨-, x, -, t, -, -, hx⟩ := foldlM_eq_error_iff.1 he
  exact h t x e hx

/-! ## Classes of readers -/

/-- The error is of one of the classes, or stray. -/
def Error.IsIn (classes : List ErrorClass) (e : Error) : Prop :=
  e.errorClass ∈ classes ∨ ∃ s, e = .stray s

/-- A step keeps to classes of errors. -/
def KeepsTo (classes : List ErrorClass) (x : Except Error α) : Prop :=
  FailsWith (fun e => e.errorClass ∈ classes) x

/-- The classes that stray errors are of. -/
def ErrorClass.isStray : ErrorClass → Bool
  | overflow | undecodable | valueKind | value => true
  | _ => false

theorem isStray_errorClass (s : Stray) : (Error.stray s).errorClass.isStray = true := by
  cases s <;> rfl

/-- What fails with errors of classes that are not stray, or with stray ones, keeps to the classes
unless it strays. -/
theorem keepsTo_iff {classes : List ErrorClass} (hclasses : ∀ c ∈ classes, c.isStray = false)
    {x : Except Error α} (hx : FailsWith (Error.IsIn classes) x) {Strays : Stray → Prop}
    (hstray : ∀ s, x = .error (.stray s) ↔ Strays s) :
    KeepsTo classes x ↔ ∀ s, ¬Strays s := by
  constructor
  · intro h s hs
    have hclass := hclasses _ (h _ ((hstray s).2 hs))
    rw [isStray_errorClass] at hclass
    cases hclass
  · intro h e he
    refine (hx e he).resolve_right ?_
    rintro ⟨s, rfl⟩
    exact h s ((hstray s).1 he)

theorem isIn_grammar {classes : List ErrorClass} {g : GrammarError} (kind : GrammarKind)
    (hg : g.kind = kind) (h : .grammar kind ∈ classes) : (Error.grammar g).IsIn classes := by
  subst hg
  exact Or.inl h

/-- The class of texts that are no expressions. -/
def expressionClasses : List ErrorClass :=
  [.refusal]

/-- The classes of errors in axioms. -/
def axiomClasses : List ErrorClass :=
  [.grammar .axiomParameter, .bracket]

/-- The classes of errors in rules. -/
def ruleClasses : List ErrorClass :=
  [.grammar .ruleOperator, .grammar .ruleParameter, .grammar .ruleCondition, .bracket]

/-- The classes of errors in descriptions. -/
def descriptionClasses : List ErrorClass :=
  axiomClasses ++ ruleClasses

/-! ## Expressions -/

/-- The error is of an expression, or stray. -/
def Error.IsOfExpression (e : Error) : Prop :=
  (∃ e', e = .expression e') ∨ ∃ s, e = .stray s

theorem Error.IsIn.isOfExpression {e : Error} (h : e.IsIn expressionClasses) :
    e.IsOfExpression := by
  refine h.imp_left fun hclass => ?_
  rw [expressionClasses, List.mem_singleton] at hclass
  unfold Error.errorClass at hclass
  split at hclass <;> first | exact ⟨_, rfl⟩ | cases hclass

theorem isIn_refuse (text : String) (r : Refusal) : (refuse text r).IsIn expressionClasses :=
  Or.inl List.mem_cons_self

theorem Expr.failsWith_read (cs : List Char) :
    FailsWith (Error.IsIn expressionClasses) (Expr.read cs) := by
  unfold Expr.read
  dsimp only
  split_ifs
  · exact failsWith_error (isIn_refuse _ _)
  · exact failsWith_error (Or.inr ⟨_, rfl⟩)
  · split
    · exact failsWith_error (isIn_refuse _ _)
    · rename_i p _
      cases p.check 0 with
      | ok e => exact failsWith_ok e
      | error f =>
        obtain ⟨rank, o⟩ := f
        cases o with
        | refusal r => exact failsWith_error (isIn_refuse _ r)
        | reservedName n => exact failsWith_error (Or.inr ⟨_, rfl⟩)

theorem Quantity.failsWith_read (cs : List Char) :
    FailsWith (Error.IsIn expressionClasses) (Quantity.read cs) := by
  refine (Expr.failsWith_read cs).bind fun e => ?_
  dsimp only
  split_ifs
  · exact failsWith_error (isIn_refuse _ _)
  · exact failsWith_ok _

theorem Quantity.failsWith_readConstant (cs : List Char) :
    FailsWith (Error.IsIn expressionClasses) (Quantity.readConstant cs) := by
  refine (Quantity.failsWith_read cs).bind fun q => ?_
  split_ifs
  · exact failsWith_ok _
  · exact failsWith_error (isIn_refuse _ _)

theorem Quantity.readConstant_eq_stray_iff {s : Stray} :
    Quantity.readConstant cs = .error (.stray s) ↔ Expression.Strays cs s := by
  rw [Quantity.readConstant, bind_eq_error_left, Quantity.read_eq_stray_iff]
  intro q
  split_ifs <;> exact fun h => by cases h

theorem Condition.failsWith_read (cs : List Char) :
    FailsWith (Error.IsIn expressionClasses) (Condition.read cs) :=
  (Expr.failsWith_read cs).bind fun _ => failsWith_ok _

theorem Quantity.failsWith_evaluate (q : Quantity) (env : Environment) :
    FailsWith Error.IsOfExpression (q.evaluate env) := by
  refine FailsWith.bind ?_ fun v => ?_
  · unfold Expr.value
    cases q.expr.eval env with
    | ok v => exact failsWith_ok v
    | error f => exact failsWith_error (Or.inl ⟨_, rfl⟩)
  · split
    · exact failsWith_ok _
    · refine failsWith_error ?_
      unfold notReal
      split
      · exact Or.inl ⟨_, rfl⟩
      · exact Or.inr ⟨_, rfl⟩

/-! ## Modules and axioms -/

theorem failsWith_splitHead {classes : List ErrorClass} {kind : GrammarKind}
    (hkind : .grammar kind ∈ classes) (hbracket : .bracket ∈ classes) (piece : List Char) :
    FailsWith (Error.IsIn classes) (splitHead kind piece) := by
  unfold splitHead
  split
  · exact failsWith_ok _
  · split
    · exact failsWith_error (Or.inl hbracket)
    · dsimp only
      split_ifs
      · exact failsWith_ok _
      · exact failsWith_error (Or.inl hkind)

theorem failsWith_readConstant (cs : List Char) :
    FailsWith (Error.IsIn axiomClasses) (readConstant cs) := by
  have hread := (Quantity.failsWith_readConstant cs).mono fun _ => Error.IsIn.isOfExpression
  refine (hread.bind fun q => Quantity.failsWith_evaluate q .empty).mapError ?_
  rintro e (⟨e', rfl⟩ | ⟨s, rfl⟩)
  · exact Or.inl List.mem_cons_self
  · exact Or.inr ⟨s, rfl⟩

theorem failsWith_readAxiom (cs : List Char) :
    FailsWith (Error.IsIn axiomClasses) (readAxiom cs) := by
  refine failsWith_mapM (fun piece => ?_) _
  refine (failsWith_splitHead (by decide) (by decide) piece).bind fun ⟨name, inner⟩ => ?_
  dsimp only
  split_ifs
  · exact failsWith_error (Or.inl List.mem_cons_self)
  · exact (failsWith_mapM failsWith_readConstant _).bind fun _ => failsWith_ok _

/-! ## Rules -/

namespace Rule

theorem failsWith_splitSides (cs : List Char) :
    FailsWith (Error.IsIn ruleClasses) (splitSides cs) := by
  unfold splitSides
  split
  · exact failsWith_ok _
  · exact failsWith_error (isIn_grammar .ruleOperator rfl (by decide))
  · exact failsWith_error (isIn_grammar .ruleOperator rfl (by decide))
  · exact failsWith_error (isIn_grammar .ruleOperator rfl (by decide))

theorem failsWith_checkName (text name : List Char) :
    FailsWith (Error.IsIn ruleClasses) (checkName text name) := by
  unfold checkName
  split_ifs
  · exact failsWith_error (isIn_grammar .ruleOperator rfl (by decide))
  · split
    · exact failsWith_error (isIn_grammar .ruleOperator rfl (by decide))
    · exact failsWith_ok _

theorem failsWith_checkParameters (rule : String) (ps : List (List Char)) :
    FailsWith (Error.IsIn ruleClasses) (checkParameters rule ps) := by
  unfold checkParameters
  split
  · exact failsWith_error (isIn_grammar .ruleParameter rfl (by decide))
  · dsimp only
    split_ifs
    · exact failsWith_ok _
    · exact failsWith_error (isIn_grammar .ruleParameter rfl (by decide))

theorem failsWith_readCondition (rule : String) (condition : Option (List Char)) :
    FailsWith (Error.IsIn ruleClasses) (readCondition rule condition) := by
  unfold readCondition
  split
  · exact failsWith_ok _
  · rename_i cs
    split_ifs
    · exact failsWith_ok _
    · have hread := (Condition.failsWith_read cs).mono fun _ => Error.IsIn.isOfExpression
      have hcondition : FailsWith (Error.IsIn ruleClasses)
          ((Condition.read cs).mapError (inCondition cs rule)) := by
        refine hread.mapError ?_
        rintro e (⟨e', rfl⟩ | ⟨s, rfl⟩)
        · exact isIn_grammar .ruleCondition rfl (by decide)
        · exact Or.inr ⟨s, rfl⟩
      intro e he
      exact hcondition e (map_eq_error.1 he)

theorem failsWith_readParameter (cs : List Char) :
    FailsWith (Error.IsIn ruleClasses) (readParameter cs) := by
  have hread := (Quantity.failsWith_read cs).mono fun _ => Error.IsIn.isOfExpression
  refine hread.mapError ?_
  rintro e (⟨e', rfl⟩ | ⟨s, rfl⟩)
  · exact isIn_grammar .ruleParameter rfl (by decide)
  · exact Or.inr ⟨s, rfl⟩

theorem failsWith_readSuccessors (cs : List Char) :
    FailsWith (Error.IsIn ruleClasses) (readSuccessors cs) := by
  refine (failsWith_mapM (fun piece => ?_) _).bind fun _ => failsWith_ok _
  refine (failsWith_splitHead (by decide) (by decide) piece).bind fun ⟨name, inner⟩ => ?_
  dsimp only
  split_ifs
  · exact failsWith_ok _
  · exact (failsWith_mapM failsWith_readParameter _).bind fun _ => failsWith_ok _

theorem failsWith_read (globals : Environment) (cs : List Char) :
    FailsWith (Error.IsIn ruleClasses) (read globals cs) := by
  refine (failsWith_splitSides cs).bind fun ⟨left, right⟩ => ?_
  refine (failsWith_splitHead (by decide) (by decide) _).bind fun ⟨name, inner⟩ => ?_
  refine (failsWith_checkName cs name).bind fun name => ?_
  refine (failsWith_checkParameters name _).bind fun parameters => ?_
  refine (failsWith_readCondition name _).bind fun condition => ?_
  exact (failsWith_readSuccessors right).bind fun successors => failsWith_ok _

end Rule

/-! ## Descriptions -/

namespace Description

theorem failsWith_readKeyword (p : Progress) (line : List Char) :
    FailsWith (Error.IsIn descriptionClasses) (readKeyword p line) := by
  unfold readKeyword
  split
  · rename_i r _
    have haxiom : FailsWith (Error.IsIn descriptionClasses) (readAxiom r) :=
      (failsWith_readAxiom r).mono fun _ => Or.imp_left (List.mem_append_left ruleClasses)
    exact haxiom.bind fun _ => failsWith_ok _
  · split
    · exact failsWith_ok _
    · split <;> exact failsWith_ok _

theorem failsWith_readRuleLine (globals : Environment) (p : Progress) (line : List Char) :
    FailsWith (Error.IsIn descriptionClasses) (readRuleLine globals p line) := by
  unfold readRuleLine
  split_ifs
  · have hrule : FailsWith (Error.IsIn descriptionClasses) (Rule.read globals line) :=
      (Rule.failsWith_read globals line).mono fun _ =>
        Or.imp_left (List.mem_append_right axiomClasses)
    exact hrule.bind fun _ => failsWith_ok _
  · exact failsWith_ok _

theorem failsWith_read (globals : Environment) (cs : List Char) :
    FailsWith (Error.IsIn descriptionClasses) (read globals cs) := by
  refine (failsWith_foldlM (fun p line => ?_) _ _).bind fun _ => failsWith_ok _
  unfold readLine
  dsimp only
  split_ifs
  · exact failsWith_ok _
  · exact (failsWith_readKeyword p _).bind fun ⟨q, rest⟩ => failsWith_readRuleLine globals q rest

end Description

/-! ## Main statement -/

/-- Every reader of a text keeps to the errors of its classes exactly if nothing that it reads in the
text strays. -/
theorem readers_documented (globals : Environment) (cs : List Char) :
    (KeepsTo expressionClasses (Quantity.read cs) ↔ ∀ s, ¬Expression.Strays cs s) ∧
      (KeepsTo expressionClasses (Quantity.readConstant cs) ↔ ∀ s, ¬Expression.Strays cs s) ∧
      (KeepsTo expressionClasses (Condition.read cs) ↔ ∀ s, ¬Expression.Strays cs s) ∧
      (KeepsTo axiomClasses (readAxiom cs) ↔ ∀ s, ¬AxiomStrays cs s) ∧
      (KeepsTo ruleClasses (Rule.read globals cs) ↔ ∀ s, ¬RuleStrays cs s) ∧
      (KeepsTo descriptionClasses (Description.read globals cs) ↔
        ∀ s, ¬DescriptionStrays globals cs s) := by
  refine ⟨?_, ?_, ?_, ?_, ?_, ?_⟩
  · exact keepsTo_iff (by decide) (Quantity.failsWith_read cs) fun _ => Quantity.read_eq_stray_iff
  · exact keepsTo_iff (by decide) (Quantity.failsWith_readConstant cs) fun _ =>
      Quantity.readConstant_eq_stray_iff
  · exact keepsTo_iff (by decide) (Condition.failsWith_read cs) fun _ =>
      Condition.read_eq_stray_iff
  · exact keepsTo_iff (by decide) (failsWith_readAxiom cs) fun _ => readAxiom_eq_stray_iff
  · exact keepsTo_iff (by decide) (Rule.failsWith_read globals cs) fun _ => Rule.read_eq_stray_iff
  · exact keepsTo_iff (by decide) (Description.failsWith_read globals cs) fun _ =>
      Description.read_eq_stray_iff

theorem not_keepsTo {classes : List ErrorClass} {x : Except Error α}
    (h : errorAnd (fun e => !classes.contains e.errorClass) x = true) : ¬KeepsTo classes x := by
  obtain ⟨e, he, hclass⟩ := errorAnd_iff.1 h
  intro hx
  simp [hx e he] at hclass

/-- A null character strays in every reader, and so does a name that is a reserved one but for the
width of a letter. -/
theorem readers_stray :
    (¬KeepsTo expressionClasses (Quantity.read "x\x00".toList) ∧
      ¬KeepsTo expressionClasses (Condition.read "x\x00".toList) ∧
      ¬KeepsTo axiomClasses (readAxiom "A(x\x00)".toList) ∧
      ¬KeepsTo ruleClasses (Rule.read .empty "A(x): x\x00 --> B".toList) ∧
      ¬KeepsTo descriptionClasses (Description.read .empty "Axiom: A(x\x00)".toList)) ∧
    ¬KeepsTo expressionClasses (Quantity.read "Ｔrue".toList) ∧
      ¬KeepsTo expressionClasses (Condition.read "Ｔrue".toList) ∧
      ¬KeepsTo axiomClasses (readAxiom "A(Ｔrue)".toList) ∧
      ¬KeepsTo ruleClasses (Rule.read .empty "A(x): Ｔrue --> B".toList) ∧
      ¬KeepsTo descriptionClasses (Description.read .empty "Axiom: A(Ｔrue)".toList) :=
  ⟨⟨not_keepsTo (by decide +kernel), not_keepsTo (by decide +kernel),
      not_keepsTo (by decide +kernel), not_keepsTo (by decide +kernel),
      not_keepsTo (by decide +kernel)⟩,
    not_keepsTo (by decide +kernel), not_keepsTo (by decide +kernel),
    not_keepsTo (by decide +kernel), not_keepsTo (by decide +kernel),
    not_keepsTo (by decide +kernel)⟩

end GrowthGrammar
