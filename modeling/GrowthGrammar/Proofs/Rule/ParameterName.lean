import GrowthGrammar.Proofs.Expression.Name
import GrowthGrammar.Proofs.Number.Bits
import GrowthGrammar.Proofs.Text.Arrow
import GrowthGrammar.Proofs.Word.Written
import GrowthGrammar.Rule.Reader

/-!
# Names of parameters

The rule `S(p) --> S(p)` reads its parameter back by the name that `p` composes to.  It leaves every
symbol `S(v)` as it is if and only if `p` is composed already and is not the one name that is true
in every environment (`apply_identityRule_iff`), though rules accept other names too
(`apply_identityRule_debug`).
-/

namespace GrowthGrammar.Rule

open GrowthGrammar.Expression GrowthGrammar.Text

/-! ## Accepted names -/

theorem eq_of_checkParameters {rule : String} {ps : List (List Char)} {names : List String}
    (h : checkParameters rule ps = .ok names) :
    names = ps.map String.ofList ∧ ∀ p ∈ ps, isVariableName p = true := by
  unfold checkParameters at h
  split at h
  · cases h
  · rename_i hfind
    dsimp only at h
    split_ifs at h
    refine ⟨(Except.ok.inj h).symm, fun p hp => ?_⟩
    simpa using List.find?_eq_none.1 hfind p hp

/-- The parameters of a rule that is read are names of variables without blanks around them. -/
theorem isVariableName_of_read {globals : Environment} {cs : List Char} {r : Rule}
    (h : read globals cs = .ok r) {p : String} (hp : p ∈ r.parameters) :
    isVariableName p.toList = true ∧ trim p.toList = p.toList := by
  obtain ⟨⟨left, right⟩, -, h⟩ := bind_eq_ok.1 h
  obtain ⟨⟨name, inner⟩, -, h⟩ := bind_eq_ok.1 h
  obtain ⟨name, -, h⟩ := bind_eq_ok.1 h
  obtain ⟨parameters, hparameters, h⟩ := bind_eq_ok.1 h
  obtain ⟨condition, -, h⟩ := bind_eq_ok.1 h
  obtain ⟨successors, -, h⟩ := bind_eq_ok.1 h
  obtain rfl := Except.ok.inj h
  obtain ⟨rfl, hnames⟩ := eq_of_checkParameters hparameters
  obtain ⟨q, hq, rfl⟩ := List.mem_map.1 hp
  rw [String.toList_ofList]
  obtain ⟨piece, -, rfl⟩ := List.mem_map.1 hq
  exact ⟨hnames _ hq, trim_trim piece⟩

/-! ## The rule that changes nothing -/

/-- The text of the rule whose one successor is its symbol, with its one parameter. -/
def identityRule (p : String) : List Char :=
  ("S(" ++ p ++ ") --> S(" ++ p ++ ")").toList

/-- The rule itself, which finds its parameter by the composed name. -/
def identity (globals : Environment) (p : String) : Rule where
  name := "S"
  parameters := [p]
  condition := none
  successors := [⟨"S", [⟨p, .name (String.ofList (composed p.toList))⟩]⟩]
  globals := globals

section Name

variable {p : String} (hp : isVariableName p.toList = true)

include hp

theorem not_mem_name {d : Char} (hd : Token.isWordChar d = false) : d ∉ p.toList :=
  not_mem_identifier (isVariableName_iff.1 hp).1 hd

theorem splitSides_identityRule :
    splitSides (identityRule p) =
      .ok ('S' :: '(' :: (p.toList ++ [')', ' ']), ' ' :: 'S' :: '(' :: (p.toList ++ [')'])) := by
  have hdash : '-' ∉ p.toList := not_mem_name hp rfl
  have hleft : '-' ∉ 'S' :: '(' :: (p.toList ++ [')', ' ']) := by simp [hdash]
  have hright : '-' ∉ ' ' :: 'S' :: '(' :: (p.toList ++ [')']) := by simp [hdash]
  have harrow : splitAtArrow ('-' :: '-' :: '>' :: ' ' :: 'S' :: '(' :: (p.toList ++ [')'])) =
      [[], ' ' :: 'S' :: '(' :: (p.toList ++ [')'])] := by
    rw [splitAtArrow, splitAtArrow_of_not_mem hright]
  have hsides := splitAtArrow_append_left hleft harrow
  have htext : identityRule p = 'S' :: '(' :: (p.toList ++ [')', ' ']) ++
      '-' :: '-' :: '>' :: ' ' :: 'S' :: '(' :: (p.toList ++ [')']) := by
    simp [identityRule, String.toList_append]
  rw [splitSides, htext, hsides, List.append_nil]

theorem splitHead_parameter {l t : List Char} (hl : '(' ∉ l) (ht : isBlankText t = true) :
    splitHead .ruleParameter (l ++ '(' :: (p.toList ++ ')' :: t)) =
      .ok (trim l, some p.toList) := by
  refine splitHead_brackets _ hl (fun c hc => ⟨?_, ?_⟩) ht
  · rintro rfl
    exact not_mem_name hp rfl hc
  · rintro rfl
    exact not_mem_name hp rfl hc

variable (htrim : trim p.toList = p.toList)

include htrim

theorem splitArguments_parameter : splitArguments (some p.toList) = [p.toList] := by
  have hne : p.toList ≠ [] := ne_nil_of_isIdentifier (isVariableName_iff.1 hp).1
  have hblank : isBlankText p.toList = false := by
    refine Bool.eq_false_iff.2 fun h => hne ?_
    rw [← htrim, trim_eq_nil_iff.2 h]
  rw [splitArguments, hblank]
  refine cutArguments_plain fun c hc => ⟨?_, ?_, ?_, ?_⟩ <;>
  · rintro rfl
    exact not_mem_name hp rfl hc

/-- The parameter is read as the name that it composes to, if it is read at all. -/
theorem readParameter_name {q : Quantity} (h : readParameter p.toList = .ok q) :
    q = ⟨p, .name (String.ofList (composed p.toList))⟩ := by
  unfold readParameter at h
  cases hread : Quantity.read p.toList with
  | error e =>
    rw [hread] at h
    cases h
  | ok q' =>
    rw [hread] at h
    obtain rfl := Except.ok.inj h
    obtain ⟨e, he, hq⟩ := bind_eq_ok.1 hread
    rw [read_of_isVariableName hp htrim] at he
    split_ifs at he
    obtain rfl := Except.ok.inj he
    dsimp only at hq
    split_ifs at hq
    rw [← Except.ok.inj hq, htrim, String.ofList_toList]

theorem readSuccessors_parameter :
    readSuccessors (' ' :: 'S' :: '(' :: (p.toList ++ [')'])) =
      readParameter p.toList >>= fun q => .ok [⟨"S", [q]⟩] := by
  have hsemicolon : ';' ∉ ' ' :: 'S' :: '(' :: (p.toList ++ [')']) := by
    simp [not_mem_name hp (d := ';') rfl]
  have hhead : splitHead .ruleParameter (' ' :: 'S' :: '(' :: (p.toList ++ [')'])) =
      .ok (['S'], some p.toList) :=
    splitHead_parameter hp (l := [' ', 'S']) (by decide) rfl
  rw [readSuccessors, splitAt_of_not_mem hsemicolon, List.mapM_cons, readSuccessor, hhead, ok_bind]
  simp only [splitArguments_parameter hp htrim, List.mapM_cons, List.mapM_nil]
  cases readParameter p.toList <;> rfl

/-- Whether the text is read depends on its parameter as an expression. -/
theorem read_identityRule (globals : Environment) :
    read globals (identityRule p) =
      readParameter p.toList >>= fun q => .ok ⟨"S", [p], none, [⟨"S", [q]⟩], globals⟩ := by
  have hcolon : ':' ∉ 'S' :: '(' :: (p.toList ++ [')', ' ']) := by
    simp [not_mem_name hp (d := ':') rfl]
  have hhead : splitHead .ruleParameter ('S' :: '(' :: (p.toList ++ [')', ' '])) =
      .ok (['S'], some p.toList) :=
    splitHead_parameter hp (l := ['S']) (by decide) rfl
  have hparameters : checkParameters "S" [p.toList] = .ok [p] := by
    simp [checkParameters, hp]
  have hname (cs : List Char) : checkName cs ['S'] = .ok "S" := rfl
  rw [read, splitSides_identityRule hp, ok_bind]
  simp only [cutAt_of_not_mem hcolon, hhead, ok_bind, hname, splitArguments_parameter hp htrim,
    List.map_cons, List.map_nil, htrim, hparameters, readCondition,
    readSuccessors_parameter hp htrim]
  cases readParameter p.toList <;> rfl

end Name

theorem eq_identity_of_read {globals : Environment} {p : String} {r : Rule}
    (h : read globals (identityRule p) = .ok r) (hp : r.parameters = [p]) :
    r = identity globals p := by
  obtain ⟨hname, htrim⟩ := isVariableName_of_read h (hp ▸ List.mem_singleton_self p)
  rw [read_identityRule hname htrim] at h
  obtain ⟨q, hq, h⟩ := bind_eq_ok.1 h
  obtain rfl := readParameter_name hname htrim hq
  exact (Except.ok.inj h).symm

/-! ## Its application -/

/-- The parameter of the successor is the value of the composed name, where the parameter of the
rule has the double of the symbol. -/
theorem apply_identity (globals : Environment) (p : String) (v : Float) (output : List Symbol) :
    (identity globals p).apply ⟨"S", [v]⟩ output =
      match Quantity.evaluate ⟨p, .name (String.ofList (composed p.toList))⟩ (globals.set p v) with
      | .ok x => (output ++ [⟨"S", [x]⟩], .ok true)
      | .error e => (output, .error e) := by
  have hbind : (identity globals p).bind ⟨"S", [v]⟩ = some (globals.set p v) := rfl
  have hallows (env : Environment) : (identity globals p).allows env = .ok true := rfl
  have hmade (env : Environment) : Template.generateAll env (identity globals p).successors =
      match Quantity.evaluate ⟨p, .name (String.ofList (composed p.toList))⟩ env with
      | .ok x => ([⟨"S", [x]⟩], none)
      | .error e => ([], some e) := by
    simp only [identity, Template.generateAll, Template.generate, List.mapM_cons, List.mapM_nil]
    cases Quantity.evaluate ⟨p, .name (String.ofList (composed p.toList))⟩ env <;> rfl
  simp only [apply, hbind, hallows, hmade]
  cases Quantity.evaluate ⟨p, .name (String.ofList (composed p.toList))⟩ (globals.set p v) with
  | error e => simp
  | ok x => rfl

theorem evaluate_name_of_find? {env : Environment} {text n : String} (hn : n ≠ "__debug__")
    {x : Float} (hx : env.find? n = some x) : Quantity.evaluate ⟨text, .name n⟩ env = .ok x := by
  simp only [Quantity.evaluate, Expr.value, Expr.eval, Expr.valueOf_of_find? hn hx]
  rfl

theorem evaluate_name_set_of_ne {env : Environment} {text n p : String}
    (h : n ≠ p ∨ n = "__debug__") (x : Float) :
    Quantity.evaluate ⟨text, .name n⟩ (env.set p x) = Quantity.evaluate ⟨text, .name n⟩ env := by
  simp only [Quantity.evaluate, Expr.value, Expr.eval, Expr.valueOf_set_of_ne h]

/-- A rule with a parameter that composes to another name, or with the name that is true in every
environment, does the same to all symbols. -/
theorem apply_identity_eq {globals : Environment} {p : String}
    (h : ¬(composed p.toList = p.toList ∧ p ≠ "__debug__")) (v w : Float) (output : List Symbol) :
    (identity globals p).apply ⟨"S", [v]⟩ output = (identity globals p).apply ⟨"S", [w]⟩ output := by
  have hother : String.ofList (composed p.toList) ≠ p ∨
      String.ofList (composed p.toList) = "__debug__" := by
    by_cases hdebug : p = "__debug__"
    · subst hdebug
      exact Or.inr rfl
    · refine Or.inl fun hp => h ⟨?_, hdebug⟩
      rw [← String.toList_ofList (l := composed p.toList), hp]
  rw [apply_identity, apply_identity, evaluate_name_set_of_ne hother,
    evaluate_name_set_of_ne hother]

/-- The rule leaves every symbol with a finite parameter as it is exactly if its parameter is
composed and is not the name that is true in every environment. -/
theorem apply_identityRule_iff {globals : Environment} {p : String} {r : Rule}
    (h : read globals (identityRule p) = .ok r) (hp : r.parameters = [p]) :
    (∀ v : Float, v.isFinite = true → ∀ output,
        r.apply ⟨"S", [v]⟩ output = (output ++ [⟨"S", [v]⟩], .ok true)) ↔
      composed p.toList = p.toList ∧ p ≠ "__debug__" := by
  obtain rfl := eq_identity_of_read h hp
  constructor
  · intro hall
    by_contra hother
    -- Such a rule cannot leave two symbols as they are, whatever it makes of them.
    have hzero := hall 0 (by decide +kernel) []
    have hone := hall 1 (by decide +kernel) []
    rw [apply_identity_eq hother 0 1 [], hone] at hzero
    have hfloat : (1 : Float) = 0 := by simpa using hzero
    exact absurd (congrArg Float.toBits hfloat) (by decide +kernel)
  · rintro ⟨hcomposed, hdebug⟩ v - output
    have hvalue : Quantity.evaluate ⟨p, .name p⟩ (globals.set p v) = .ok v :=
      evaluate_name_of_find? hdebug (Environment.find?_set globals p v)
    rw [apply_identity, hcomposed, String.ofList_toList, hvalue]

theorem apply_identityRule_iff_x :
    ∃ r, read .empty (identityRule "x") = .ok r ∧ r.parameters = ["x"] ∧
      ∀ v : Float, v.isFinite = true → ∀ output,
        r.apply ⟨"S", [v]⟩ output = (output ++ [⟨"S", [v]⟩], .ok true) := by
  have hread : okAnd (fun r => r.parameters == ["x"]) (read .empty (identityRule "x")) = true := by
    decide +kernel
  obtain ⟨r, hr, hparameters⟩ := okAnd_iff.1 hread
  have hparameters := beq_iff_eq.1 hparameters
  exact ⟨r, hr, hparameters, (apply_identityRule_iff hr hparameters).2 ⟨by decide, by decide⟩⟩

/-- The one name that is true in every environment is accepted, and gives one for every number. -/
theorem apply_identityRule_debug :
    ∃ r, read .empty (identityRule "__debug__") = .ok r ∧ r.parameters = ["__debug__"] ∧
      r.apply ⟨"S", [2]⟩ [] = ([⟨"S", [1]⟩], .ok true) := by
  have hread : okAnd (fun r => r.parameters == ["__debug__"])
      (read .empty (identityRule "__debug__")) = true := by decide +kernel
  obtain ⟨r, hr, hparameters⟩ := okAnd_iff.1 hread
  have hparameters := beq_iff_eq.1 hparameters
  refine ⟨r, hr, hparameters, ?_⟩
  rw [eq_identity_of_read hr hparameters, apply_identity]
  rfl

end GrowthGrammar.Rule
