import GrowthGrammar.Proofs.Growth.FirstMatch

/-!
# The output of a rule

A rule appends the symbols of its successors to an output one by one, so that a successor that fails
leaves those of the successors in front of it behind (`Template.generateAll_eq_some_iff`).  Main
statement: what stands in the output afterwards, for each way in which applying a rule can end
(`apply_output`).
-/

namespace GrowthGrammar

variable {env : Environment} {e : Error} {r : Rule} {x : Symbol} {output o : List Symbol}

/-! ## Scopes -/

/-- In an overlaid environment the last entry of a name counts, and what lies below if there is
none. -/
theorem Environment.find?_overlay (env : Environment) (entries : List (String × Float))
    (n : String) :
    (env.overlay entries).find? n = (entries.reverse.lookup n).or (env.find? n) := by
  induction entries generalizing env with
  | nil => rfl
  | cons p entries ih =>
    obtain ⟨m, v⟩ := p
    rw [overlay_cons, ih, List.reverse_cons, List.lookup_append, Option.or_assoc]
    congr 1
    by_cases hname : n = m
    · subst hname
      simp [find?_set]
    · simp [find?_set_of_ne env hname, List.lookup_cons, beq_eq_false_iff_ne.2 hname]

theorem Rule.bind_eq_some_iff : r.bind x = some env ↔ r.IsFor x ∧ env = r.scope x := by
  by_cases hfor : r.IsFor x
  · rw [bind_of_isFor hfor, Option.some.injEq, eq_comm]
    exact (and_iff_right hfor).symm
  · rw [bind, if_neg (mt fits_iff.1 hfor)]
    exact iff_of_false (fun h => by cases h) fun h => hfor h.1

/-! ## Successors -/

namespace Template

/-- The symbols are those of the templates, one for each of them and in their order. -/
def Give (env : Environment) (ts : List Template) (made : List Symbol) : Prop :=
  List.Forall₂ (fun t s => s.name = t.name ∧
    List.Forall₂ (fun q v => q.evaluate env = .ok v) t.parameters s.parameters) ts made

/-- The first parameter that fails is one of a template behind those that give the symbols. -/
def FailBehind (env : Environment) (ts : List Template) (made : List Symbol) (e : Error) : Prop :=
  ∃ before t after, ts = before ++ t :: after ∧ Give env before made ∧
    FailsFirst (fun q => q.evaluate env) (fun q => q.evaluate env = .error e) t.parameters

variable {t : Template} {ts : List Template} {s : Symbol} {made : List Symbol}

theorem generateAll_cons_of_ok (h : t.generate env = .ok s) (ts : List Template) :
    generateAll env (t :: ts) = (s :: (generateAll env ts).1, (generateAll env ts).2) := by
  rw [generateAll, h]

theorem generateAll_cons_of_error (h : t.generate env = .error e) (ts : List Template) :
    generateAll env (t :: ts) = ([], some e) := by
  rw [generateAll, h]

theorem give_cons : Give env (t :: ts) made ↔
    ∃ s rest, made = s :: rest ∧ t.generate env = .ok s ∧ Give env ts rest := by
  simp only [generate_eq_ok]
  constructor
  · rintro (_ | ⟨hfirst, hrest⟩)
    exact ⟨_, _, rfl, hfirst, hrest⟩
  · rintro ⟨s, rest, rfl, hfirst, hrest⟩
    exact .cons hfirst hrest

theorem generateAll_eq_none_iff : generateAll env ts = (made, none) ↔ Give env ts made := by
  induction ts generalizing made with
  | nil => simp [generateAll, Give, eq_comm]
  | cons t ts ih =>
    rw [give_cons]
    cases ht : t.generate env with
    | error e => simp [generateAll_cons_of_error ht]
    | ok s =>
      rw [generateAll_cons_of_ok ht]
      constructor
      · intro h
        obtain ⟨rfl, hnone⟩ := Prod.mk.inj h
        exact ⟨s, _, rfl, rfl, ih.1 (Prod.ext rfl hnone)⟩
      · rintro ⟨s', rest, rfl, hs, hrest⟩
        obtain rfl := Except.ok.inj hs
        rw [ih.2 hrest]

theorem failBehind_cons : FailBehind env (t :: ts) made e ↔
    (made = [] ∧ t.generate env = .error e) ∨
      ∃ s rest, made = s :: rest ∧ t.generate env = .ok s ∧ FailBehind env ts rest e := by
  constructor
  · rintro ⟨before, t', after, heq, hbefore, hfails⟩
    cases hbefore with
    | nil =>
      obtain ⟨rfl, -⟩ := List.cons.inj heq
      exact Or.inl ⟨rfl, generate_eq_error.2 hfails⟩
    | cons hfirst hbefore =>
      obtain ⟨rfl, rfl⟩ := List.cons.inj heq
      exact Or.inr ⟨_, _, rfl, generate_eq_ok.2 hfirst, _, t', after, rfl, hbefore, hfails⟩
  · rintro (⟨rfl, ht⟩ | ⟨s, rest, rfl, ht, before, t', after, rfl, hbefore, hfails⟩)
    · exact ⟨[], t, ts, rfl, .nil, generate_eq_error.1 ht⟩
    · exact ⟨t :: before, t', after, rfl, .cons (generate_eq_ok.1 ht) hbefore, hfails⟩

/-- Templates leave behind the symbols of those in front of the first that fails. -/
theorem generateAll_eq_some_iff :
    generateAll env ts = (made, some e) ↔ FailBehind env ts made e := by
  induction ts generalizing made with
  | nil =>
    refine iff_of_false (fun h => by cases h) ?_
    rintro ⟨before, t, after, h, -⟩
    cases before <;> cases h
  | cons t ts ih =>
    rw [failBehind_cons]
    cases ht : t.generate env with
    | error e' => simp [generateAll_cons_of_error ht, eq_comm]
    | ok s =>
      rw [generateAll_cons_of_ok ht]
      constructor
      · intro h
        obtain ⟨rfl, hfails⟩ := Prod.mk.inj h
        exact Or.inr ⟨s, _, rfl, rfl, ih.1 (Prod.ext rfl hfails)⟩
      · rintro (⟨-, h⟩ | ⟨s', rest, rfl, hs, hrest⟩)
        · cases h
        · obtain rfl := Except.ok.inj hs
          rw [ih.2 hrest]

end Template

/-! ## One application -/

namespace Rule

theorem passesOver_iff :
    r.PassesOver x ↔ r.bind x = none ∨ ∃ c ∈ r.condition, c.holds (r.scope x) = .ok false := by
  by_cases hfor : r.IsFor x
  · simp [PassesOver, hfor, bind_of_isFor hfor]
  · have hbind : r.bind x = none := if_neg (mt fits_iff.1 hfor)
    simp [PassesOver, hfor, hbind]

theorem apply_of_passesOver (h : r.PassesOver x) (output : List Symbol) :
    r.apply x output = (output, .ok false) :=
  apply_of_none (rewrite_of_passesOver h) output

theorem apply_of_balks (h : r.Balks x e) (output : List Symbol) :
    r.apply x output = (output, .error e) := by
  obtain ⟨hfor, c, hc, hholds⟩ := h
  simp only [apply, bind_of_isFor hfor, allows_eq_of_mem hc, hholds]

theorem apply_of_yields {block : List Symbol} (h : r.Matches x) (hblock : r.Yields x block)
    (output : List Symbol) : r.apply x output = (output ++ block, .ok true) := by
  simp only [apply, bind_of_isFor h.1, allows_of_matches h,
    Template.generateAll_eq_none_iff.2 hblock]

theorem apply_of_failBehind {made : List Symbol} (h : r.Matches x)
    (hmade : Template.FailBehind (r.scope x) r.successors made e) (output : List Symbol) :
    r.apply x output = (output ++ made, .error e) := by
  simp only [apply, bind_of_isFor h.1, allows_of_matches h,
    Template.generateAll_eq_some_iff.2 hmade]

/-- The ways in which applying a rule can end. -/
theorem apply_cases (r : Rule) (x : Symbol) (output : List Symbol) :
    (r.PassesOver x ∧ r.apply x output = (output, .ok false)) ∨
      (∃ e, r.Balks x e ∧ r.apply x output = (output, .error e)) ∨
      (∃ block, r.Matches x ∧ r.Yields x block ∧ r.apply x output = (output ++ block, .ok true)) ∨
      ∃ made e, r.Matches x ∧ Template.FailBehind (r.scope x) r.successors made e ∧
        r.apply x output = (output ++ made, .error e) := by
  rcases matches_or r x with hmatch | hpass | ⟨e, hbalk⟩
  · cases hmade : Template.generateAll (r.scope x) r.successors with
    | mk made failure =>
      cases failure with
      | none =>
        have hblock := Template.generateAll_eq_none_iff.1 hmade
        exact Or.inr (Or.inr (Or.inl ⟨made, hmatch, hblock, apply_of_yields hmatch hblock output⟩))
      | some e =>
        have hfails := Template.generateAll_eq_some_iff.1 hmade
        exact Or.inr (Or.inr (Or.inr
          ⟨made, e, hmatch, hfails, apply_of_failBehind hmatch hfails output⟩))
  · exact Or.inl ⟨hpass, apply_of_passesOver hpass output⟩
  · exact Or.inr (Or.inl ⟨e, hbalk, apply_of_balks hbalk output⟩)

theorem apply_eq_false_iff :
    r.apply x output = (o, .ok false) ↔ r.PassesOver x ∧ o = output := by
  constructor
  · intro h
    rcases apply_cases r x output with ⟨hpass, happly⟩ | ⟨e, -, happly⟩ | ⟨block, -, -, happly⟩ |
      ⟨made, e, -, -, happly⟩ <;> obtain ⟨rfl, hres⟩ := Prod.mk.inj (happly.symm.trans h)
    · exact ⟨hpass, rfl⟩
    all_goals cases hres
  · rintro ⟨hpass, rfl⟩
    exact apply_of_passesOver hpass o

theorem apply_eq_true_iff :
    r.apply x output = (o, .ok true) ↔
      r.Matches x ∧ ∃ block, r.Yields x block ∧ o = output ++ block := by
  constructor
  · intro h
    rcases apply_cases r x output with ⟨-, happly⟩ | ⟨e, -, happly⟩ |
      ⟨block, hmatch, hblock, happly⟩ | ⟨made, e, -, -, happly⟩ <;>
      obtain ⟨rfl, hres⟩ := Prod.mk.inj (happly.symm.trans h)
    · cases hres
    · cases hres
    · exact ⟨hmatch, block, hblock, rfl⟩
    · cases hres
  · rintro ⟨hmatch, block, hblock, rfl⟩
    exact apply_of_yields hmatch hblock output

theorem apply_eq_error_iff :
    r.apply x output = (o, .error e) ↔
      (r.Balks x e ∧ o = output) ∨
        r.Matches x ∧ ∃ made, Template.FailBehind (r.scope x) r.successors made e ∧
          o = output ++ made := by
  constructor
  · intro h
    rcases apply_cases r x output with ⟨-, happly⟩ | ⟨e', hbalk, happly⟩ | ⟨block, -, -, happly⟩ |
      ⟨made, e', hmatch, hfails, happly⟩ <;>
      obtain ⟨rfl, hres⟩ := Prod.mk.inj (happly.symm.trans h)
    · cases hres
    · obtain rfl := Except.error.inj hres
      exact Or.inl ⟨hbalk, rfl⟩
    · cases hres
    · obtain rfl := Except.error.inj hres
      exact Or.inr ⟨hmatch, made, hfails, rfl⟩
  · rintro (⟨hbalk, rfl⟩ | ⟨hmatch, made, hfails, rfl⟩)
    · exact apply_of_balks hbalk o
    · exact apply_of_failBehind hmatch hfails output

/-! ## Main statement -/

/-- What applying a rule to a symbol answers, and what it leaves in an output.  The symbol is
treated under the globals, overlaid with its parameters.  An output is left as it is if the rule is
not for the symbol, or its condition does not hold or fails; else the symbols of the successors are
behind it, and of successors of which one fails those in front of it. -/
theorem apply_output (r : Rule) (x : Symbol) (output : List Symbol) :
    (∀ env, r.bind x = some env ↔ r.IsFor x ∧ env = r.scope x) ∧
      (∀ n, (r.scope x).find? n =
        ((r.parameters.zip x.parameters).reverse.lookup n).or (r.globals.find? n)) ∧
      (∀ o, r.apply x output = (o, .ok false) ↔
        (r.bind x = none ∨ ∃ c ∈ r.condition, c.holds (r.scope x) = .ok false) ∧ o = output) ∧
      (∀ o, r.apply x output = (o, .ok true) ↔
        r.Matches x ∧ ∃ block, Template.Give (r.scope x) r.successors block ∧
          o = output ++ block) ∧
      ∀ o e, r.apply x output = (o, .error e) ↔
        (r.Balks x e ∧ o = output) ∨
          r.Matches x ∧ ∃ made, Template.FailBehind (r.scope x) r.successors made e ∧
            o = output ++ made := by
  refine ⟨fun env => bind_eq_some_iff, Environment.find?_overlay _ _, fun o => ?_,
    fun o => apply_eq_true_iff, fun o e => apply_eq_error_iff⟩
  rw [← passesOver_iff]
  exact apply_eq_false_iff

/-- The rule `A(x) --> B(x); C(1 / x, x); D`, whose second successor fails for zero. -/
def dividing : Rule :=
  ⟨"A", ["x"], none, [⟨"B", [⟨"x", .name "x"⟩]⟩,
    ⟨"C", [⟨"1 / x", .binary .divide (.literal 1) (.name "x")⟩, ⟨"x", .name "x"⟩]⟩, ⟨"D", []⟩],
    .empty⟩

example : (dividing.apply ⟨"A", [0]⟩ [⟨"E", []⟩]).1.map Symbol.name = ["E", "B"] ∧
    errorAnd (fun _ => true) (dividing.apply ⟨"A", [0]⟩ [⟨"E", []⟩]).2 = true := by
  decide +kernel

end Rule

end GrowthGrammar
