import GrowthGrammar.Proofs.Growth.Competition
import Mathlib.Algebra.GroupWithZero.Nat

/-!
# First-match substitution

What becomes of a symbol is said by `Substitution`: the first rule that matches it gives its
successors, a symbol that no rule matches stays, and what fails on the way there fails.  A rule that
does not match leaves the symbol to the next (`Rule.rewrite_eq_none_iff`).  Main statement: a
generation substitutes symbol by symbol and fails at the leftmost symbol that fails, whatever rules
stand behind a match (`rewriteWord_substitution`).
-/

namespace GrowthGrammar

variable {r : Rule} {x : Symbol} {e : Error}

/-! ## One rule -/

namespace Rule

/-- The environment in which a rule treats a symbol. -/
def scope (r : Rule) (x : Symbol) : Environment :=
  r.globals.overlay (r.parameters.zip x.parameters)

/-- The rule is one for symbols of this name with so many parameters. -/
def IsFor (r : Rule) (x : Symbol) : Prop :=
  r.name = x.name ∧ (r.parameters = [] ∨ r.parameters.length = x.parameters.length)

/-- The rule is for the symbol, and its condition holds if it has one. -/
def Matches (r : Rule) (x : Symbol) : Prop :=
  r.IsFor x ∧ ∀ c ∈ r.condition, c.holds (r.scope x) = .ok true

/-- The rule is not for the symbol, or its condition does not hold. -/
def PassesOver (r : Rule) (x : Symbol) : Prop :=
  r.IsFor x → ∃ c ∈ r.condition, c.holds (r.scope x) = .ok false

/-- The rule is for the symbol, and its condition fails. -/
def Balks (r : Rule) (x : Symbol) (e : Error) : Prop :=
  r.IsFor x ∧ ∃ c ∈ r.condition, c.holds (r.scope x) = .error e

/-- The symbols that the successors of a rule are for a symbol. -/
def Yields (r : Rule) (x : Symbol) (block : List Symbol) : Prop :=
  List.Forall₂ (fun t s => s.name = t.name ∧
    List.Forall₂ (fun q v => q.evaluate (r.scope x) = .ok v) t.parameters s.parameters)
    r.successors block

/-- The first parameter of the successors that fails for a symbol, in the order in which they are
written, fails with an error. -/
def Breaks (r : Rule) (x : Symbol) (e : Error) : Prop :=
  FailsFirst (fun q => q.evaluate (r.scope x)) (fun q => q.evaluate (r.scope x) = .error e)
    (r.successors.flatMap Template.parameters)

theorem bind_of_isFor (h : r.IsFor x) : r.bind x = some (r.scope x) :=
  if_pos (fits_iff.2 h)

theorem allows_eq_of_mem {c : Condition} (hc : c ∈ r.condition) (env : Environment) :
    r.allows env = c.holds env := by
  rw [allows, Option.mem_def.1 hc]

theorem allows_of_matches (h : r.Matches x) : r.allows (r.scope x) = .ok true := by
  unfold allows
  split
  · rfl
  · rename_i c hc
    exact h.2 c hc

/-- A rule matches a symbol, passes over it, or balks at it. -/
theorem matches_or (r : Rule) (x : Symbol) :
    r.Matches x ∨ r.PassesOver x ∨ ∃ e, r.Balks x e := by
  by_cases hfor : r.IsFor x
  · cases hc : r.condition with
    | none => exact Or.inl ⟨hfor, by simp [hc]⟩
    | some c =>
      cases hholds : c.holds (r.scope x) with
      | error e => exact Or.inr (Or.inr ⟨e, hfor, c, hc, hholds⟩)
      | ok b =>
        cases b with
        | false => exact Or.inr (Or.inl fun _ => ⟨c, hc, hholds⟩)
        | true => exact Or.inl ⟨hfor, by simp [hc, hholds]⟩
  · exact Or.inr (Or.inl fun h => absurd h hfor)

theorem rewrite_of_matches (h : r.Matches x) :
    r.rewrite x = r.successors.mapM (Template.generate (r.scope x)) >>= fun made =>
      .ok (some made) := by
  simp only [rewrite, bind_of_isFor h.1, allows_of_matches h, ok_bind, if_true]
  rfl

theorem rewrite_of_passesOver (h : r.PassesOver x) : r.rewrite x = .ok none := by
  by_cases hfor : r.IsFor x
  · obtain ⟨c, hc, hholds⟩ := h hfor
    simp only [rewrite, bind_of_isFor hfor, allows_eq_of_mem hc, hholds, ok_bind]
    rfl
  · exact rewrite_of_not_fits fun hfits => hfor (fits_iff.1 hfits)

theorem rewrite_of_balks (h : r.Balks x e) : r.rewrite x = .error e := by
  obtain ⟨hfor, c, hc, hholds⟩ := h
  simp only [rewrite, bind_of_isFor hfor, allows_eq_of_mem hc, hholds]
  rfl

/-- A rule leaves a symbol to the others exactly if it passes over it. -/
theorem rewrite_eq_none_iff : r.rewrite x = .ok none ↔ r.PassesOver x := by
  refine ⟨fun h => ?_, rewrite_of_passesOver⟩
  rcases matches_or r x with hmatch | hpass | ⟨e, hbalk⟩
  · rw [rewrite_of_matches hmatch] at h
    obtain ⟨made, -, h⟩ := bind_eq_ok.1 h
    cases h
  · exact hpass
  · rw [rewrite_of_balks hbalk] at h
    cases h

end Rule

/-! ## Successors -/

theorem Template.generate_eq_ok {t : Template} {env : Environment} {s : Symbol} :
    t.generate env = .ok s ↔ s.name = t.name ∧
      List.Forall₂ (fun q v => q.evaluate env = .ok v) t.parameters s.parameters := by
  rw [generate, bind_eq_ok]
  constructor
  · rintro ⟨ps, hps, h⟩
    obtain rfl := Except.ok.inj h
    exact ⟨rfl, mapM_eq_ok_iff.1 hps⟩
  · rintro ⟨hname, hps⟩
    refine ⟨s.parameters, mapM_eq_ok_iff.2 hps, ?_⟩
    rw [← hname]
    rfl

theorem Template.exists_generate_iff {t : Template} {env : Environment} :
    (∃ s, t.generate env = .ok s) ↔ ∀ q ∈ t.parameters, ∃ v, q.evaluate env = .ok v := by
  rw [← exists_mapM_eq_ok_iff]
  constructor
  · rintro ⟨s, h⟩
    obtain ⟨ps, hps, -⟩ := bind_eq_ok.1 h
    exact ⟨ps, hps⟩
  · rintro ⟨ps, hps⟩
    exact ⟨⟨t.name, ps⟩, bind_eq_ok.2 ⟨ps, hps, rfl⟩⟩

theorem Template.generate_eq_error {t : Template} {env : Environment} :
    t.generate env = .error e ↔
      FailsFirst (fun q => q.evaluate env) (fun q => q.evaluate env = .error e) t.parameters := by
  rw [generate, bind_eq_error_left (fun _ h => by cases h)]
  exact mapM_eq_error_iff fun _ _ => Iff.rfl

/-- Successors fail at the first of all their parameters that fails. -/
theorem mapM_generate_eq_error {ts : List Template} {env : Environment} :
    ts.mapM (Template.generate env) = .error e ↔
      FailsFirst (fun q => q.evaluate env) (fun q => q.evaluate env = .error e)
        (ts.flatMap Template.parameters) := by
  induction ts with
  | nil => exact ⟨fun h => (by cases h), fun h => absurd h not_failsFirst_nil⟩
  | cons t ts ih =>
    rw [List.mapM_cons, List.flatMap_cons, failsFirst_append, ← ih, ← Template.generate_eq_error,
      ← Template.exists_generate_iff, bind_eq_error]
    refine or_congr_right ⟨?_, ?_⟩
    · rintro ⟨s, hs, h⟩
      rw [bind_eq_error_left (fun _ h => by cases h)] at h
      exact ⟨⟨s, hs⟩, h⟩
    · rintro ⟨⟨s, hs⟩, h⟩
      exact ⟨s, hs, bind_eq_error.2 (Or.inl h)⟩

theorem Rule.mapM_generate_eq_ok {block : List Symbol} :
    r.successors.mapM (Template.generate (r.scope x)) = .ok block ↔ r.Yields x block := by
  rw [mapM_eq_ok_iff, Yields]
  simp only [Template.generate_eq_ok]

/-! ## One symbol -/

/-- What becomes of a symbol by rules: the block in its place, or an error. -/
inductive Substitution (rules : List Rule) (x : Symbol) : Except Error (List Symbol) → Prop
  /-- No rule matches. -/
  | kept (h : ∀ r ∈ rules, r.PassesOver x) : Substitution rules x (.ok [x])
  /-- The first rule that matches gives its successors. -/
  | replaced {before after : List Rule} {r : Rule} {block : List Symbol}
      (hrules : rules = before ++ r :: after) (hbefore : ∀ q ∈ before, q.PassesOver x)
      (hmatch : r.Matches x) (hblock : r.Yields x block) : Substitution rules x (.ok block)
  /-- A condition fails before a rule matches. -/
  | balked {before after : List Rule} {r : Rule} {e : Error}
      (hrules : rules = before ++ r :: after) (hbefore : ∀ q ∈ before, q.PassesOver x)
      (hbalk : r.Balks x e) : Substitution rules x (.error e)
  /-- A parameter of the first rule that matches fails. -/
  | broken {before after : List Rule} {r : Rule} {e : Error}
      (hrules : rules = before ++ r :: after) (hbefore : ∀ q ∈ before, q.PassesOver x)
      (hmatch : r.Matches x) (hbreak : r.Breaks x e) : Substitution rules x (.error e)

theorem blockOf_append_of_passesOver {before : List Rule} (h : ∀ q ∈ before, q.PassesOver x)
    (rules : List Rule) : blockOf x (before ++ rules) = blockOf x rules := by
  induction before with
  | nil => rfl
  | cons q before ih =>
    obtain ⟨hq, hbefore⟩ := List.forall_mem_cons.1 h
    rw [List.cons_append, blockOf, Rule.rewrite_of_passesOver hq]
    exact ih hbefore

theorem blockOf_of_substitution {rules : List Rule} {res : Except Error (List Symbol)}
    (h : Substitution rules x res) : blockOf x rules = res := by
  cases h with
  | kept h =>
    have happend := blockOf_append_of_passesOver h []
    rwa [List.append_nil] at happend
  | replaced hrules hbefore hmatch hblock =>
    rw [hrules, blockOf_append_of_passesOver hbefore, blockOf, Rule.rewrite_of_matches hmatch,
      Rule.mapM_generate_eq_ok.2 hblock]
    rfl
  | balked hrules hbefore hbalk =>
    rw [hrules, blockOf_append_of_passesOver hbefore, blockOf, Rule.rewrite_of_balks hbalk]
  | broken hrules hbefore hmatch hbreak =>
    rw [hrules, blockOf_append_of_passesOver hbefore, blockOf, Rule.rewrite_of_matches hmatch,
      mapM_generate_eq_error.2 hbreak]
    rfl

/-- A rule that passes over a symbol may stand in front. -/
theorem Substitution.cons {rules : List Rule} {res : Except Error (List Symbol)}
    (hr : r.PassesOver x) (h : Substitution rules x res) : Substitution (r :: rules) x res := by
  have hfront {before : List Rule} (hbefore : ∀ q ∈ before, q.PassesOver x) :
      ∀ q ∈ r :: before, q.PassesOver x := List.forall_mem_cons.2 ⟨hr, hbefore⟩
  cases h with
  | kept h => exact .kept (hfront h)
  | replaced hrules hbefore hmatch hblock =>
    exact .replaced (congrArg (r :: ·) hrules) (hfront hbefore) hmatch hblock
  | balked hrules hbefore hbalk => exact .balked (congrArg (r :: ·) hrules) (hfront hbefore) hbalk
  | broken hrules hbefore hmatch hbreak =>
    exact .broken (congrArg (r :: ·) hrules) (hfront hbefore) hmatch hbreak

theorem exists_substitution (rules : List Rule) (x : Symbol) :
    ∃ res, Substitution rules x res := by
  induction rules with
  | nil => exact ⟨_, .kept fun _ h => absurd h List.not_mem_nil⟩
  | cons r rules ih =>
    have hnone : ∀ q ∈ ([] : List Rule), q.PassesOver x := fun _ h => absurd h List.not_mem_nil
    rcases Rule.matches_or r x with hmatch | hpass | ⟨e, hbalk⟩
    · cases hmade : r.successors.mapM (Template.generate (r.scope x)) with
      | ok block => exact ⟨_, .replaced rfl hnone hmatch (Rule.mapM_generate_eq_ok.1 hmade)⟩
      | error e => exact ⟨_, .broken rfl hnone hmatch (mapM_generate_eq_error.1 hmade)⟩
    · obtain ⟨res, hres⟩ := ih
      exact ⟨res, hres.cons hpass⟩
    · exact ⟨_, .balked rfl hnone hbalk⟩

theorem blockOf_eq_iff {rules : List Rule} {res : Except Error (List Symbol)} :
    blockOf x rules = res ↔ Substitution rules x res := by
  refine ⟨?_, blockOf_of_substitution⟩
  rintro rfl
  obtain ⟨res, hres⟩ := exists_substitution rules x
  rwa [blockOf_of_substitution hres]

/-- Rules behind one that matches or balks make no difference. -/
theorem blockOf_of_not_passesOver {before : List Rule} (h : ∀ q ∈ before, q.PassesOver x)
    (hr : ¬r.PassesOver x) (after after' : List Rule) :
    blockOf x (before ++ r :: after) = blockOf x (before ++ r :: after') := by
  rw [blockOf_append_of_passesOver h, blockOf_append_of_passesOver h, blockOf, blockOf]
  cases hrewrite : r.rewrite x with
  | error e => rfl
  | ok o =>
    cases o with
    | none => exact absurd (Rule.rewrite_eq_none_iff.1 hrewrite) hr
    | some block => rfl

/-! ## The loop in place -/

/-- Appends what becomes of a symbol to an output: what the first rule that answers appends, or the
symbol.  A rule that fails may have appended something already. -/
def appendBlock (x : Symbol) : List Rule → List Symbol → List Symbol × Option Error
  | [], output => (output ++ [x], none)
  | r :: rules, output =>
    match r.apply x output with
    | (output, .ok true) => (output, none)
    | (output, .ok false) => appendBlock x rules output
    | (output, .error e) => (output, some e)

/-- Appends what becomes of the symbols of a word, one after the other. -/
def appendWord (rules : List Rule) : List Symbol → List Symbol → Except Error (List Symbol)
  | [], output => .ok output
  | x :: word, output =>
    match appendBlock x rules output with
    | (output, none) => appendWord rules word output
    | (_, some e) => .error e

theorem Template.generateAll_of_ok {ts : List Template} {env : Environment} {made : List Symbol}
    (h : ts.mapM (generate env) = .ok made) : generateAll env ts = (made, none) := by
  induction ts generalizing made with
  | nil =>
    obtain rfl := Except.ok.inj h
    rfl
  | cons t ts ih =>
    rw [List.mapM_cons] at h
    obtain ⟨s, hs, h⟩ := bind_eq_ok.1 h
    obtain ⟨rest, hrest, h⟩ := bind_eq_ok.1 h
    obtain rfl := Except.ok.inj h
    simp only [generateAll, hs, ih hrest]

theorem Template.generateAll_of_error {ts : List Template} {env : Environment}
    (h : ts.mapM (generate env) = .error e) : ∃ made, generateAll env ts = (made, some e) := by
  induction ts with
  | nil => cases h
  | cons t ts ih =>
    rw [List.mapM_cons] at h
    rcases bind_eq_error.1 h with hs | ⟨s, hs, h⟩
    · exact ⟨[], by simp only [generateAll, hs]⟩
    · rw [bind_eq_error_left (fun _ h => by cases h)] at h
      obtain ⟨made, hmade⟩ := ih h
      exact ⟨s :: made, by simp only [generateAll, hs, hmade]⟩

namespace Rule

theorem apply_of_none (h : r.rewrite x = .ok none) (output : List Symbol) :
    r.apply x output = (output, .ok false) := by
  unfold rewrite at h
  unfold apply
  cases hbind : r.bind x with
  | none => rfl
  | some env =>
    rw [hbind] at h
    obtain ⟨b, hb, h⟩ := bind_eq_ok.1 h
    split_ifs at h with hholds
    · obtain ⟨made, -, h⟩ := bind_eq_ok.1 h
      cases h
    · rw [Bool.not_eq_true] at hholds
      simp only [hb, hholds]

theorem apply_of_some {block : List Symbol} (h : r.rewrite x = .ok (some block))
    (output : List Symbol) : r.apply x output = (output ++ block, .ok true) := by
  unfold rewrite at h
  unfold apply
  cases hbind : r.bind x with
  | none =>
    rw [hbind] at h
    cases h
  | some env =>
    rw [hbind] at h
    obtain ⟨b, hb, h⟩ := bind_eq_ok.1 h
    split_ifs at h with hholds
    · obtain ⟨made, hmade, h⟩ := bind_eq_ok.1 h
      obtain rfl := Option.some.inj (Except.ok.inj h)
      simp only [hb, hholds, Template.generateAll_of_ok hmade]
    · cases h

theorem apply_of_error (h : r.rewrite x = .error e) (output : List Symbol) :
    ∃ made, r.apply x output = (output ++ made, .error e) := by
  unfold rewrite at h
  unfold apply
  cases hbind : r.bind x with
  | none =>
    rw [hbind] at h
    cases h
  | some env =>
    rw [hbind] at h
    rcases bind_eq_error.1 h with hb | ⟨b, hb, h⟩
    · exact ⟨[], by simp only [hb, List.append_nil]⟩
    · split_ifs at h with hholds
      · rw [bind_eq_error_left (fun _ h => by cases h)] at h
        obtain ⟨made, hmade⟩ := Template.generateAll_of_error h
        exact ⟨made, by simp only [hb, hholds, hmade]⟩
      · cases h

end Rule

theorem appendBlock_of_ok {rules : List Rule} {block : List Symbol}
    (h : blockOf x rules = .ok block) (output : List Symbol) :
    appendBlock x rules output = (output ++ block, none) := by
  fun_induction blockOf x rules with
  | case1 =>
    obtain rfl := Except.ok.inj h
    rfl
  | case2 r rules e hr => cases h
  | case3 r rules made hr =>
    obtain rfl := Except.ok.inj h
    simp only [appendBlock, Rule.apply_of_some hr]
  | case4 r rules hr ih => simp only [appendBlock, Rule.apply_of_none hr, ih h]

theorem appendBlock_of_error {rules : List Rule} (h : blockOf x rules = .error e)
    (output : List Symbol) : ∃ made, appendBlock x rules output = (output ++ made, some e) := by
  fun_induction blockOf x rules with
  | case1 => cases h
  | case2 r rules e' hr =>
    obtain rfl := Except.error.inj h
    obtain ⟨made, hmade⟩ := Rule.apply_of_error hr output
    exact ⟨made, by simp only [appendBlock, hmade]⟩
  | case3 r rules made hr => cases h
  | case4 r rules hr ih => simpa only [appendBlock, Rule.apply_of_none hr] using ih h

/-- What the loop appends to an output in place is the word that follows. -/
theorem appendWord_eq (rules : List Rule) (word output : List Symbol) :
    appendWord rules word output = (rewriteWord rules word).map (output ++ ·) := by
  induction word generalizing output with
  | nil =>
    rw [appendWord, rewriteWord, List.flatMapM_nil]
    exact congrArg Except.ok (List.append_nil output).symm
  | cons x word ih =>
    rw [rewriteWord] at ih ⊢
    rw [appendWord, List.flatMapM_cons]
    cases hblock : blockOf x rules with
    | error e =>
      obtain ⟨made, hmade⟩ := appendBlock_of_error hblock output
      rw [hmade]
      rfl
    | ok block =>
      rw [appendBlock_of_ok hblock, ok_bind]
      simp only [ih]
      cases word.flatMapM (blockOf · rules) with
      | error e => rfl
      | ok rest => exact congrArg Except.ok (List.append_assoc output block rest)

/-! ## Main statement -/

theorem rewriteWord_eq_ok {rules : List Rule} {word made : List Symbol} :
    rewriteWord rules word = .ok made ↔
      ∃ blocks, List.Forall₂ (fun x block => Substitution rules x (.ok block)) word blocks ∧
        made = blocks.flatten := by
  induction word generalizing made with
  | nil =>
    rw [rewriteWord, List.flatMapM_nil]
    constructor
    · intro h
      obtain rfl := Except.ok.inj h
      exact ⟨[], .nil, rfl⟩
    · rintro ⟨blocks, hblocks, rfl⟩
      cases hblocks
      rfl
  | cons x word ih =>
    rw [rewriteWord] at ih ⊢
    rw [List.flatMapM_cons, bind_eq_ok]
    constructor
    · rintro ⟨block, hblock, h⟩
      obtain ⟨rest, hrest, h⟩ := bind_eq_ok.1 h
      obtain rfl := Except.ok.inj h
      obtain ⟨blocks, hblocks, rfl⟩ := ih.1 hrest
      exact ⟨block :: blocks, .cons (blockOf_eq_iff.1 hblock) hblocks, rfl⟩
    · rintro ⟨blocks, hblocks, rfl⟩
      cases hblocks with
      | cons hblock hrest =>
        exact ⟨_, blockOf_eq_iff.2 hblock, bind_eq_ok.2 ⟨_, ih.2 ⟨_, hrest, rfl⟩, rfl⟩⟩

theorem rewriteWord_eq_error {rules : List Rule} {word : List Symbol} :
    rewriteWord rules word = .error e ↔
      ∃ before x after, word = before ++ x :: after ∧
        (∀ y ∈ before, ∃ block, Substitution rules y (.ok block)) ∧
        Substitution rules x (.error e) := by
  rw [rewriteWord, flatMapM_eq_error_iff fun _ _ => blockOf_eq_iff]
  simp only [FailsFirst, blockOf_eq_iff]

/-- A generation, by the loop in place or by blocks, is the substitution of the symbols of a word in
their order; it fails at the leftmost symbol whose substitution fails.  Behind the first rule that
does not pass over a symbol, all other rules would do as well. -/
theorem rewriteWord_substitution (rules : List Rule) (word : List Symbol) :
    appendWord rules word [] = rewriteWord rules word ∧
      (∀ made, rewriteWord rules word = .ok made ↔
        ∃ blocks, List.Forall₂ (fun x block => Substitution rules x (.ok block)) word blocks ∧
          made = blocks.flatten ∧ made.length = (blocks.map List.length).sum) ∧
      (∀ e, rewriteWord rules word = .error e ↔
        ∃ before x after, word = before ++ x :: after ∧
          (∀ y ∈ before, ∃ block, Substitution rules y (.ok block)) ∧
          Substitution rules x (.error e)) ∧
      ∀ x before r after, rules = before ++ r :: after → (∀ q ∈ before, q.PassesOver x) →
        ¬r.PassesOver x → ∀ after', blockOf x rules = blockOf x (before ++ r :: after') := by
  refine ⟨?_, fun made => ?_, fun e => rewriteWord_eq_error, ?_⟩
  · rw [appendWord_eq]
    cases rewriteWord rules word <;> rfl
  · rw [rewriteWord_eq_ok]
    refine exists_congr fun blocks => and_congr_right fun _ => ⟨?_, And.left⟩
    rintro rfl
    exact ⟨rfl, List.length_flatten⟩
  · rintro x before r after rfl hbefore hr after'
    exact blockOf_of_not_passesOver hbefore hr after after'

/-- The rule `A(x) : x < 1 --> C`.  Unlike `fading` it divides by nothing, so it never fails. -/
def capping : Rule :=
  ⟨"A", ["x"], some ⟨"x < 1", .comparison (.name "x") [(.less, .literal 1)]⟩, [⟨"C", []⟩], .empty⟩

theorem rewriteWord_substitution_capping :
    (∃ blocks, List.Forall₂ (fun x block => Substitution [capping, Growth.fading] x (.ok block))
        [⟨"A", [0]⟩, ⟨"A", [1]⟩, ⟨"B", [1]⟩] blocks ∧ (blocks.map List.length).sum = 4) ∧
      (∃ e, Substitution [Growth.fading, capping] ⟨"A", [0]⟩ (.error e)) ∧
      ¬capping.PassesOver ⟨"A", [0]⟩ ∧
      blockOf ⟨"A", [0]⟩ [capping, Growth.fading] = blockOf ⟨"A", [0]⟩ [capping] := by
  have hmade : okAnd (fun made => made.length == 4)
      (rewriteWord [capping, Growth.fading] [⟨"A", [0]⟩, ⟨"A", [1]⟩, ⟨"B", [1]⟩]) = true := by
    decide +kernel
  have hfail : errorAnd (fun _ => true)
      (rewriteWord [Growth.fading, capping] [⟨"A", [0]⟩]) = true := by
    decide +kernel
  have hpass : ¬capping.PassesOver ⟨"A", [0]⟩ := by
    have hrewrite : okAnd Option.isNone (capping.rewrite ⟨"A", [0]⟩) = false := by decide +kernel
    intro h
    rw [Rule.rewrite_of_passesOver h] at hrewrite
    cases hrewrite
  obtain ⟨made, hmade, hlength⟩ := okAnd_iff.1 hmade
  obtain ⟨e, hfail, -⟩ := errorAnd_iff.1 hfail
  obtain ⟨-, hok, -, hbehind⟩ := rewriteWord_substitution [capping, Growth.fading]
    [⟨"A", [0]⟩, ⟨"A", [1]⟩, ⟨"B", [1]⟩]
  obtain ⟨-, -, herror, -⟩ := rewriteWord_substitution [Growth.fading, capping] [⟨"A", [0]⟩]
  obtain ⟨blocks, hblocks, rfl, hsum⟩ := (hok made).1 hmade
  refine ⟨⟨blocks, hblocks, hsum ▸ beq_iff_eq.1 hlength⟩, ?_, hpass, ?_⟩
  · obtain ⟨before, x, after, hword, -, hx⟩ := (herror e).1 hfail
    obtain ⟨rfl, rfl, -⟩ : before = [] ∧ x = ⟨"A", [0]⟩ ∧ after = [] := by
      cases before with
      | nil => simpa [eq_comm] using hword
      | cons y before => simp at hword
    exact ⟨e, hx⟩
  · exact hbehind ⟨"A", [0]⟩ [] capping [Growth.fading] rfl (fun _ h => absurd h List.not_mem_nil)
      hpass []

end GrowthGrammar
