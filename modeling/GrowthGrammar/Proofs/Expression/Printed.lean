import GrowthGrammar.Proofs.Expression.Phrase
import GrowthGrammar.Proofs.Fallible
import GrowthGrammar.Quantity

/-!
# What is read from the text of a tree

The text of a tree is read as a condition, and as a quantity if the tree does not answer yes or no
by its form, and these come to what the tree comes to (`Tree.readsBack`).  That needs that no
variable has one of two names which expressions treat on their own (`hostNames`): these are read as
something else (`Tree.not_readsBack`).
-/

namespace GrowthGrammar

open GrowthGrammar.Expression GrowthGrammar.Number GrowthGrammar.Text

/-- The names that mean something in every expression, although they are none of the constants and
functions. -/
def hostNames : List String :=
  ["__debug__", "__builtins__"]

/-- The expression says the same as the tree. -/
structure Expr.Denotes (x : Expr) (e : Tree) : Prop where
  value : ∀ env, (x.eval env).toOption = e.value env
  occurring : x.occurring = e.identifiers
  isLogical : x.isLogical = e.isLogical

/-- A spelling of operators with literals as symbols write them. -/
def Style.plain (spelling : Spelling) : Style where
  spelling := spelling
  number x := numberChars x.value
  writes x := by
    obtain ⟨cs, hcs, htext⟩ := numberChars_finite x.finite
    rw [htext, x.unsigned]
    exact hcs

namespace Tree

variable {env : Environment} {n : String}

/-! ## Names -/

theorem builtinValue?_eq (h : n ∉ hostNames) : builtinValue? n = builtin? n := by
  simp only [hostNames, List.mem_cons, List.not_mem_nil, or_false, not_or] at h
  unfold builtinValue? builtin? constants
  cases Builtin.ofName? n with
  | some f => rfl
  | none =>
    simp only [h.2, if_false, Option.map_none, Option.none_or, List.lookup]
    split_ifs with hpi he htrue hfalse
    · subst hpi
      rfl
    · subst he
      rfl
    · subst htrue
      rfl
    · subst hfalse
      rfl
    · simp only [beq_false_of_ne hpi, beq_false_of_ne he, beq_false_of_ne htrue,
        beq_false_of_ne hfalse]

theorem toOption_valueOf (h : n ∉ hostNames) :
    (Expr.valueOf env n).toOption = ((env.find? n).map .double).or (builtin? n) := by
  have hdebug : n ≠ "__debug__" := fun hn => h (hn ▸ by decide)
  rw [Expr.valueOf, if_neg hdebug, builtinValue?_eq h]
  cases env.find? n with
  | some x => rfl
  | none => cases builtin? n <;> rfl

/-! ## Connectives -/

theorem eval_join (op : Connective) (x f : Expr) (xs : List Expr) :
    (Expr.join op x (xs ++ [f])).eval env =
      (Expr.join op x xs).eval env >>= fun a =>
        if Expr.decides op a then .ok a else f.eval env := by
  induction xs generalizing x with
  | nil => rfl
  | cons y ys ih =>
    rw [List.cons_append, Expr.join, Expr.join, Expr.eval, Expr.eval, ih, bind_assoc]
    refine bind_congr fun a => ?_
    cases hdecides : Expr.decides op a with
    | true => simp [pure, Except.pure, ok_bind, hdecides]
    | false => simp

theorem occurring_join (op : Connective) (x f : Expr) (xs : List Expr) :
    (Expr.join op x (xs ++ [f])).occurring = (Expr.join op x xs).occurring ++ f.occurring := by
  induction xs generalizing x with
  | nil => rfl
  | cons y ys ih =>
    rw [List.cons_append, Expr.join, Expr.join, Expr.occurring, Expr.occurring, ih,
      List.append_assoc]

/-- One more operand of a connective. -/
theorem denotes_join {op : Connective} {x f : Expr} {xs : List Expr} {l r : Tree}
    (hl : (Expr.join op x xs).Denotes l) (hr : f.Denotes r) :
    (Expr.join op x (xs ++ [f])).Denotes (connective op l r) where
  value env := by
    have hright := hr.value env
    rw [eval_join, toOption_bind, hl.value env]
    cases op with
    | and =>
      rw [value]
      refine bind_congr fun a => ?_
      cases ha : a.isTrue <;> simp [Expr.decides, ha, toOption_ok, hright]
    | or =>
      rw [value]
      refine bind_congr fun a => ?_
      cases ha : a.isTrue <;> simp [Expr.decides, ha, toOption_ok, hright]
  occurring := by
    rw [occurring_join, hl.occurring, hr.occurring, identifiers]
  isLogical := by
    cases xs <;> rfl

/-! ## Phrases and trees -/

/-- The operands of a phrase, as expressions, are those of a tree. -/
structure Meant (s : Style) (e : Tree) : Prop where
  check : ∃ x : Expr, (∀ depth, (phrase s e).check depth = .ok x) ∧ x.Denotes e
  operands : ∀ op, ∃ x xs, (∀ depth, Phrase.checkAll depth ((phrase s e).operandsOf op) =
    .ok (x :: xs)) ∧ (Expr.join op x xs).Denotes e

variable {s : Style}

theorem checkAll_cons {depth : ℕ} {p : Phrase} {ps : List Phrase} {x : Expr} {xs : List Expr}
    (hp : p.check depth = .ok x) (hps : Phrase.checkAll depth ps = .ok xs) :
    Phrase.checkAll depth (p :: ps) = .ok (x :: xs) := by
  rw [Phrase.checkAll, hp, hps]
  rfl

theorem checkAll_append {depth : ℕ} {ps : List Phrase} {q : Phrase} {xs : List Expr} {y : Expr}
    (hps : Phrase.checkAll depth ps = .ok xs) (hq : q.check depth = .ok y) :
    Phrase.checkAll depth (ps ++ [q]) = .ok (xs ++ [y]) := by
  induction ps generalizing xs with
  | nil =>
    obtain rfl : [] = xs := Except.ok.inj hps
    exact checkAll_cons hq rfl
  | cons p ps ih =>
    rw [Phrase.checkAll] at hps
    cases hp : p.check depth with
    | error f =>
      rw [hp] at hps
      cases hall : Phrase.checkAll depth ps <;> rw [hall] at hps <;> cases hps
    | ok x =>
      cases hall : Phrase.checkAll depth ps with
      | error f =>
        rw [hp, hall] at hps
        cases hps
      | ok ys =>
        rw [hp, hall] at hps
        obtain rfl : x :: ys = xs := Except.ok.inj hps
        exact checkAll_cons hp (ih hall)

theorem Meant.of_check {e : Tree} (hlevel : 1 < e.level)
    (h : ∃ x : Expr, (∀ depth, (phrase s e).check depth = .ok x) ∧ x.Denotes e) : Meant s e := by
  refine ⟨h, fun op => ?_⟩
  obtain ⟨x, hcheck, hdenotes⟩ := h
  refine ⟨x, [], fun depth => ?_, hdenotes⟩
  have hne : e.level ≠ op.level := by
    have hle : op.level ≤ 1 := by cases op <;> decide
    omega
  rw [operandsOf_phrase s hne]
  exact checkAll_cons (hcheck depth) rfl

/-- The expressions of the operands behind the first comparison of a chain. -/
theorem meant_links {links : List (Comparator × Tree)} (h : ∀ link ∈ links, Meant s link.2) :
    ∃ xs, (∀ depth, knownLinks depth (linkPhrases s links) = .ok (links.map Prod.fst)) ∧
      (∀ depth, Phrase.checkLinks depth (linkPhrases s links) = .ok xs) ∧
      (∀ env a, (Expr.evalLinks env a ((links.map Prod.fst).zip xs)).toOption =
        chain env a links) ∧
      Expr.linkVariables ((links.map Prod.fst).zip xs) = linkIdentifiers links := by
  induction links with
  | nil => exact ⟨[], fun _ => rfl, fun _ => rfl, fun _ _ => rfl, rfl⟩
  | cons link r ih =>
    obtain ⟨op, e⟩ := link
    obtain ⟨he, hr⟩ := List.forall_mem_cons.1 h
    obtain ⟨x, hcheck, hdenotes⟩ := he.check
    obtain ⟨xs, hknown, hlinks, hvalue, hvariables⟩ := ih hr
    refine ⟨x :: xs, fun depth => ?_, fun depth => ?_, fun env a => ?_, ?_⟩
    · rw [linkPhrases, knownLinks, hknown]
      rfl
    · rw [linkPhrases, Phrase.checkLinks, hcheck, hlinks]
      rfl
    · rw [List.map_cons, List.zip_cons_cons, Expr.evalLinks, toOption_bind, hdenotes.value, chain]
      refine bind_congr fun b => ?_
      rw [toOption_bind, Expr.lift, toOption_mapError]
      refine bind_congr fun holds => ?_
      cases holds
      · rfl
      · exact hvalue env b
    · rw [List.map_cons, List.zip_cons_cons, Expr.linkVariables, hdenotes.occurring, hvariables,
        linkIdentifiers]

/-- The expressions of arguments. -/
theorem meant_arguments {args : List Tree} (h : ∀ e ∈ args, Meant s e) :
    ∃ xs, (∀ depth, Phrase.checkAll depth (argumentPhrases s args) = .ok xs) ∧
      (∀ env, (Expr.evalAll env xs).toOption = values env args) ∧
      Expr.listVariables xs = argumentIdentifiers args := by
  induction args with
  | nil => exact ⟨[], fun _ => rfl, fun _ => rfl, rfl⟩
  | cons e r ih =>
    obtain ⟨he, hr⟩ := List.forall_mem_cons.1 h
    obtain ⟨x, hcheck, hdenotes⟩ := he.check
    obtain ⟨xs, hall, hvalues, hvariables⟩ := ih hr
    refine ⟨x :: xs, fun depth => checkAll_cons (hcheck depth) (hall depth), fun env => ?_, ?_⟩
    · rw [Expr.evalAll, toOption_bind, hdenotes.value, values]
      refine bind_congr fun v => ?_
      rw [toOption_bind, hvalues]
      rfl
    · rw [Expr.listVariables, hdenotes.occurring, hvariables, argumentIdentifiers]

theorem mem_linkIdentifiers {links : List (Comparator × Tree)} {link : Comparator × Tree}
    (hlink : link ∈ links) (hn : n ∈ link.2.identifiers) : n ∈ linkIdentifiers links := by
  induction links with
  | nil => cases hlink
  | cons first r ih =>
    rw [linkIdentifiers, List.mem_append]
    rcases List.mem_cons.1 hlink with rfl | hlink
    · exact Or.inl hn
    · exact Or.inr (ih hlink)

theorem mem_argumentIdentifiers {args : List Tree} {e : Tree} (he : e ∈ args)
    (hn : n ∈ e.identifiers) : n ∈ argumentIdentifiers args := by
  induction args with
  | nil => cases he
  | cons first r ih =>
    rw [argumentIdentifiers, List.mem_append]
    rcases List.mem_cons.1 he with rfl | he
    · exact Or.inl hn
    · exact Or.inr (ih he)

theorem not_mem_constantWords (n : Identifier) : n.text ∉ constantWords := by
  intro hmem
  have hreserved : constantWords.all isReserved = true := by decide
  have hn := (isVariableName_iff.1 n.isName).2
  rw [String.ofList_toList] at hn
  rw [List.all_eq_true.1 hreserved _ hmem] at hn
  cases hn

theorem meant_number (x : Literal) : Meant s (number x) :=
  .of_check (by simp [level])
    ⟨.literal x.value, (phrase_number s x).2, ⟨fun _ => rfl, rfl, rfl⟩⟩

theorem meant_name {n : Identifier} (h : n.text ∉ hostNames) : Meant s (name n) := by
  refine .of_check (by simp [level]) ⟨.name n.text, fun depth => ?_, ?_⟩
  · rw [phrase, Phrase.check, if_neg (not_mem_constantWords n)]
  · exact ⟨fun env => toOption_valueOf h, rfl, rfl⟩

theorem meant_unary (op : UnaryOp) {e : Tree} (h : Meant s e) : Meant s (unary op e) := by
  obtain ⟨x, hcheck, hdenotes⟩ := h.check
  refine .of_check (by cases op <;> simp [level, UnaryOp.level])
    ⟨.unary op x, fun depth => ?_, fun env => ?_, hdenotes.occurring, by cases op <;> rfl⟩
  · rw [phrase, Phrase.check, hcheck]
    rfl
  · rw [Expr.eval, toOption_bind, hdenotes.value, value]
    refine bind_congr fun a => ?_
    rw [Expr.lift, toOption_mapError]

theorem meant_binary (op : BinaryOp) {l r : Tree} (hl : Meant s l) (hr : Meant s r) :
    Meant s (binary op l r) := by
  obtain ⟨x, hcheck, hdenotes⟩ := hl.check
  obtain ⟨y, hcheck', hdenotes'⟩ := hr.check
  refine .of_check (by cases op <;> simp [level, BinaryOp.level])
    ⟨.binary op x y, fun depth => ?_, fun env => ?_, ?_, rfl⟩
  · rw [phrase, Phrase.check, hcheck, hcheck']
    rfl
  · rw [Expr.eval, toOption_bind, hdenotes.value, value]
    refine bind_congr fun a => ?_
    rw [toOption_bind, hdenotes'.value]
    refine bind_congr fun b => ?_
    rw [Expr.lift, toOption_mapError]
  · rw [Expr.occurring, hdenotes.occurring, hdenotes'.occurring, identifiers]

/-- The operands of a connective on the left go on with the one on the right. -/
theorem meant_connective (op : Connective) {l r : Tree} (hl : Meant s l) (hr : Meant s r) :
    Meant s (connective op l r) := by
  obtain ⟨y, hcheck, hdenotes⟩ := hr.check
  obtain ⟨x, xs, hall, hleft⟩ := hl.operands op
  have hjoin := denotes_join hleft hdenotes
  have hoperands (depth : ℕ) : Phrase.checkAll depth
      ((phrase s (connective op l r)).operandsOf op) = .ok (x :: (xs ++ [y])) := by
    rw [operandsOf_phrase_connective]
    exact checkAll_append (hall depth) (hcheck depth)
  have hwhole (depth : ℕ) : (phrase s (connective op l r)).check depth =
      .ok (Expr.join op x (xs ++ [y])) := by
    have hdepth := hoperands (depth + 1)
    rw [operandsOf_phrase_connective] at hdepth
    rw [phrase, Phrase.check, hdepth]
    rfl
  refine ⟨⟨_, hwhole, hjoin⟩, fun o => ?_⟩
  by_cases ho : o = op
  · subst ho
    exact ⟨x, xs ++ [y], hoperands, hjoin⟩
  · have hne : (connective op l r).level ≠ o.level := fun hlevel =>
      ho (connective_eq_of_level hlevel).symm
    refine ⟨_, [], fun depth => ?_, hjoin⟩
    rw [operandsOf_phrase s hne]
    exact checkAll_cons (hwhole depth) rfl

theorem meant_comparison (op : Comparator) {first second : Tree}
    {rest : List (Comparator × Tree)} (hfirst : Meant s first) (hsecond : Meant s second)
    (hrest : ∀ link ∈ rest, Meant s link.2) : Meant s (comparison first op second rest) := by
  obtain ⟨x, hcheck, hdenotes⟩ := hfirst.check
  have hlinks : ∀ link ∈ (op, second) :: rest, Meant s link.2 :=
    List.forall_mem_cons.2 ⟨hsecond, hrest⟩
  obtain ⟨xs, hknown, hall, hvalue, hvariables⟩ := meant_links hlinks
  refine .of_check (by cases op <;> simp [level, Comparator.level])
    ⟨.comparison x ((((op, second) :: rest).map Prod.fst).zip xs), fun depth => ?_,
      fun env => ?_, ?_, rfl⟩
  · rw [linkPhrases] at hknown hall
    rw [phrase, Phrase.check, hcheck, hknown, hall]
    rfl
  · rw [Expr.eval, toOption_bind, hdenotes.value, value]
    refine bind_congr fun a => ?_
    exact hvalue env a
  · rw [Expr.occurring, hdenotes.occurring, hvariables]
    rfl

theorem meant_call (f : Builtin) {args : List Tree} (h : ∀ e ∈ args, Meant s e) :
    Meant s (call f args) := by
  obtain ⟨xs, hall, hvalues, hvariables⟩ := meant_arguments h
  refine .of_check (by simp [level])
    ⟨.call f xs, fun depth => ?_, fun env => ?_, hvariables, rfl⟩
  · rw [phrase, Phrase.check]
    simp only [Builtin.ofName?_name, hall]
    rfl
  · rw [Expr.eval, toOption_bind, hvalues, value]
    refine bind_congr fun vs => ?_
    rw [Expr.apply]
    cases env.find? f.name with
    | some x => rfl
    | none => exact toOption_mapError _ _

/-- Every tree without host names is what its phrase is checked to. -/
theorem meant (e : Tree) (h : ∀ n ∈ e.identifiers, n ∉ hostNames) : Meant s e := by
  induction e with
  | number x => exact meant_number x
  | name n => exact meant_name (h n.text List.mem_cons_self)
  | unary op e ih => exact meant_unary op (ih h)
  | binary op l r hl hr =>
    rw [identifiers, List.forall_mem_append] at h
    exact meant_binary op (hl h.1) (hr h.2)
  | connective op l r hl hr =>
    rw [identifiers, List.forall_mem_append] at h
    exact meant_connective op (hl h.1) (hr h.2)
  | comparison first op second rest hfirst hsecond hrest =>
    rw [identifiers, List.forall_mem_append, List.forall_mem_append] at h
    obtain ⟨hf, hs, hr⟩ := h
    exact meant_comparison op (hfirst hf) (hsecond hs) fun link hlink =>
      hrest link hlink fun n hn => hr n (mem_linkIdentifiers hlink hn)
  | call f args hargs =>
    exact meant_call f fun e he => hargs e he fun n hn => h n (mem_argumentIdentifiers he hn)

/-! ## Conditions and quantities -/

/-- The text of a tree in a style is read as a condition with the variables of the tree that are not
built in, which holds where the tree is true; unless the tree answers yes or no by its form, it is
read as a quantity, which comes to the double of the tree.  Both fail where the tree has no value,
and the quantity also where the value is no double. -/
structure ReadsBack (s : Style) (e : Tree) : Prop where
  condition : ∃ c, Condition.read (e.text s) = .ok c ∧
    (∀ n, n ∈ c.names ↔ n ∈ e.identifiers ∧ builtin? n = none) ∧
    ∀ env, (c.holds env).toOption = (e.value env).map Value.isTrue
  quantity : (∃ q, Quantity.read (e.text s) = .ok q) ↔ e.isLogical = false
  value : ∀ q, Quantity.read (e.text s) = .ok q →
    ∀ env, (q.evaluate env).toOption = (e.value env).bind Value.toFloat?

theorem mem_names {x : Expr} : n ∈ x.names ↔ n ∈ x.occurring ∧ builtinValue? n = none := by
  simp [Expr.names]

theorem readCondition_of_check {s : Style} {e : Tree} {x : Expr}
    (h : (phrase s e).check 0 = .ok x) :
    Condition.read (e.text s) = .ok ⟨String.ofList (trim (e.text s)), x⟩ := by
  rw [Condition.read, read_text, h]
  rfl

/-- In every style, what is written comes back. -/
theorem readsBack (s : Style) (e : Tree) (h : ∀ n ∈ e.identifiers, n ∉ hostNames) :
    e.ReadsBack s := by
  obtain ⟨x, hcheck, hdenotes⟩ := (meant e h).check (s := s)
  have hread : Expr.read (e.text s) = .ok x := by
    rw [read_text, hcheck]
    rfl
  have hvalue (text : String) (env : Environment) : (x.value text env).toOption = e.value env := by
    rw [Expr.value, toOption_mapError, hdenotes.value]
  have hcondition := readCondition_of_check (hcheck 0)
  have hquantity : Quantity.read (e.text s) = if e.isLogical then
      .error (refuse (String.ofList (trim (e.text s))) .logical)
      else .ok ⟨String.ofList (trim (e.text s)), x⟩ := by
    rw [Quantity.read, hread, ← hdenotes.isLogical]
    rfl
  refine ⟨⟨_, hcondition, fun n => ?_, fun env => ?_⟩, ?_, fun q hq env => ?_⟩
  · rw [Condition.names, mem_names, hdenotes.occurring]
    refine and_congr_right fun hn => ?_
    rw [builtinValue?_eq (h n hn)]
  · rw [Condition.holds, toOption_bind, hvalue]
    cases e.value env <;> rfl
  · rw [hquantity]
    cases e.isLogical <;> simp
  · rw [hquantity] at hq
    split_ifs at hq
    obtain rfl := Except.ok.inj hq
    rw [Quantity.evaluate, toOption_bind, hvalue]
    refine bind_congr fun v => ?_
    cases v.toFloat? <;> rfl

/-- The tree of the expression `-x ^ 2 < y && !(x < 2 || y)`. -/
def bounded : Tree :=
  let two : Literal := ⟨2, by decide +kernel, by decide +kernel⟩
  let x : Tree := .name ⟨"x", by decide, by simp⟩
  let y : Tree := .name ⟨"y", by decide, by simp⟩
  .connective .and
    (.comparison (.unary .negative (.binary .power x (.number two))) .less y [])
    (.unary .not (.connective .or (.comparison x .less (.number two) []) y))

/-- A tree with a power behind a sign, with a comparison and with a connective in parentheses. -/
theorem readsBack_bounded :
    bounded.text (.plain .signs) = "-x ^ 2 < y && !(x < 2 || y)".toList ∧
      (∀ n ∈ bounded.identifiers, n ∉ hostNames) ∧ bounded.ReadsBack (.plain .signs) := by
  have hnames : ∀ n ∈ bounded.identifiers, n ∉ hostNames := by decide
  exact ⟨by decide +kernel, hnames, readsBack (.plain .signs) bounded hnames⟩

theorem readCondition_name (s : Style) (n : Identifier) :
    Condition.read ((name n).text s) =
      .ok ⟨String.ofList (trim ((name n).text s)), .name n.text⟩ :=
  readCondition_of_check (if_neg (not_mem_constantWords n))

/-- A variable may have a name that is true in every environment, or one that means the empty table
and counts as built in. -/
theorem not_readsBack :
    ¬(name ⟨"__debug__", by decide, by simp⟩).ReadsBack (.plain .words) ∧
      ¬(name ⟨"__builtins__", by decide, by simp⟩).ReadsBack (.plain .words) := by
  constructor
  · rintro ⟨⟨c, hread, -, hholds⟩, -, -⟩
    rw [readCondition_name] at hread
    obtain rfl := Except.ok.inj hread
    have hzero := hholds (Environment.ofList [("__debug__", 0)])
    have hvalue : Value.isTrue (.double 0) = false := by decide +kernel
    have hfalse : some true = some (Value.isTrue (.double 0)) := hzero
    rw [hvalue] at hfalse
    cases hfalse
  · rintro ⟨⟨c, hread, hnames, -⟩, -, -⟩
    rw [readCondition_name] at hread
    obtain rfl := Except.ok.inj hread
    have hname := (hnames "__builtins__").2 ⟨List.mem_cons_self, rfl⟩
    have hbuiltin : builtinValue? "__builtins__" = none := (mem_names.1 hname).2
    cases hbuiltin

end Tree

end GrowthGrammar
