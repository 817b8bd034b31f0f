import GrowthGrammar.Proofs.Expression.Lexeme
import GrowthGrammar.Proofs.Expression.Parse

/-!
# The phrase of a tree

`Tree.phrase` is the phrase that the text of a tree is read as (`Tree.read_text`).  It keeps the
shape of the tree, but for connectives of one kind, whose operands stand side by side.
-/

namespace GrowthGrammar

open GrowthGrammar.Expression GrowthGrammar.Text

/-- The operands of a connective that a phrase consists of. -/
def Expression.Phrase.operandsOf (op : Connective) : Phrase → List Phrase
  | .junction o ps => if o = op then ps else [.junction o ps]
  | p => [p]

namespace Tree

variable (s : Style)

mutual

/-- What the text of a tree says. -/
def phrase : Tree → Phrase
  | number x => (s.token x).literal?.getD .constant
  | name n => .name n.text
  | unary op e => .unary (.inl op) (phrase e)
  | binary op l r => .binary (.inl op) (phrase l) (phrase r)
  | connective op l r => .junction op ((phrase l).operandsOf op ++ [phrase r])
  | comparison first op second rest =>
    .comparison (phrase first) ((.inl op, phrase second) :: linkPhrases rest)
  | call f args => .call (.name f.name) (argumentPhrases args) false

/-- What the texts of further comparisons say. -/
def linkPhrases : List (Comparator × Tree) → List ((Comparator ⊕ Element) × Phrase)
  | [] => []
  | (op, e) :: r => (.inl op, phrase e) :: linkPhrases r

/-- What the texts of arguments say. -/
def argumentPhrases : List Tree → List Phrase
  | [] => []
  | e :: r => phrase e :: argumentPhrases r

end

/-- The rule of the grammar that takes the operands of a level. -/
def ruleOf : ℕ → ℕ
  | 0 => 2
  | 1 => 4
  | 2 | 3 => 6
  | 4 => 11
  | 5 => 12
  | 6 => 14
  | 7 => 15
  | _ => 16

theorem ruleOf_le (n : ℕ) : ruleOf n ≤ 16 := by
  unfold ruleOf
  split <;> omega

theorem ruleOf_mono {m n : ℕ} (h : m ≤ n) : ruleOf m ≤ ruleOf n := by
  rcases Nat.lt_or_ge n 8 with hn | hn
  · have hsmall : ∀ n < 8, ∀ m < n + 1, ruleOf m ≤ ruleOf n := by decide
    exact hsmall n hn m (Nat.lt_succ_of_le h)
  · obtain ⟨k, rfl⟩ := Nat.exists_eq_add_of_le' hn
    exact ruleOf_le m

theorem connective_eq_of_level {op o : Connective} (h : o.level = op.level) : o = op := by
  revert h
  cases o <;> cases op <;> decide

theorem ruleOf_connective (op : Connective) : ruleOf op.level = op.depth := by
  cases op <;> rfl

theorem ruleOf_binary (op : BinaryOp) : ruleOf op.level = op.depth := by
  cases op <;> rfl

/-! ## Phrases by their form -/

theorem phrase_number (x : Literal) :
    (s.token x).literal? = some (phrase s (.number x)) ∧
      ∀ depth, (phrase s (.number x)).check depth = .ok (.literal x.value) := by
  obtain ⟨-, p, hp, hcheck⟩ := s.number_token x
  rw [phrase, hp]
  exact ⟨rfl, hcheck⟩

/-- A literal is an integer or a double. -/
theorem phrase_number_cases (x : Literal) :
    (∃ n, phrase s (.number x) = .integer n) ∨ ∃ y, phrase s (.number x) = .double y := by
  obtain ⟨hliteral, -⟩ := phrase_number s x
  cases ht : s.token x with
  | integer n =>
    rw [ht] at hliteral
    exact Or.inl ⟨n, (Option.some.inj hliteral).symm⟩
  | double y =>
    rw [ht] at hliteral
    exact Or.inr ⟨y, (Option.some.inj hliteral).symm⟩
  | _ =>
    rw [ht] at hliteral
    cases hliteral

theorem isStarred_phrase (e : Tree) : (phrase s e).isStarred = false := by
  cases e with
  | number x =>
    rcases phrase_number_cases s x with ⟨n, hp⟩ | ⟨y, hp⟩ <;> rw [hp] <;> rfl
  | _ => rfl

/-- Only a connective has operands of its own. -/
theorem operandsOf_phrase {e : Tree} {op : Connective} (h : e.level ≠ op.level) :
    (phrase s e).operandsOf op = [phrase s e] := by
  cases e with
  | number x =>
    rcases phrase_number_cases s x with ⟨n, hp⟩ | ⟨y, hp⟩ <;> rw [hp] <;> rfl
  | connective o l r =>
    have hne : o ≠ op := by
      rintro rfl
      exact h rfl
    exact if_neg hne
  | _ => rfl

theorem operandsOf_phrase_connective (op : Connective) (l r : Tree) :
    (phrase s (connective op l r)).operandsOf op = (phrase s l).operandsOf op ++ [phrase s r] :=
  if_pos rfl

theorem operandsOf_ne_nil (e : Tree) (op : Connective) : (phrase s e).operandsOf op ≠ [] := by
  by_cases h : e.level = op.level
  · cases e with
    | connective o l r =>
      obtain rfl := connective_eq_of_level h
      rw [operandsOf_phrase_connective]
      simp
    | number | name | call => cases op <;> cases h
    | unary o => cases op <;> cases o <;> cases h
    | binary o => cases op <;> cases o <;> cases h
    | comparison _ o => cases op <;> cases o <;> cases h
  · rw [operandsOf_phrase s h]
    simp

/-! ## Tokens -/

theorem tokens_append (a b : List Lexeme) : s.tokens (a ++ b) = s.tokens a ++ s.tokens b :=
  List.filterMap_append

theorem tokens_embrace (a : List Lexeme) :
    s.tokens (.opening :: (a ++ [.closing])) = .mark "(" :: (s.tokens a ++ [.mark ")"]) := by
  have hopening : s.tokens (.opening :: (a ++ [.closing])) =
      .mark "(" :: s.tokens (a ++ [.closing]) := rfl
  rw [hopening, tokens_append]
  rfl

/-- A tree is parsed by the rule for its level, and on as the left operand of its own operator. -/
structure Parsed (e : Tree) : Prop where
  parses : Parses (ruleOf e.level) (s.tokens e.lexemes) (e.phrase s)
  spine : ∀ {k : ℕ}, k < 6 → ruleOf e.level = k + 7 → Spine k (s.tokens e.lexemes) (e.phrase s)
  chain : ∀ {op : Connective}, e.level = op.level →
    Chain op (s.tokens e.lexemes) ((e.phrase s).operandsOf op)

namespace Parsed

variable {s : Style} {e : Tree}

theorem embrace (h : Parsed s e) :
    Parses 16 (s.tokens (.opening :: (e.lexemes ++ [.closing]))) (e.phrase s) := by
  rw [tokens_embrace]
  exact (h.parses.loosen (ruleOf_le _) (Nat.zero_le _)).embrace (isStarred_phrase s e)

/-- An operand as tight as its place needs, or in parentheses. -/
theorem operand (h : Parsed s e) (needed : ℕ) :
    Parses (ruleOf needed) (s.tokens (enclose needed e e.lexemes)) (e.phrase s) := by
  unfold enclose
  split_ifs with hlevel
  · exact h.embrace.loosen le_rfl (ruleOf_le needed)
  · exact h.parses.loosen (ruleOf_le _) (ruleOf_mono (Nat.not_lt.1 hlevel))

theorem leftOperand (h : Parsed s e) {op : BinaryOp} {k : ℕ} (hk : k < 6) (hop : op.depth = k + 7) :
    Spine k (s.tokens (enclose op.leftLevel e e.lexemes)) (e.phrase s) := by
  have hleft : op.leftLevel = op.level := by
    cases op with
    | power => simp only [BinaryOp.depth] at hop; omega
    | _ => rfl
  have hnext : k + 8 ≤ ruleOf (op.level + 1) := by
    revert hop
    cases op <;> simp [BinaryOp.depth, BinaryOp.level, ruleOf] <;> omega
  rw [hleft]
  unfold enclose
  split_ifs with hlevel
  · exact (h.embrace.loosen le_rfl (by omega)).spine hk
  · rcases Nat.eq_or_lt_of_le (Nat.not_lt.1 hlevel) with heq | hlt
    · exact h.spine hk (by rw [← heq, ruleOf_binary, hop])
    · exact (h.parses.loosen (ruleOf_le _) (hnext.trans (ruleOf_mono hlt))).spine hk

theorem leftConnected (h : Parsed s e) (op : Connective) :
    Chain op (s.tokens (enclose op.level e e.lexemes)) ((e.phrase s).operandsOf op) := by
  by_cases heq : e.level = op.level
  · have hopen : enclose op.level e e.lexemes = e.lexemes := if_neg (by omega)
    rw [hopen]
    exact h.chain heq
  · have hnext : op.depth + 1 ≤ ruleOf (op.level + 1) := by cases op <;> decide
    rw [operandsOf_phrase s heq]
    unfold enclose
    split_ifs with hlevel
    · exact (h.embrace.loosen le_rfl (hnext.trans (ruleOf_le _))).chain
    · have hlt : op.level + 1 ≤ e.level := by omega
      exact (h.parses.loosen (ruleOf_le _) (hnext.trans (ruleOf_mono hlt))).chain

/-- A tree with no operator that groups to the left. -/
theorem of_parses (h : Parses (ruleOf e.level) (s.tokens e.lexemes) (e.phrase s))
    (hk : ruleOf e.level = 6 ∨ 14 ≤ ruleOf e.level) : Parsed s e where
  parses := h
  spine hlt heq := by omega
  chain {op} heq := by
    rw [heq, ruleOf_connective] at hk
    cases op <;> simp [Connective.depth] at hk

end Parsed

/-! ## Trees -/

theorem parsed_links {links : List (Comparator × Tree)} (h : ∀ link ∈ links, Parsed s link.2) :
    Links (s.tokens (linkLexemes links)) (linkPhrases s links) := by
  induction links with
  | nil => exact .nil
  | cons link r ih =>
    obtain ⟨op, e⟩ := link
    obtain ⟨he, hr⟩ := List.forall_mem_cons.1 h
    have hoperand := (he.operand (op.level + 1)).loosen (k := 7) (ruleOf_le _)
      (by cases op <;> decide)
    have htokens : s.tokens (linkLexemes ((op, e) :: r)) =
        .mark op.sign :: (s.tokens (enclose (op.level + 1) e e.lexemes) ++
          s.tokens (linkLexemes r)) := by
      rw [linkLexemes, ← tokens_append]
      rfl
    rw [htokens, linkPhrases]
    exact (ih hr).cons op hoperand

theorem parsed_moreArguments {args : List Tree} (h : ∀ e ∈ args, Parsed s e) :
    MoreArguments (s.tokens (moreArgumentLexemes args)) (argumentPhrases s args) := by
  induction args with
  | nil => exact .nil
  | cons e r ih =>
    obtain ⟨he, hr⟩ := List.forall_mem_cons.1 h
    have htokens : s.tokens (moreArgumentLexemes (e :: r)) =
        .mark "," :: (s.tokens e.lexemes ++ s.tokens (moreArgumentLexemes r)) := by
      rw [moreArgumentLexemes, ← tokens_append]
      rfl
    rw [htokens, argumentPhrases]
    exact (ih hr).cons (he.parses.loosen (ruleOf_le _) (Nat.zero_le _))

theorem parsed_arguments {args : List Tree} (h : ∀ e ∈ args, Parsed s e) :
    Arguments (s.tokens (argumentLexemes args)) (argumentPhrases s args) := by
  cases args with
  | nil => exact .nil
  | cons e r =>
    obtain ⟨he, hr⟩ := List.forall_mem_cons.1 h
    rw [argumentLexemes, tokens_append, argumentPhrases]
    exact .cons (he.parses.loosen (ruleOf_le _) (Nat.zero_le _)) (parsed_moreArguments s hr)

theorem parsed_unary {e : Tree} (op : UnaryOp) (h : Parsed s e) : Parsed s (unary op e) := by
  have hoperand := h.operand op.level
  cases op with
  | negative => exact .of_parses (.sign nofun hoperand) (by simp [level, UnaryOp.level, ruleOf])
  | positive => exact .of_parses (.sign nofun hoperand) (by simp [level, UnaryOp.level, ruleOf])
  | not => exact .of_parses (.not hoperand) (by simp [level, UnaryOp.level, ruleOf])

theorem tokens_binary (op : BinaryOp) (l r : Tree) :
    s.tokens (lexemes (binary op l r)) =
      s.tokens (enclose op.leftLevel l l.lexemes) ++
        .mark op.sign :: s.tokens (enclose op.rightLevel r r.lexemes) := by
  rw [lexemes, tokens_append]
  rfl

theorem parsed_power {l r : Tree} (hl : Parsed s l) (hr : Parsed s r) :
    Parsed s (binary .power l r) := by
  refine .of_parses ?_ (by simp [level, BinaryOp.level, ruleOf])
  rw [tokens_binary]
  exact .power (hl.operand 8) (hr.operand 6)

/-- An operator that groups to the left takes one more operand. -/
theorem parsed_binary {op : BinaryOp} (hop : op ≠ .power) {l r : Tree} (hl : Parsed s l)
    (hr : Parsed s r) : Parsed s (binary op l r) := by
  obtain ⟨k, hk, hdepth, hnext⟩ :
      ∃ k < 6, op.depth = k + 7 ∧ k + 8 ≤ ruleOf op.rightLevel := by
    cases op with
    | power => exact absurd rfl hop
    | add | subtract => exact ⟨4, by decide⟩
    | multiply | divide | floorDivide | modulo => exact ⟨5, by decide⟩
  have hspine := (hl.leftOperand hk hdepth).append hk hdepth
    ((hr.operand op.rightLevel).loosen (ruleOf_le _) hnext)
  rw [← tokens_binary] at hspine
  have hrule : ruleOf (binary op l r).level = k + 7 := (ruleOf_binary op).trans hdepth
  refine ⟨hrule ▸ hspine.parses hk, fun {j} _ hj => ?_, fun {o} ho => ?_⟩
  · obtain rfl : j = k := by omega
    exact hspine
  · have hdepth' := depth_connective_le o
    rw [ho, ruleOf_connective] at hrule
    omega

/-- A connective takes one more operand. -/
theorem parsed_connective (op : Connective) {l r : Tree} (hl : Parsed s l) (hr : Parsed s r) :
    Parsed s (connective op l r) := by
  have htokens : s.tokens (lexemes (connective op l r)) =
      s.tokens (enclose op.level l l.lexemes) ++
        .keyword (connectiveWord op) :: s.tokens (enclose (op.level + 1) r r.lexemes) := by
    rw [lexemes, tokens_append]
    rfl
  have hright := (hr.operand (op.level + 1)).loosen (k := op.depth + 1) (ruleOf_le _)
    (by cases op <;> decide)
  have hchain := (hl.leftConnected op).append hright
  have hparses := hchain.parses (operandsOf_ne_nil s l op)
  rw [← htokens] at hchain hparses
  refine ⟨?_, fun hk heq => ?_, fun {o} ho => ?_⟩
  · rw [level, ruleOf_connective]
    exact hparses
  · have hdepth := depth_connective_le op
    rw [level, ruleOf_connective] at heq
    omega
  · obtain rfl := connective_eq_of_level ho
    rw [operandsOf_phrase_connective]
    exact hchain

theorem parsed_comparison {first second : Tree} (op : Comparator)
    {rest : List (Comparator × Tree)} (hfirst : Parsed s first) (hsecond : Parsed s second)
    (hrest : ∀ link ∈ rest, Parsed s link.2) : Parsed s (comparison first op second rest) := by
  have htokens : s.tokens (lexemes (comparison first op second rest)) =
      s.tokens (enclose (op.level + 1) first first.lexemes) ++
        s.tokens (linkLexemes ((op, second) :: rest)) := by
    rw [lexemes, tokens_append, linkLexemes]
  have hlinks : Links (s.tokens (linkLexemes ((op, second) :: rest)))
      (linkPhrases s ((op, second) :: rest)) :=
    parsed_links s (List.forall_mem_cons.2 ⟨hsecond, hrest⟩)
  have hoperand := (hfirst.operand (op.level + 1)).loosen (k := 7) (ruleOf_le _)
    (by cases op <;> decide)
  refine .of_parses ?_ (by cases op <;> simp [level, Comparator.level, ruleOf])
  rw [htokens, level, show ruleOf op.level = 6 by cases op <;> rfl]
  exact hoperand.comparison hlinks (List.cons_ne_nil _ _)

theorem parsed_call (f : Builtin) {args : List Tree} (h : ∀ e ∈ args, Parsed s e) :
    Parsed s (call f args) := by
  have htokens : s.tokens (lexemes (call f args)) =
      .name f.name :: .mark "(" :: (s.tokens (argumentLexemes args) ++ [.mark ")"]) := by
    have hword : s.tokens (lexemes (call f args)) =
        .name f.name :: s.tokens (.opening :: (argumentLexemes args ++ [.closing])) := rfl
    rw [hword, tokens_embrace]
  refine .of_parses ?_ (by simp [level, ruleOf])
  rw [htokens]
  exact .call f.name (parsed_arguments s h)

/-- Every tree is parsed as its phrase. -/
theorem parsed (e : Tree) : Parsed s e := by
  induction e with
  | number x => exact .of_parses (.literal (phrase_number s x).1) (by simp [level, ruleOf])
  | name n => exact .of_parses (.name n.text) (by simp [level, ruleOf])
  | unary op e ih => exact parsed_unary s op ih
  | binary op l r hl hr =>
    by_cases hop : op = .power
    · subst hop
      exact parsed_power s hl hr
    · exact parsed_binary s hop hl hr
  | connective op l r hl hr => exact parsed_connective s op hl hr
  | comparison first op second rest hfirst hsecond hrest =>
    exact parsed_comparison s op hfirst hsecond hrest
  | call f args hargs => exact parsed_call s f hargs

/-- The text of a tree is read as its phrase. -/
theorem read_text (e : Tree) :
    Expr.read (e.text s) = ((phrase s e).check 0).mapError
      fun f => f.obstacle.error (String.ofList (trim (e.text s))) := by
  have hoperand := isOperand e
  have hlegible : Legible 0 e.lexemes := by
    have hwhole := hoperand.legible (d := 0) (r := []) nofun .done
    rwa [List.append_nil] at hwhole
  obtain ⟨c, r, hform, hnull, hscan⟩ := Legible.scan_normalForm s hlegible hoperand.starts
  have htext : normalForm (e.text s) = c :: r := hform
  have hcontains : (c :: r).contains '\x00' = false :=
    Bool.eq_false_iff.2 fun h => hnull (List.contains_iff_mem.1 h)
  have hwhole : 1 ≤ ruleOf e.level := le_trans (by decide) (ruleOf_mono (Nat.zero_le e.level))
  have hphrase := ofText?_of_parses hscan ((parsed s e).parses.loosen (ruleOf_le _) hwhole)
  rw [Expr.read, htext]
  simp only [List.isEmpty_cons, hcontains, Bool.false_eq_true, if_false, hphrase]

end Tree

end GrowthGrammar
