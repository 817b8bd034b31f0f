import GrowthGrammar.Expression.Grammar
import Mathlib.Tactic.IntervalCases

/-!
# Parsing with tokens left over

`Parses k ts p` says that the rule `k` of the grammar takes the tokens `ts` as the phrase `p` from
in front of whatever may stand behind them (`Stops k`).  A rule takes what a tighter one takes
(`Parses.loosen`), and there is one lemma for each way to build a phrase.
-/

namespace GrowthGrammar

open GrowthGrammar.Expression

/-- The rule that goes on with a connective. -/
def Connective.depth : Connective → ℕ
  | or => 2
  | and => 4

/-- The rule that goes on with an operator. -/
def BinaryOp.depth : BinaryOp → ℕ
  | add | subtract => 11
  | multiply | divide | floorDivide | modulo => 12
  | power => 15

namespace Expression

/-- The rules of the grammar.  Every rule calls the next one for its first operand. -/
def rule : ℕ → ℕ → List Token → Option (Phrase × List Token)
  | 0, n, ts => namedExpression n ts
  | 1, n, ts => expression n ts
  | 2, n, ts => junction n .or ts
  | 3, n, ts => junctionOperand n .or ts
  | 4, n, ts => junction n .and ts
  | 5, n, ts => junctionOperand n .and ts
  | 6, n, ts => inversion n ts
  | 14, n, ts => signed n ts
  | 15, n, ts => power n ts
  | 16, n, ts => primary n ts
  | k, n, ts => operation n (k - 7) ts

theorem rule_operation {k : ℕ} (hk : k ≤ 6) (n : ℕ) (ts : List Token) :
    rule (k + 7) n ts = operation n k ts := by
  interval_cases k <;> rfl

/-- The phrase of a token that is a number. -/
def Token.literal? : Token → Option Phrase
  | .integer n => some (.integer n)
  | .double x => some (.double x)
  | _ => none

/-! ## What stands in front and behind -/

/-- The token ends an operand that the rule takes: no rule from this one on goes on with it. -/
inductive Follows (k : ℕ) : Token → Prop
  | closing : Follows k (.mark ")")
  | comma : Follows k (.mark ",")
  | connective (op : Connective) (h : op.depth < k) : Follows k (.keyword (connectiveWord op))
  | comparator (op : Comparator) (h : 6 < k) : Follows k (.mark op.sign)
  | binary (op : BinaryOp) (h : op.depth < k) : Follows k (.mark op.sign)

/-- The rule ends in front of the tokens. -/
def Stops (k : ℕ) (ts : List Token) : Prop :=
  ∀ t ∈ ts.head?, Follows k t

/-- An operand that the rule takes may begin with the token. -/
inductive Opens (k : ℕ) : Token → Prop
  | name (n : String) : Opens k (.name n)
  | integer (n : ℕ) : Opens k (.integer n)
  | double (x : Float) : Opens k (.double x)
  | opening : Opens k (.mark "(")
  | negative (h : k ≤ 14) : Opens k (.mark "-")
  | positive (h : k ≤ 14) : Opens k (.mark "+")
  | not (h : k ≤ 6) : Opens k (.keyword "not")

variable {k l n : ℕ} {t : Token} {ts us rest : List Token} {p q : Phrase}

theorem Follows.mono (h : Follows k t) (hkl : k ≤ l) : Follows l t := by
  cases h with
  | closing => exact .closing
  | comma => exact .comma
  | connective op h => exact .connective op (h.trans_le hkl)
  | comparator op h => exact .comparator op (h.trans_le hkl)
  | binary op h => exact .binary op (h.trans_le hkl)

theorem Stops.mono (h : Stops k ts) (hkl : k ≤ l) : Stops l ts :=
  fun t ht => (h t ht).mono hkl

theorem stops_cons (h : Follows k t) (ts : List Token) : Stops k (t :: ts) := by
  intro u hu
  obtain rfl := Option.some.inj hu
  exact h

theorem Opens.anti (h : Opens l t) (hkl : k ≤ l) : Opens k t := by
  cases h with
  | name n => exact .name n
  | integer n => exact .integer n
  | double x => exact .double x
  | opening => exact .opening
  | negative h => exact .negative (hkl.trans h)
  | positive h => exact .positive (hkl.trans h)
  | not h => exact .not (hkl.trans h)

theorem Opens.ne_keyword (h : Opens k t) {w : String} (hw : w ≠ "not" ∨ 6 < k) :
    t ≠ .keyword w := by
  rintro rfl
  generalize hu : Token.keyword w = u at h
  cases h with
  | not h =>
    cases hu
    rcases hw with hw | hw
    · exact hw rfl
    · omega
  | _ => cases hu

theorem Opens.ne_mark (h : Opens k t) {m : String} (hm : m ≠ "(" ∧ m ≠ "-" ∧ m ≠ "+") :
    t ≠ .mark m := by
  intro ht
  obtain ⟨hopening, hnegative, hpositive⟩ := hm
  cases h with
  | opening => exact hopening (Token.mark.inj ht).symm
  | negative => exact hnegative (Token.mark.inj ht).symm
  | positive => exact hpositive (Token.mark.inj ht).symm
  | _ => cases ht

theorem Opens.signOf_eq_none (h : Opens k t) (hk : 14 < k) : signOf t = none := by
  cases h with
  | name | integer | double | opening | not => rfl
  | negative h | positive h => omega

theorem Follows.ne_keyword (h : Follows k t) {w : String} (hand : w ≠ "and") (hor : w ≠ "or") :
    t ≠ .keyword w := by
  intro hw
  cases h with
  | connective op h =>
    cases op
    · exact hand (Token.keyword.inj hw).symm
    · exact hor (Token.keyword.inj hw).symm
  | _ => cases hw

theorem Follows.ne_power (h : Follows k t) (hk : k ≤ 15) : t ≠ .mark "**" := by
  cases h with
  | closing | comma | connective => simp
  | comparator op => cases op <;> simp [Comparator.sign]
  | binary op h =>
    cases op with
    | power => exact absurd (h.trans_le hk) (by decide)
    | _ => simp [BinaryOp.sign]

theorem Follows.ne_mark (h : Follows k t) {m : String}
    (hm : m ∉ [")", ",", "<", "<=", ">", ">=", "==", "!=", "+", "-", "*", "/", "//", "%", "**"]) :
    t ≠ .mark m := by
  intro ht
  simp only [List.mem_cons, List.not_mem_nil, or_false, not_or] at hm
  cases h with
  | closing | comma => simp_all
  | connective => cases ht
  | comparator op => cases op <;> simp_all [Comparator.sign]
  | binary op => cases op <;> simp_all [BinaryOp.sign]

/-! ## From rule to rule -/

theorem power_of_primary (ht : Opens 16 t) (h : primary n (t :: ts) = some (p, rest))
    (hrest : Stops 15 rest) : power (n + 1) (t :: ts) = some (p, rest) := by
  have hawait : t ≠ .keyword "await" := ht.ne_keyword (Or.inl (by decide))
  unfold power
  split
  · rename_i hr
    exact absurd (List.cons.inj hr).1 hawait
  · simp only [h, Option.bind_eq_bind, Option.bind_some]
    split
    · exact absurd rfl ((hrest _ rfl).ne_power le_rfl)
    · rfl

theorem signed_of_power (ht : Opens 15 t) (h : power n (t :: ts) = some (p, rest)) :
    signed (n + 1) (t :: ts) = some (p, rest) := by
  rw [signed]
  simp only [ht.signOf_eq_none (by omega), h]

theorem operation_six (n : ℕ) (ts : List Token) : operation (n + 1) 6 ts = signed n ts := by
  rw [operation, if_neg (by omega)]

theorem moreOperations_of_stops (hk : k < 6) (hrest : Stops (k + 7) rest) :
    moreOperations (n + 1) k p rest = some (p, rest) := by
  cases rest with
  | nil => rfl
  | cons t r =>
    have hnone : operatorAt k t = none := by
      cases hrest t rfl with
      | closing | comma | connective op h => interval_cases k <;> rfl
      | comparator op h => interval_cases k <;> cases op <;> rfl
      | binary op h =>
        have hlookup : ∀ k < 6, op.depth < k + 7 →
            (operatorAt k (.mark op.sign)).isNone = true := by
          cases op <;> decide
        exact Option.isNone_iff_eq_none.1 (hlookup k hk h)
    rw [moreOperations]
    simp only [hnone]

theorem operation_of_operation (hk : k < 6)
    (h : operation (n + 1) (k + 1) ts = some (p, rest)) (hrest : Stops (k + 7) rest) :
    operation (n + 2) k ts = some (p, rest) := by
  rw [operation, if_pos hk, h]
  exact moreOperations_of_stops hk hrest

theorem comparatorAt_of_stops (hrest : Stops 6 rest) : comparatorAt rest = none := by
  cases rest with
  | nil => rfl
  | cons t r =>
    cases hrest t rfl with
    | closing | comma => rfl
    | connective op h => cases op <;> rfl
    | comparator op h => omega
    | binary op h => cases op <;> exact absurd h (by decide)

theorem comparisonLinks_of_stops (hrest : Stops 6 rest) :
    comparisonLinks (n + 1) rest = some ([], rest) := by
  rw [comparisonLinks, comparatorAt_of_stops hrest]

theorem inversion_of_operation (ht : Opens 7 t)
    (h : operation (n + 1) 0 (t :: ts) = some (p, rest)) (hrest : Stops 6 rest) :
    inversion (n + 2) (t :: ts) = some (p, rest) := by
  have hnot : t ≠ .keyword "not" := ht.ne_keyword (Or.inr (by omega))
  unfold inversion
  split
  · rename_i hr
    exact absurd (List.cons.inj hr).1 hnot
  · simp [h, comparisonLinks_of_stops hrest]

theorem afterConnective_of_stops {op : Connective} (hrest : Stops op.depth rest) :
    afterConnective op rest = none := by
  cases rest with
  | nil => rfl
  | cons t r =>
    cases hrest t rfl with
    | closing | comma => rfl
    | connective op' h =>
      have hword : connectiveWord op' ≠ connectiveWord op := by
        revert h
        cases op <;> cases op' <;> decide
      exact if_neg hword
    | comparator op' h => cases op' <;> rfl
    | binary op' h => cases op' <;> rfl

theorem moreOperands_of_stops {op : Connective} (hrest : Stops op.depth rest) :
    moreOperands (n + 1) op rest = some ([], rest) := by
  rw [moreOperands, afterConnective_of_stops hrest]

theorem junction_of_junctionOperand {op : Connective}
    (h : junctionOperand (n + 1) op ts = some (p, rest)) (hrest : Stops op.depth rest) :
    junction (n + 2) op ts = some (p, rest) := by
  rw [junction, h]
  simp [moreOperands_of_stops hrest]

theorem expression_of_junction (ht : Opens 2 t) (h : junction n .or (t :: ts) = some (p, rest))
    (hrest : Stops 1 rest) : expression (n + 1) (t :: ts) = some (p, rest) := by
  have hlambda : t ≠ .keyword "lambda" := ht.ne_keyword (Or.inl (by decide))
  unfold expression
  split
  · rename_i hr
    exact absurd (List.cons.inj hr).1 hlambda
  · simp only [h, Option.bind_eq_bind, Option.bind_some]
    split
    · exact absurd rfl ((hrest _ rfl).ne_keyword (by decide) (by decide))
    · rfl

/-- The marks of an assignment and of an argument with a name, which no operand holds. -/
def Plain (ts : List Token) : Prop :=
  ∀ t ∈ ts, t ≠ .mark ":=" ∧ t ≠ .mark "="

theorem plain_append : Plain (ts ++ us) ↔ Plain ts ∧ Plain us :=
  List.forall_mem_append

theorem plain_cons : Plain (t :: ts) ↔ (t ≠ .mark ":=" ∧ t ≠ .mark "=") ∧ Plain ts :=
  List.forall_mem_cons

theorem plain_nil : Plain [] := nofun

theorem Follows.plain (h : Follows k t) : t ≠ .mark ":=" ∧ t ≠ .mark "=" :=
  ⟨h.ne_mark (by decide), h.ne_mark (by decide)⟩

/-- Behind the first token of an operand stands neither of the marks. -/
theorem second_of_plain (hplain : Plain (t :: ts)) (hrest : Stops k rest) {u v : Token}
    {r : List Token} (h : t :: (ts ++ rest) = u :: v :: r) :
    v ≠ .mark ":=" ∧ v ≠ .mark "=" := by
  obtain ⟨-, htail⟩ := List.cons.inj h
  cases ts with
  | nil => exact (hrest v (by rw [← List.nil_append rest, htail]; rfl)).plain
  | cons x ts =>
    obtain ⟨rfl, -⟩ := List.cons.inj htail
    exact hplain x (by simp)

theorem namedExpression_of_expression (hplain : Plain (t :: ts)) (hrest : Stops k rest)
    (h : expression n (t :: (ts ++ rest)) = some (p, rest)) :
    namedExpression (n + 1) (t :: (ts ++ rest)) = some (p, rest) := by
  unfold namedExpression
  split
  · rename_i hr
    exact absurd rfl (second_of_plain hplain hrest hr).1
  · exact h

/-! ## Operands -/

/-- The rule takes the tokens as the phrase from in front of what ends them, if it has fuel. -/
structure Parses (k : ℕ) (ts : List Token) (p : Phrase) : Prop where
  opens : ∃ t r, ts = t :: r ∧ Opens k t
  plain : Plain ts
  parse : ∀ (n : ℕ) (rest : List Token), 24 * ts.length ≤ n + k + 6 → Stops k rest →
    rule k n (ts ++ rest) = some (p, rest)

theorem Parses.loosen_one (h : Parses (k + 1) ts p) (hk : k < 16) : Parses k ts p := by
  obtain ⟨t, r, rfl, ht⟩ := h.opens
  refine ⟨⟨t, r, rfl, ht.anti (Nat.le_succ k)⟩, h.plain, fun n rest hn hrest => ?_⟩
  rw [List.length_cons] at hn
  obtain ⟨m, rfl⟩ : ∃ m, n = m + 2 := ⟨n - 2, by omega⟩
  have hnext := h.parse (m + 1) rest (by rw [List.length_cons]; omega)
    (hrest.mono (Nat.le_succ k))
  rw [List.cons_append] at hnext ⊢
  have hoperation (j : ℕ) (hj : j < 6) (hkj : k = j + 7) :
      rule k (m + 2) (t :: (r ++ rest)) = some (p, rest) := by
    subst hkj
    rw [show j + 7 + 1 = j + 1 + 7 by omega, rule_operation (by omega)] at hnext
    rw [rule_operation (by omega)]
    exact operation_of_operation hj hnext hrest
  interval_cases k
  · exact namedExpression_of_expression h.plain hrest hnext
  · exact expression_of_junction ht hnext hrest
  · exact junction_of_junctionOperand hnext hrest
  · exact hnext
  · exact junction_of_junctionOperand hnext hrest
  · exact hnext
  · exact inversion_of_operation ht hnext hrest
  · exact hoperation 0 (by omega) rfl
  · exact hoperation 1 (by omega) rfl
  · exact hoperation 2 (by omega) rfl
  · exact hoperation 3 (by omega) rfl
  · exact hoperation 4 (by omega) rfl
  · exact hoperation 5 (by omega) rfl
  · exact (operation_six _ _).trans hnext
  · exact signed_of_power ht hnext
  · exact power_of_primary ht hnext hrest

/-- A looser rule takes what a tighter one does. -/
theorem Parses.loosen (h : Parses l ts p) (hl : l ≤ 16) (hkl : k ≤ l) : Parses k ts p := by
  induction l with
  | zero =>
    obtain rfl := Nat.le_zero.1 hkl
    exact h
  | succ l ih =>
    rcases Nat.lt_or_ge l k with hlk | hlk
    · obtain rfl : k = l + 1 := by omega
      exact h
    · exact ih (h.loosen_one hl) (by omega) hlk

/-! ### Primaries -/

theorem primaryTail_of_stops (hrest : Stops k rest) :
    primaryTail (n + 1) p rest = some (p, rest) := by
  unfold primaryTail
  split
  · exact absurd rfl ((hrest _ rfl).ne_mark (by decide))
  · exact absurd rfl ((hrest _ rfl).ne_mark (by decide))
  · exact absurd rfl ((hrest _ rfl).ne_mark (by decide))
  · rfl

theorem Parses.atom (ht : Opens 16 t) (hplain : t ≠ .mark ":=" ∧ t ≠ .mark "=")
    (h : ∀ n r, Expression.atom (n + 1) (t :: r) = some (p, r)) : Parses 16 [t] p := by
  refine ⟨⟨t, [], rfl, ht⟩, plain_cons.2 ⟨hplain, plain_nil⟩, fun n rest hn hrest => ?_⟩
  obtain ⟨m, rfl⟩ : ∃ m, n = m + 2 := ⟨n - 2, by simp at hn; omega⟩
  have hatom := h m rest
  rw [rule, List.singleton_append, primary, hatom]
  exact primaryTail_of_stops hrest

theorem Parses.name (s : String) : Parses 16 [.name s] (.name s) :=
  .atom (.name s) (by simp) fun _ _ => rfl

theorem Parses.literal (h : t.literal? = some p) : Parses 16 [t] p := by
  cases t with
  | integer n =>
    obtain rfl := Option.some.inj h
    exact .atom (.integer n) (by simp) fun _ _ => rfl
  | double x =>
    obtain rfl := Option.some.inj h
    exact .atom (.double x) (by simp) fun _ _ => rfl
  | _ => cases h

/-- A phrase in parentheses. -/
theorem Parses.embrace (h : Parses 0 ts p) (hp : p.isStarred = false) :
    Parses 16 (.mark "(" :: (ts ++ [.mark ")"])) p := by
  have hplain : Plain (.mark "(" :: (ts ++ [.mark ")"])) :=
    plain_cons.2 ⟨by simp, plain_append.2 ⟨h.plain, plain_cons.2 ⟨by simp, plain_nil⟩⟩⟩
  refine ⟨⟨_, _, rfl, .opening⟩, hplain, fun n rest hn hrest => ?_⟩
  obtain ⟨t, r, rfl, ht⟩ := h.opens
  have hclosing : t ≠ .mark ")" := ht.ne_mark (by decide)
  have hstar : t ≠ .mark "*" := ht.ne_mark (by decide)
  have hyield : t ≠ .keyword "yield" := ht.ne_keyword (Or.inl (by decide))
  simp only [List.length_cons, List.length_append, List.length_nil] at hn
  obtain ⟨m, rfl⟩ : ∃ m, n = m + 5 := ⟨n - 5, by omega⟩
  have hnamed : namedExpression (m + 1) (t :: (r ++ .mark ")" :: rest)) =
      some (p, .mark ")" :: rest) :=
    h.parse (m + 1) _ (by rw [List.length_cons]; omega) (stops_cons .closing rest)
  have hitem : item (m + 2) (t :: (r ++ .mark ")" :: rest)) = some (p, .mark ")" :: rest) := by
    unfold item
    split
    · rename_i hr
      exact absurd (List.cons.inj hr).1 hstar
    · exact hnamed
  have hparenthesised : parenthesised (m + 3) (t :: (r ++ .mark ")" :: rest)) = some (p, rest) := by
    unfold parenthesised
    split
    · rename_i hr
      exact absurd (List.cons.inj hr).1 hclosing
    · rename_i hr
      exact absurd (List.cons.inj hr).1 hyield
    · simp [hitem, hp]
  have htext : .mark "(" :: (t :: r ++ [.mark ")"]) ++ rest =
      .mark "(" :: t :: (r ++ .mark ")" :: rest) := by simp
  have hatom : Expression.atom (m + 4) (.mark "(" :: t :: (r ++ .mark ")" :: rest)) =
      some (p, rest) := hparenthesised
  rw [rule, htext, primary, hatom]
  exact primaryTail_of_stops hrest

/-! ### Powers and signs -/

/-- What ends a power ends its exponent. -/
theorem Stops.exponent (h : Stops 15 rest) : Stops 14 rest := by
  intro t ht
  cases h t ht with
  | closing => exact .closing
  | comma => exact .comma
  | connective op h =>
    refine .connective op (lt_of_lt_of_le ?_ (by omega : 5 ≤ 14))
    cases op <;> decide
  | comparator op h => exact .comparator op (by omega)
  | binary op h =>
    refine .binary op ?_
    revert h
    cases op <;> decide

theorem Parses.power (hp : Parses 16 ts p) (hq : Parses 14 us q) :
    Parses 15 (ts ++ .mark "**" :: us) (.binary (.inl .power) p q) := by
  obtain ⟨t, r, rfl, ht⟩ := hp.opens
  refine ⟨⟨t, _, rfl, ht.anti (by omega)⟩,
    plain_append.2 ⟨hp.plain, plain_cons.2 ⟨by simp, hq.plain⟩⟩, fun n rest hn hrest => ?_⟩
  have hawait : t ≠ .keyword "await" := ht.ne_keyword (Or.inl (by decide))
  rw [List.length_append, List.length_cons, List.length_cons] at hn
  obtain ⟨m, rfl⟩ : ∃ m, n = m + 1 := ⟨n - 1, by omega⟩
  have hbase : primary m (t :: (r ++ .mark "**" :: (us ++ rest))) =
      some (p, .mark "**" :: (us ++ rest)) :=
    hp.parse _ _ (by rw [List.length_cons]; omega) (stops_cons (.binary .power (by decide)) _)
  have hexponent : signed m (us ++ rest) = some (q, rest) := hq.parse _ _ (by omega) hrest.exponent
  have htext : t :: r ++ .mark "**" :: us ++ rest = t :: (r ++ .mark "**" :: (us ++ rest)) := by simp
  rw [rule, htext]
  unfold Expression.power
  split
  · rename_i hr
    exact absurd (List.cons.inj hr).1 hawait
  · simp [hbase, hexponent]

theorem Parses.sign {op : UnaryOp} (hop : op ≠ .not) (h : Parses 14 ts p) :
    Parses 14 (.mark op.sign :: ts) (.unary (.inl op) p) := by
  have hsign : signOf (.mark op.sign) = some (.inl op) := by
    cases op
    · rfl
    · rfl
    · exact absurd rfl hop
  refine ⟨⟨_, _, rfl, ?_⟩, ?_, fun n rest hn hrest => ?_⟩
  · cases op
    · exact .negative le_rfl
    · exact .positive le_rfl
    · exact absurd rfl hop
  · refine plain_cons.2 ⟨?_, h.plain⟩
    cases op <;> simp [UnaryOp.sign]
  · rw [List.length_cons] at hn
    obtain ⟨m, rfl⟩ : ∃ m, n = m + 1 := ⟨n - 1, by omega⟩
    have hoperand : signed m (ts ++ rest) = some (p, rest) := h.parse _ _ (by omega) hrest
    rw [rule, List.cons_append, signed]
    simp [hsign, hoperand]

/-! ### Operators that group to the left -/

/-- The tokens are a left operand on a level of operators: more operators may follow. -/
structure Spine (k : ℕ) (ts : List Token) (p : Phrase) : Prop where
  opens : ∃ t r, ts = t :: r ∧ Opens (k + 7) t
  plain : Plain ts
  parse : ∀ (n : ℕ) (rest : List Token), 24 * ts.length ≤ n + k + 13 → Stops (k + 8) rest →
    ∃ m, n ≤ m + ts.length + 1 ∧ operation n k (ts ++ rest) = moreOperations m k p rest

theorem Parses.spine (hk : k < 6) (h : Parses (k + 8) ts p) : Spine k ts p := by
  obtain ⟨t, r, rfl, ht⟩ := h.opens
  refine ⟨⟨t, r, rfl, ht.anti (by omega)⟩, h.plain, fun n rest hn hrest => ?_⟩
  rw [List.length_cons] at hn
  obtain ⟨m, rfl⟩ : ∃ m, n = m + 1 := ⟨n - 1, by omega⟩
  have hoperand := h.parse m _ (by rw [List.length_cons]; omega) hrest
  rw [show k + 8 = k + 1 + 7 by omega, rule_operation (by omega)] at hoperand
  refine ⟨m, by omega, ?_⟩
  rw [operation, if_pos hk, hoperand]
  rfl

theorem Spine.append (hk : k < 6) (h : Spine k ts p) {op : BinaryOp} (hop : op.depth = k + 7)
    (hq : Parses (k + 8) us q) :
    Spine k (ts ++ .mark op.sign :: us) (.binary (.inl op) p q) := by
  obtain ⟨t, r, rfl, ht⟩ := h.opens
  have hsign : operatorAt k (.mark op.sign) = some (.inl op) := by
    have hlevels : ∀ k < 6, op.depth = k + 7 → operatorAt k (.mark op.sign) = some (.inl op) := by
      cases op <;> decide
    exact hlevels k hk hop
  have hmark : Token.mark op.sign ≠ .mark ":=" ∧ Token.mark op.sign ≠ .mark "=" :=
    (Follows.binary op (Nat.lt_succ_self _)).plain
  refine ⟨⟨t, _, rfl, ht⟩, plain_append.2 ⟨h.plain, plain_cons.2 ⟨hmark, hq.plain⟩⟩,
    fun n rest hn hrest => ?_⟩
  rw [List.length_append, List.length_cons, List.length_cons] at hn
  obtain ⟨m, hm, hleft⟩ := h.parse n (.mark op.sign :: (us ++ rest))
    (by rw [List.length_cons]; omega) (stops_cons (.binary op (by omega)) _)
  rw [List.length_cons] at hm
  obtain ⟨m, rfl⟩ : ∃ m', m = m' + 1 := ⟨m - 1, by omega⟩
  have hright := hq.parse m _ (by omega) hrest
  rw [show k + 8 = k + 1 + 7 by omega, rule_operation (by omega)] at hright
  have htext : t :: r ++ .mark op.sign :: us ++ rest = t :: r ++ .mark op.sign :: (us ++ rest) :=
    List.append_assoc _ _ _
  refine ⟨m, by rw [List.length_append, List.length_cons, List.length_cons]; omega, ?_⟩
  rw [htext, hleft, moreOperations]
  simp only [hsign, hright, Option.bind_eq_bind, Option.bind_some]

theorem Spine.parses (hk : k < 6) (h : Spine k ts p) : Parses (k + 7) ts p := by
  obtain ⟨t, r, rfl, ht⟩ := h.opens
  refine ⟨⟨t, r, rfl, ht⟩, h.plain, fun n rest hn hrest => ?_⟩
  obtain ⟨m, hm, hleft⟩ := h.parse n rest (by omega) (hrest.mono (by omega))
  rw [List.length_cons] at hn hm
  obtain ⟨m, rfl⟩ : ∃ m', m = m' + 1 := ⟨m - 1, by omega⟩
  rw [rule_operation (by omega), hleft, moreOperations_of_stops hk hrest]

/-! ### Connectives -/

/-- The operands of a connective. -/
def operands (n : ℕ) (op : Connective) (ts : List Token) : Option (List Phrase × List Token) := do
  let (p, r) ← junctionOperand n op ts
  let (ps, r) ← moreOperands n op r
  some (p :: ps, r)

theorem junction_of_operands {op : Connective} {ps : List Phrase} (hps : ps ≠ [])
    (h : operands n op ts = some (ps ++ [q], rest)) :
    junction (n + 1) op ts = some (.junction op (ps ++ [q]), rest) := by
  obtain ⟨x, xs, rfl⟩ := List.exists_cons_of_ne_nil hps
  rw [operands] at h
  obtain ⟨⟨y, r⟩, hfirst, h⟩ := Option.bind_eq_some_iff.1 h
  obtain ⟨⟨ys, r'⟩, hmore, h⟩ := Option.bind_eq_some_iff.1 h
  obtain ⟨hphrases, rfl⟩ := Prod.mk.inj (Option.some.inj h)
  obtain ⟨rfl, rfl⟩ := List.cons.inj hphrases
  rw [junction, hfirst]
  simp [hmore]

theorem depth_connective_le (op : Connective) : op.depth ≤ 4 := by
  cases op <;> decide

theorem rule_junctionOperand (op : Connective) (n : ℕ) (ts : List Token) :
    rule (op.depth + 1) n ts = junctionOperand n op ts := by
  cases op <;> rfl

theorem rule_junction (op : Connective) (n : ℕ) (ts : List Token) :
    rule op.depth n ts = junction n op ts := by
  cases op <;> rfl

/-- The tokens are operands of a connective, behind which more of them may follow. -/
structure Chain (op : Connective) (ts : List Token) (ps : List Phrase) : Prop where
  opens : ∃ t r, ts = t :: r ∧ Opens op.depth t
  plain : Plain ts
  parse : ∀ (n : ℕ) (rest : List Token), 24 * ts.length ≤ n + op.depth + 7 →
    Stops (op.depth + 1) rest → ∃ m, n ≤ m + ts.length ∧
      operands n op (ts ++ rest) = (moreOperands m op rest).map fun (qs, r) => (ps ++ qs, r)

variable {op : Connective} {ps : List Phrase}

theorem Parses.chain (h : Parses (op.depth + 1) ts p) : Chain op ts [p] := by
  obtain ⟨t, r, rfl, ht⟩ := h.opens
  refine ⟨⟨t, r, rfl, ht.anti (by omega)⟩, h.plain, fun n rest hn hrest => ⟨n, by omega, ?_⟩⟩
  have hoperand := h.parse n _ (by omega) hrest
  rw [rule_junctionOperand] at hoperand
  rw [operands, hoperand]
  simp only [Option.bind_eq_bind, Option.bind_some]
  cases moreOperands n op rest <;> rfl

theorem Chain.append (h : Chain op ts ps) (hq : Parses (op.depth + 1) us q) :
    Chain op (ts ++ .keyword (connectiveWord op) :: us) (ps ++ [q]) := by
  obtain ⟨t, r, rfl, ht⟩ := h.opens
  refine ⟨⟨t, _, rfl, ht⟩, plain_append.2 ⟨h.plain, plain_cons.2 ⟨by simp, hq.plain⟩⟩,
    fun n rest hn hrest => ?_⟩
  rw [List.length_append, List.length_cons, List.length_cons] at hn
  have hdepth := depth_connective_le op
  obtain ⟨m, hm, hleft⟩ := h.parse n (.keyword (connectiveWord op) :: (us ++ rest))
    (by rw [List.length_cons]; omega) (stops_cons (.connective op (by omega)) _)
  rw [List.length_cons] at hm
  obtain ⟨m, rfl⟩ : ∃ m', m = m' + 1 := ⟨m - 1, by omega⟩
  have hright := hq.parse m _ (by omega) hrest
  rw [rule_junctionOperand] at hright
  have hword : afterConnective op (.keyword (connectiveWord op) :: (us ++ rest)) =
      some (us ++ rest) := if_pos rfl
  have htext : t :: r ++ .keyword (connectiveWord op) :: us ++ rest =
      t :: r ++ .keyword (connectiveWord op) :: (us ++ rest) := List.append_assoc _ _ _
  refine ⟨m, by rw [List.length_append, List.length_cons, List.length_cons]; omega, ?_⟩
  rw [htext, hleft, moreOperands, hword]
  simp only [hright, Option.bind_eq_bind, Option.bind_some]
  cases moreOperands m op rest <;> simp

theorem Chain.parses (hps : ps ≠ []) (h : Chain op ts (ps ++ [q])) :
    Parses op.depth ts (.junction op (ps ++ [q])) := by
  obtain ⟨t, r, rfl, ht⟩ := h.opens
  refine ⟨⟨t, r, rfl, ht⟩, h.plain, fun n rest hn hrest => ?_⟩
  rw [List.length_cons] at hn
  have hdepth := depth_connective_le op
  obtain ⟨n, rfl⟩ : ∃ n', n = n' + 1 := ⟨n - 1, by omega⟩
  obtain ⟨m, hm, hleft⟩ := h.parse n rest (by rw [List.length_cons]; omega)
    (hrest.mono (by omega))
  rw [List.length_cons] at hm
  obtain ⟨m, rfl⟩ : ∃ m', m = m' + 1 := ⟨m - 1, by omega⟩
  simp only [moreOperands_of_stops hrest, Option.map_some, List.append_nil] at hleft
  rw [rule_junction]
  exact junction_of_operands hps hleft

/-! ### Comparisons and `not` -/

theorem Parses.not (h : Parses 6 ts p) :
    Parses 6 (.keyword "not" :: ts) (.unary (.inl .not) p) := by
  refine ⟨⟨_, _, rfl, .not le_rfl⟩, plain_cons.2 ⟨by simp, h.plain⟩, fun n rest hn hrest => ?_⟩
  rw [List.length_cons] at hn
  obtain ⟨m, rfl⟩ : ∃ m, n = m + 1 := ⟨n - 1, by omega⟩
  have hoperand : inversion m (ts ++ rest) = some (p, rest) := h.parse _ _ (by omega) hrest
  rw [rule, List.cons_append, inversion]
  simp [hoperand]

/-- The tokens are comparisons behind a first operand. -/
structure Links (ts : List Token) (links : List ((Comparator ⊕ Element) × Phrase)) : Prop where
  plain : Plain ts
  stops : ∀ {rest : List Token}, Stops 6 rest → Stops 7 (ts ++ rest)
  parse : ∀ (n : ℕ) (rest : List Token), 24 * ts.length + 1 ≤ n → Stops 6 rest →
    comparisonLinks n (ts ++ rest) = some (links, rest)

variable {links : List ((Comparator ⊕ Element) × Phrase)}

theorem Links.nil : Links [] [] := by
  refine ⟨plain_nil, fun hrest => hrest.mono (by omega), fun n rest hn hrest => ?_⟩
  obtain ⟨m, rfl⟩ : ∃ m, n = m + 1 := ⟨n - 1, by omega⟩
  exact comparisonLinks_of_stops hrest

theorem Links.cons (op : Comparator) (hq : Parses 7 us q) (h : Links ts links) :
    Links (.mark op.sign :: (us ++ ts)) ((.inl op, q) :: links) := by
  have hcomparator (r : List Token) : comparatorAt (.mark op.sign :: r) = some (.inl op, r) := by
    cases op <;> rfl
  have hfollows : Follows 7 (.mark op.sign) := .comparator op (by omega)
  refine ⟨plain_cons.2 ⟨hfollows.plain, plain_append.2 ⟨hq.plain, h.plain⟩⟩,
    fun _ => stops_cons hfollows _, fun n rest hn hrest => ?_⟩
  rw [List.length_cons, List.length_append] at hn
  obtain ⟨m, rfl⟩ : ∃ m, n = m + 1 := ⟨n - 1, by omega⟩
  have hoperand : operation m 0 (us ++ (ts ++ rest)) = some (q, ts ++ rest) :=
    hq.parse _ _ (by omega) (h.stops hrest)
  have hmore := h.parse m _ (by omega) hrest
  rw [List.cons_append, List.append_assoc, comparisonLinks, hcomparator]
  simp [hoperand, hmore]

theorem Parses.comparison (hp : Parses 7 ts p) (h : Links us links) (hne : links ≠ []) :
    Parses 6 (ts ++ us) (.comparison p links) := by
  obtain ⟨t, r, rfl, ht⟩ := hp.opens
  refine ⟨⟨t, _, rfl, ht.anti (by omega)⟩, plain_append.2 ⟨hp.plain, h.plain⟩,
    fun n rest hn hrest => ?_⟩
  have hnot : t ≠ .keyword "not" := ht.ne_keyword (Or.inr (by omega))
  rw [List.length_append, List.length_cons] at hn
  obtain ⟨m, rfl⟩ : ∃ m, n = m + 1 := ⟨n - 1, by omega⟩
  have hoperand : operation m 0 (t :: (r ++ (us ++ rest))) = some (p, us ++ rest) :=
    hp.parse m _ (by rw [List.length_cons]; omega) (h.stops hrest)
  have hlinks := h.parse m _ (by omega) hrest
  rw [rule, List.append_assoc, List.cons_append]
  unfold inversion
  split
  · rename_i hr
    exact absurd (List.cons.inj hr).1 hnot
  · simp [hoperand, hlinks, hne]

/-! ### Calls -/

/-- The tokens are arguments behind the first one, up to the closing parenthesis. -/
structure MoreArguments (ts : List Token) (ps : List Phrase) : Prop where
  plain : Plain ts
  front : ∀ rest : List Token, ∃ m r, ts ++ .mark ")" :: rest = .mark m :: r ∧
    Follows 0 (.mark m)
  parse : ∀ (n : ℕ) (rest : List Token), 24 * ts.length + 1 ≤ n →
    moreArguments n .positional (ts ++ .mark ")" :: rest) = some ((ps, false), rest)

theorem MoreArguments.nil : MoreArguments [] [] := by
  refine ⟨plain_nil, fun rest => ⟨")", rest, rfl, .closing⟩, fun n rest hn => ?_⟩
  obtain ⟨m, rfl⟩ : ∃ m, n = m + 1 := ⟨n - 1, by omega⟩
  rfl

/-- An argument, and those behind it. -/
theorem arguments_of_named {stage : ArgumentStage} (hstage : stage = .first ∨ stage = .positional)
    (hp : Parses 0 ts p) (h : MoreArguments us ps) (hn : 24 * (ts.length + us.length) ≤ n) :
    arguments (n + 1) stage (ts ++ (us ++ .mark ")" :: rest)) = some ((p :: ps, false), rest) := by
  obtain ⟨t, r, rfl, ht⟩ := hp.opens
  obtain ⟨m, r', hfront, hfollows⟩ := h.front rest
  have hclosing : t ≠ .mark ")" := ht.ne_mark (by decide)
  have hstar : t ≠ .mark "*" := ht.ne_mark (by decide)
  have hstars : t ≠ .mark "**" := ht.ne_mark (by decide)
  have hstops : Stops 0 (.mark m :: r') := stops_cons hfollows r'
  rw [List.length_cons] at hn
  have hmore := h.parse n rest (by omega)
  rw [hfront] at hmore ⊢
  have hargument : namedExpression n (t :: (r ++ .mark m :: r')) = some (p, .mark m :: r') :=
    hp.parse n _ (by rw [List.length_cons]; omega) hstops
  rw [List.cons_append]
  unfold arguments
  split
  · rename_i hr
    exact absurd (List.cons.inj hr).1 hclosing
  · rename_i hr
    exact absurd (List.cons.inj hr).1 hstar
  · rename_i hr
    exact absurd (List.cons.inj hr).1 hstars
  · rename_i hr
    exact absurd rfl (second_of_plain hp.plain hstops hr).2
  · simp [hstage, hargument, hmore]

theorem MoreArguments.cons (hp : Parses 0 ts p) (h : MoreArguments us ps) :
    MoreArguments (.mark "," :: (ts ++ us)) (p :: ps) := by
  refine ⟨plain_cons.2 ⟨by simp, plain_append.2 ⟨hp.plain, h.plain⟩⟩,
    fun rest => ⟨",", _, rfl, .comma⟩, fun n rest hn => ?_⟩
  rw [List.length_cons, List.length_append] at hn
  obtain ⟨m, rfl⟩ : ∃ m, n = m + 2 := ⟨n - 2, by omega⟩
  rw [List.cons_append, List.append_assoc]
  exact arguments_of_named (Or.inr rfl) hp h (by omega)

/-- The tokens are the arguments of a call, up to the closing parenthesis. -/
structure Arguments (ts : List Token) (ps : List Phrase) : Prop where
  plain : Plain ts
  parse : ∀ (n : ℕ) (rest : List Token), 24 * ts.length + 1 ≤ n →
    arguments n .first (ts ++ .mark ")" :: rest) = some ((ps, false), rest)

theorem Arguments.nil : Arguments [] [] := by
  refine ⟨plain_nil, fun n rest hn => ?_⟩
  obtain ⟨m, rfl⟩ : ∃ m, n = m + 1 := ⟨n - 1, by omega⟩
  rfl

theorem Arguments.cons (hp : Parses 0 ts p) (h : MoreArguments us ps) :
    Arguments (ts ++ us) (p :: ps) := by
  refine ⟨plain_append.2 ⟨hp.plain, h.plain⟩, fun n rest hn => ?_⟩
  rw [List.length_append] at hn
  obtain ⟨m, rfl⟩ : ∃ m, n = m + 1 := ⟨n - 1, by omega⟩
  rw [List.append_assoc]
  exact arguments_of_named (Or.inl rfl) hp h (by omega)

theorem Parses.call (f : String) (h : Arguments ts ps) :
    Parses 16 (.name f :: .mark "(" :: (ts ++ [.mark ")"])) (.call (.name f) ps false) := by
  have hclosing : Plain [.mark ")"] := plain_cons.2 ⟨by simp, plain_nil⟩
  refine ⟨⟨_, _, rfl, .name f⟩, plain_cons.2 ⟨by simp, plain_cons.2 ⟨by simp,
    plain_append.2 ⟨h.plain, hclosing⟩⟩⟩, fun n rest hn hrest => ?_⟩
  simp only [List.length_cons, List.length_append, List.length_nil] at hn
  obtain ⟨m, rfl⟩ : ∃ m, n = m + 4 := ⟨n - 4, by omega⟩
  have harguments := h.parse (m + 2) rest (by omega)
  have htext : .name f :: .mark "(" :: (ts ++ [.mark ")"]) ++ rest =
      .name f :: .mark "(" :: (ts ++ .mark ")" :: rest) := by simp
  have hatom : Expression.atom (m + 3) (.name f :: .mark "(" :: (ts ++ .mark ")" :: rest)) =
      some (.name f, .mark "(" :: (ts ++ .mark ")" :: rest)) := rfl
  rw [rule, htext, primary, hatom]
  simp only [Option.bind_eq_bind, Option.bind_some]
  rw [primaryTail]
  simp only [harguments, Option.bind_eq_bind, Option.bind_some]
  exact primaryTail_of_stops hrest

/-! ## Whole texts -/

/-- The tokens of an expression are its phrase. -/
theorem Parses.ofTokens? (h : Parses 1 ts p) (hn : 24 * ts.length ≤ n) :
    Phrase.ofTokens? n ts = some p := by
  have hwhole : expression n (ts ++ []) = some (p, []) := h.parse _ _ (by omega) nofun
  rw [List.append_nil] at hwhole
  rw [Phrase.ofTokens?, hwhole]

end Expression

end GrowthGrammar
