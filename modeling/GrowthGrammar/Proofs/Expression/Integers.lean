import GrowthGrammar.Proofs.Expression.Stray
import GrowthGrammar.Proofs.Number.Rounding
import GrowthGrammar.Proofs.Value.Integers
import Mathlib.Logic.Relation

/-!
# Integers met in an evaluation

`Expr.integerBound` bounds the integer of an expression by its form; what is made of literals and
variables alone has none.  `Expr.Reaches` says which expressions are evaluated on the way to a value.
Main statement: all integers that an evaluation meets are within the doubles exactly if none of its
sums, differences, products and powers takes integers beyond them (`integers_withinDoubles_iff`), which
truth values are enough to write (`integers_beyond_doubles`).
-/

namespace GrowthGrammar

open Number

variable {env : Environment} {b : Option ℕ} {e d : Expr} {k : ℕ} {v : Value}

/-! ## Bounds from the form of an expression -/

theorem integersAtMost_lift {x : Except Fault Value} (h : IntegersAtMost b x) :
    IntegersAtMost b (Expr.lift x) :=
  fun v hv => h v (mapError_eq_ok.1 hv)

namespace Expr

mutual

/-- A bound on the integers that an expression comes to in any environment, if it comes to some. -/
def integerBound : Expr → Option ℕ
  | literal _ => none
  | truth _ => some 1
  | name n => if n = "__debug__" ∨ n = "true" ∨ n = "false" then some 1 else none
  | unary .not _ => some 1
  | unary _ e => integerBound e
  | binary op l r =>
    (integerBound l).bind fun m => (integerBound r).bind fun n => op.integerBound m n
  | connective _ l r => Option.merge max (integerBound l) (integerBound r)
  | comparison _ _ => some 1
  | call f args => if f.keepsIntegers then greatestBound args else none

/-- The greatest bound of the integers of some expressions. -/
def greatestBound : List Expr → Option ℕ
  | [] => none
  | e :: r => Option.merge max (integerBound e) (greatestBound r)

end

theorem integerBound_name_le {n : String} : ∀ m ∈ integerBound (name n), m ≤ 1 := by
  intro m hm
  rw [integerBound] at hm
  split_ifs at hm
  · obtain rfl := Option.some.inj hm
    exact le_rfl
  · cases hm

theorem atMost_builtinValue {n : String} (h : builtinValue? n = some v) :
    v.AtMost (integerBound (name n)) := by
  unfold builtinValue? at h
  split at h
  · obtain rfl := Option.some.inj h
    exact nofun
  · split_ifs at h with hpi he htrue hfalse hbuiltins <;> obtain rfl := Option.some.inj h
    · exact Value.atMost_double _
    · exact Value.atMost_double _
    · rw [integerBound, if_pos (Or.inr (Or.inl htrue))]
      exact Value.atMost_truth true le_rfl
    · rw [integerBound, if_pos (Or.inr (Or.inr hfalse))]
      exact Value.atMost_truth false le_rfl
    · exact nofun

theorem integersAtMost_valueOf (env : Environment) (n : String) :
    IntegersAtMost (integerBound (name n)) (valueOf env n) := by
  unfold valueOf
  split_ifs with hdebug
  · rw [integerBound, if_pos (Or.inl hdebug)]
    exact integersAtMost_ok (Value.atMost_truth true le_rfl)
  · split
    · exact integersAtMost_double _
    · split
      · rename_i v hv
        exact integersAtMost_ok (atMost_builtinValue hv)
      · exact integersAtMost_error _

theorem exists_truth_of_evalLinks {links : List (Comparator × Expr)} {left : Value}
    (h : evalLinks env left links = .ok v) : ∃ c, v = .truth c := by
  induction links generalizing left with
  | nil =>
    obtain rfl := Except.ok.inj h
    exact ⟨true, rfl⟩
  | cons link links ih =>
    rw [evalLinks] at h
    obtain ⟨right, -, h⟩ := bind_eq_ok.1 h
    obtain ⟨c, -, h⟩ := bind_eq_ok.1 h
    split_ifs at h
    · exact ih h
    · obtain rfl := Except.ok.inj h
      exact ⟨false, rfl⟩

theorem integersAtMost_apply (env : Environment) (f : Builtin) {vs : List Value}
    (h : ∀ v ∈ vs, v.AtMost b) :
    IntegersAtMost (if f.keepsIntegers then b else none) (apply env f vs) := by
  have hcall := integersAtMost_lift (Builtin.integersAtMost_call f h)
  unfold apply
  cases env.find? f.name with
  | some x => exact integersAtMost_error _
  | none => exact hcall

mutual

/-- The form of an expression bounds its integer. -/
theorem integersAtMost_eval (env : Environment) : ∀ e : Expr, IntegersAtMost e.integerBound (eval env e)
  | literal x => integersAtMost_double x
  | truth c => integersAtMost_ok (Value.atMost_truth c le_rfl)
  | name n => integersAtMost_valueOf env n
  | unary op e => by
    intro u hu
    rw [eval] at hu
    obtain ⟨v, hv, hu⟩ := bind_eq_ok.1 hu
    have hbound := integersAtMost_eval env e v hv
    cases op with
    | not => exact integersAtMost_lift (integersAtMost_ok (Value.atMost_truth _ le_rfl)) u hu
    | negative => exact integersAtMost_lift (Value.integersAtMost_negative hbound) u hu
    | positive => exact integersAtMost_lift (Value.integersAtMost_positive hbound) u hu
  | binary op l r => by
    intro u hu
    rw [eval] at hu
    obtain ⟨v, hv, hu⟩ := bind_eq_ok.1 hu
    obtain ⟨w, hw, hu⟩ := bind_eq_ok.1 hu
    rw [integerBound]
    exact integersAtMost_lift (Value.integersAtMost_binary op (integersAtMost_eval env l v hv)
      (integersAtMost_eval env r w hw)) u hu
  | connective op l r => by
    intro u hu
    rw [eval] at hu
    obtain ⟨v, hv, hu⟩ := bind_eq_ok.1 hu
    rw [integerBound]
    split_ifs at hu
    · obtain rfl := Except.ok.inj hu
      exact (integersAtMost_eval env l v hv).merge_left _
    · exact (integersAtMost_eval env r u hu).merge_right _
  | comparison first links => by
    intro u hu
    rw [eval] at hu
    obtain ⟨v, -, hu⟩ := bind_eq_ok.1 hu
    obtain ⟨c, rfl⟩ := exists_truth_of_evalLinks hu
    rw [integerBound]
    exact Value.atMost_truth c le_rfl
  | call f args => by
    intro u hu
    rw [eval] at hu
    obtain ⟨vs, hvs, hu⟩ := bind_eq_ok.1 hu
    rw [integerBound]
    exact integersAtMost_apply env f (atMost_of_evalAll env args vs hvs) u hu

theorem atMost_of_evalAll (env : Environment) :
    ∀ (es : List Expr) (vs : List Value), evalAll env es = .ok vs →
      ∀ v ∈ vs, v.AtMost (greatestBound es)
  | [], vs, h => by
    obtain rfl := Except.ok.inj h
    exact nofun
  | e :: es, vs, h => by
    rw [evalAll] at h
    obtain ⟨v, hv, h⟩ := bind_eq_ok.1 h
    obtain ⟨ws, hws, h⟩ := bind_eq_ok.1 h
    obtain rfl := Except.ok.inj h
    rw [greatestBound]
    exact List.forall_mem_cons.2 ⟨(integersAtMost_eval env e v hv).merge_left _,
      fun w hw => (atMost_of_evalAll env es ws hws w hw).merge_right _⟩

end

/-! ## Parts that are evaluated -/

/-- The parts of an expression that are evaluated directly for its value. -/
inductive Part (env : Environment) : Expr → Expr → Prop
  | operand {op e} : Part env (unary op e) e
  | left {op l r} : Part env (binary op l r) l
  | right {op l r v} (hleft : eval env l = .ok v) : Part env (binary op l r) r
  | deciding {op l r} : Part env (connective op l r) l
  | undecided {op l r v} (hleft : eval env l = .ok v) (hv : decides op v = false) :
      Part env (connective op l r) r
  | first {e links} : Part env (comparison e links) e
  | link {first op e before after v} (hfirst : eval env first = .ok v)
      (hbefore : evalLinks env v before = .ok (.truth true)) :
      Part env (comparison first (before ++ (op, e) :: after)) e
  | argument {f e before after vs} (hbefore : evalAll env before = .ok vs) :
      Part env (call f (before ++ e :: after)) e

/-- An expression is evaluated on the way to the value of another one. -/
def Reaches (env : Environment) : Expr → Expr → Prop :=
  Relation.ReflTransGen (Part env)

/-- An expression comes to an integer, a truth value being zero or one. -/
def ComesTo (env : Environment) (e : Expr) (i : Int) : Prop :=
  ∃ v, e.eval env = .ok v ∧ v.quantum? = some (.integer i)

theorem exists_of_mem_evalAll {es : List Expr} {vs : List Value} (h : evalAll env es = .ok vs)
    (hv : v ∈ vs) : ∃ before d after us, es = before ++ d :: after ∧
      evalAll env before = .ok us ∧ d.eval env = .ok v := by
  induction es generalizing vs with
  | nil =>
    obtain rfl := Except.ok.inj h
    cases hv
  | cons e es ih =>
    rw [evalAll] at h
    obtain ⟨w, hw, h⟩ := bind_eq_ok.1 h
    obtain ⟨ws, hws, h⟩ := bind_eq_ok.1 h
    obtain rfl := Except.ok.inj h
    rcases List.mem_cons.1 hv with rfl | hv
    · exact ⟨[], e, es, [], rfl, rfl, hw⟩
    · obtain ⟨before, d, after, us, rfl, hus, hd⟩ := ih hws hv
      refine ⟨e :: before, d, after, w :: us, rfl, ?_, hd⟩
      rw [evalAll, hw, hus]
      rfl

/-- If the growing operators met on the way keep integers within a bound, so does every part met. -/
theorem integersAtMost_of_reaches (hk : 1 ≤ k)
    (hgrows : ∀ op l r, BinaryOp.grows op = true → Reaches env e (binary op l r) →
      ∀ v w, l.eval env = .ok v → r.eval env = .ok w → v.AtMost (some k) → w.AtMost (some k) →
        IntegersAtMost (some k) (Value.binary op v w)) :
    ∀ d, Reaches env e d → IntegersAtMost (some k) (d.eval env)
  | literal x, _ => integersAtMost_double x
  | truth c, _ => integersAtMost_ok (Value.atMost_truth c hk)
  | name n, _ => fun u hu => (integersAtMost_valueOf env n u hu).of_le fun m hm =>
      (integerBound_name_le m hm).trans hk
  | unary op d, hd => by
    intro u hu
    rw [eval] at hu
    obtain ⟨v, hv, hu⟩ := bind_eq_ok.1 hu
    have hoperand := integersAtMost_of_reaches hk hgrows d (hd.tail .operand) v hv
    cases op with
    | not =>
      obtain rfl := Except.ok.inj hu
      exact Value.atMost_truth _ hk
    | negative => exact integersAtMost_lift (Value.integersAtMost_negative hoperand) u hu
    | positive => exact integersAtMost_lift (Value.integersAtMost_positive hoperand) u hu
  | binary op l r, hd => by
    intro u hu
    rw [eval] at hu
    obtain ⟨v, hv, hu⟩ := bind_eq_ok.1 hu
    obtain ⟨w, hw, hu⟩ := bind_eq_ok.1 hu
    have hleft := integersAtMost_of_reaches hk hgrows l (hd.tail .left) v hv
    have hright := integersAtMost_of_reaches hk hgrows r (hd.tail (.right hv)) w hw
    cases hop : op.grows with
    | true => exact integersAtMost_lift (hgrows op l r hop hd v w hv hw hleft hright) u hu
    | false =>
      exact integersAtMost_lift (Value.integersAtMost_binary_of_not_grows hop hleft hright) u hu
  | connective op l r, hd => by
    intro u hu
    rw [eval] at hu
    obtain ⟨v, hv, hu⟩ := bind_eq_ok.1 hu
    split_ifs at hu with hdecides
    · obtain rfl := Except.ok.inj hu
      exact integersAtMost_of_reaches hk hgrows l (hd.tail .deciding) v hv
    · exact integersAtMost_of_reaches hk hgrows r
        (hd.tail (.undecided hv (Bool.eq_false_iff.2 hdecides))) u hu
  | comparison first links, hd => by
    intro u hu
    rw [eval] at hu
    obtain ⟨v, -, hu⟩ := bind_eq_ok.1 hu
    obtain ⟨c, rfl⟩ := exists_truth_of_evalLinks hu
    exact Value.atMost_truth c hk
  | call f args, hd => by
    intro u hu
    rw [eval] at hu
    obtain ⟨vs, hvs, hu⟩ := bind_eq_ok.1 hu
    have hargs : ∀ v ∈ vs, v.AtMost (some k) := by
      intro v hv
      obtain ⟨before, a, after, us, rfl, hus, ha⟩ := exists_of_mem_evalAll hvs hv
      -- An argument is no structural part of its list here, so the recursion is on the size.
      have hsize : sizeOf a < sizeOf (before ++ a :: after) :=
        List.sizeOf_lt_of_mem (List.mem_append_right before List.mem_cons_self)
      exact integersAtMost_of_reaches hk hgrows a (hd.tail (.argument hus)) v ha
    refine (integersAtMost_apply env f hargs u hu).of_le fun m hm => ?_
    split_ifs at hm
    · exact (Option.some.inj hm).ge
    · cases hm
termination_by d => sizeOf d

/-- All integers met are within a bound exactly if no growing operator that is met takes integers
within it beyond it. -/
theorem integers_le_iff (hk : 1 ≤ k) :
    (∀ d i, Reaches env e d → d.ComesTo env i → i.natAbs ≤ k) ↔
      ∀ op l r i j n, BinaryOp.grows op = true → Reaches env e (binary op l r) → l.ComesTo env i →
        r.ComesTo env j → i.natAbs ≤ k → j.natAbs ≤ k → (binary op l r).ComesTo env n →
          n.natAbs ≤ k := by
  constructor
  · intro h op l r i j n _ hreaches _ _ _ _ hn
    exact h _ n hreaches hn
  · rintro h d i hreaches ⟨v, hv, hi⟩
    refine Value.atMost_some_iff.1 (integersAtMost_of_reaches hk ?_ d hreaches v hv) i hi
    intro op l r hop hreaches v w hv hw hleft hright u hu
    refine Value.atMost_some_iff.2 fun n hn => ?_
    obtain ⟨i, j, hi, hj, -⟩ := Value.exists_integers_of_binary hu hn
    have hcomes : (binary op l r).ComesTo env n := by
      refine ⟨u, ?_, hn⟩
      rw [eval, hv, ok_bind, hw, ok_bind, hu]
      rfl
    exact h op l r i j n hop hreaches ⟨v, hv, hi⟩ ⟨w, hw, hj⟩ (Value.atMost_some_iff.1 hleft i hi)
      (Value.atMost_some_iff.1 hright j hj) hcomes

end Expr

/-! ## Main statement -/

/-- The largest finite double, a whole number. -/
def largestFinite : ℕ :=
  (twoTo 53 - 1) * twoTo 971

theorem whole?_largestFinite :
    whole? (ofMagnitude false (infinityMagnitude - 1)) = some (largestFinite : Int) := by
  decide +kernel

/-- A quantity whose form keeps its integer within the doubles strays in no environment: its integer is
short enough to be shown. -/
theorem Quantity.not_strays_of_integerBound {q : Quantity}
    (h : ∀ m ∈ q.expr.integerBound, m ≤ largestFinite) (env : Environment) (s : Stray) :
    ¬q.Strays env s := by
  rintro ⟨hvalue, -, hlong⟩
  obtain ⟨m, hm, hle⟩ := Expr.integersAtMost_eval env q.expr _ hvalue _ rfl
  have hlargest : largestFinite < 10 ^ 309 := by decide +kernel
  have hdigits := digitCount_le_of_lt_pow (by decide) ((hle.trans (h m hm)).trans_lt hlargest)
  have hlimit : digitLimit = 4300 := rfl
  omega

/-- All integers that an evaluation meets are within the doubles exactly if no sum, difference, product
or power of integers within them is an integer beyond them.  In any case the integer of an expression
is bounded by its form. -/
theorem integers_withinDoubles_iff (env : Environment) (e : Expr) :
    ((∀ (d : Expr) (i : Int), Expr.Reaches env e d → d.ComesTo env i →
        i.natAbs ≤ largestFinite) ↔
      ∀ (op : BinaryOp) (l r : Expr) (i j n : Int), op.grows = true →
        Expr.Reaches env e (.binary op l r) → l.ComesTo env i → r.ComesTo env j →
          i.natAbs ≤ largestFinite → j.natAbs ≤ largestFinite →
            (Expr.binary op l r).ComesTo env n → n.natAbs ≤ largestFinite) ∧
    ∀ (d : Expr) (i : Int), d.ComesTo env i → ∃ m ∈ d.integerBound, i.natAbs ≤ m := by
  have hone : 1 ≤ largestFinite := Nat.mul_pos (by decide) (twoTo_pos 971)
  refine ⟨Expr.integers_le_iff hone, ?_⟩
  rintro d i ⟨v, hv, hi⟩
  exact Expr.integersAtMost_eval env d v hv i hi

/-- The value is an integer beyond the doubles. -/
def Value.isBeyondDoubles : Value → Bool
  | integer i => largestFinite < i.natAbs
  | _ => false

/-- Three to the power 729, of truth values, without itself. -/
def powerDifference : List Char :=
  ("(true+true+true)^((true+true+true)^(true+true+true+true+true+true)) - " ++
    "(true+true+true)^((true+true+true)^(true+true+true+true+true+true))").toList

/-- A difference may come to a double although its operands are integers beyond the doubles. -/
theorem integers_beyond_doubles :
    ∃ q d i, Quantity.read powerDifference = .ok q ∧ Expr.Reaches .empty q.expr d ∧
      d.ComesTo .empty i ∧ largestFinite < i.natAbs ∧ ∃ x, q.evaluate .empty = .ok x := by
  have hread : okAnd (fun q => (match q.expr with
      | .binary _ l _ => okAnd Value.isBeyondDoubles (l.eval .empty)
      | _ => false) && okAnd (fun _ => true) (q.evaluate .empty))
      (Quantity.read powerDifference) = true := by
    decide +kernel
  obtain ⟨q, hq, htest⟩ := okAnd_iff.1 hread
  obtain ⟨hoperand, hvalue⟩ := Bool.and_eq_true_iff.1 htest
  obtain ⟨x, hx, -⟩ := okAnd_iff.1 hvalue
  split at hoperand
  · rename_i op l r hexpr
    obtain ⟨v, hv, hbeyond⟩ := okAnd_iff.1 hoperand
    cases v with
    | integer i =>
      rw [Value.isBeyondDoubles, decide_eq_true_iff] at hbeyond
      refine ⟨q, l, i, hq, ?_, ⟨_, hv, rfl⟩, hbeyond, x, hx⟩
      rw [hexpr]
      exact .single .left
    | _ => cases hbeyond
  · cases hoperand

end GrowthGrammar
