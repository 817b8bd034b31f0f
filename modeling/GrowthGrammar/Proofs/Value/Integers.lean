import GrowthGrammar.Proofs.Fallible
import GrowthGrammar.Value.Builtin
import Mathlib.Order.Lattice.Nat

/-!
# Integers among values

Bounds on the integers that operators and functions come to, where truth values count as zero and
one.  An operator comes to an integer from two integers alone (`Value.exists_integers_of_binary`), and
a function only if it hands on one of its arguments (`Builtin.integersAtMost_call`).
-/

namespace GrowthGrammar

variable {ε α : Type} {b : Option ℕ} {k m n : ℕ} {u v w : Value}

/-! ## Generic rules -/

/-- The value is no integer, or one whose magnitude is at most a bound; without a bound it is none. -/
def Value.AtMost (v : Value) (b : Option ℕ) : Prop :=
  ∀ i, v.quantum? = some (.integer i) → ∃ m ∈ b, i.natAbs ≤ m

/-- A step comes to no integer beyond a bound. -/
def IntegersAtMost (b : Option ℕ) (x : Except ε Value) : Prop :=
  ∀ v, x = .ok v → v.AtMost b

theorem Value.atMost_some_iff :
    v.AtMost (some k) ↔ ∀ i, v.quantum? = some (.integer i) → i.natAbs ≤ k := by
  simp [Value.AtMost]

theorem Value.AtMost.of_le (h : v.AtMost b) (hb : ∀ m ∈ b, m ≤ k) : v.AtMost (some k) := by
  intro i hi
  obtain ⟨m, hm, him⟩ := h i hi
  exact ⟨k, rfl, him.trans (hb m hm)⟩

theorem Value.AtMost.merge_left (h : v.AtMost b) (c : Option ℕ) : v.AtMost (Option.merge max b c) := by
  intro i hi
  obtain ⟨m, rfl, him⟩ := h i hi
  cases c with
  | none => exact ⟨m, rfl, him⟩
  | some n => exact ⟨max m n, rfl, him.trans (le_max_left m n)⟩

theorem Value.AtMost.merge_right (h : v.AtMost b) (c : Option ℕ) :
    v.AtMost (Option.merge max c b) := by
  intro i hi
  obtain ⟨m, rfl, him⟩ := h i hi
  cases c with
  | none => exact ⟨m, rfl, him⟩
  | some n => exact ⟨max n m, rfl, him.trans (le_max_right n m)⟩

theorem Value.atMost_integer {i : Int} (h : i.natAbs ≤ m) : (Value.integer i).AtMost (some m) := by
  rintro _ ⟨⟩
  exact ⟨m, rfl, h⟩

theorem Value.atMost_truth (c : Bool) (hm : 1 ≤ m) : (Value.truth c).AtMost (some m) := by
  rintro _ ⟨⟩
  cases c with
  | false => exact ⟨m, rfl, Nat.zero_le m⟩
  | true => exact ⟨m, rfl, hm⟩

theorem Value.atMost_double (x : Float) : (Value.double x).AtMost b := nofun

theorem Value.atMost_complex (z : Complex) : (Value.complex z).AtMost b := nofun

theorem integersAtMost_ok (h : v.AtMost b) : IntegersAtMost b (.ok v : Except ε Value) := by
  rintro _ ⟨⟩
  exact h

theorem integersAtMost_error (e : ε) : IntegersAtMost b (.error e) := nofun

theorem integersAtMost_double (x : Float) : IntegersAtMost b (.ok (.double x) : Except ε Value) :=
  integersAtMost_ok (Value.atMost_double x)

theorem integersAtMost_bind {x : Except ε α} {f : α → Except ε Value}
    (h : ∀ a, IntegersAtMost b (f a)) : IntegersAtMost b (x >>= f) := by
  intro v hv
  obtain ⟨a, -, ha⟩ := bind_eq_ok.1 hv
  exact h a v ha

theorem integersAtMost_map {x : Except ε α} {f : α → Value} (h : ∀ a, (f a).AtMost b) :
    IntegersAtMost b (x.map f) := by
  intro v hv
  obtain ⟨a, -, rfl⟩ := map_eq_ok.1 hv
  exact h a

theorem integersAtMost_elim {o : Option α} {e : ε} {f : α → Except ε Value}
    (h : ∀ a, IntegersAtMost b (f a)) : IntegersAtMost b (o.elim (.error e) f) := by
  cases o with
  | none => exact integersAtMost_error e
  | some a => exact h a

theorem integersAtMost_ite {p : Prop} [Decidable p] {x y : Except ε Value}
    (hx : IntegersAtMost b x) (hy : IntegersAtMost b y) : IntegersAtMost b (if p then x else y) := by
  split_ifs
  · exact hx
  · exact hy

/-! ## Operators with two operands -/

/-- The operators that may come to an integer beyond both their operands. -/
def BinaryOp.grows : BinaryOp → Bool
  | add | subtract | multiply | power => true
  | divide | floorDivide | modulo => false

/-- A bound on the integers that an operator comes to from integers within bounds. -/
def BinaryOp.integerBound (op : BinaryOp) (m n : ℕ) : Option ℕ :=
  match op with
  | add | subtract => some (m + n)
  | multiply => some (m * n)
  | divide => none
  | floorDivide => some m
  | modulo => some n
  | power => some (max 1 m ^ n)

theorem integersAtMost_finitePower (x y : Float) : IntegersAtMost b (finitePower x y) := by
  unfold finitePower
  refine integersAtMost_ite
    (integersAtMost_ite (integersAtMost_error _) (integersAtMost_double _)) ?_
  exact integersAtMost_ite (integersAtMost_map Value.atMost_complex)
    (integersAtMost_ite (integersAtMost_error _) (integersAtMost_double _))

theorem integersAtMost_doublePower (x y : Float) : IntegersAtMost b (doublePower x y) := by
  unfold doublePower
  refine integersAtMost_ite (integersAtMost_double 1) ?_
  split
  · exact integersAtMost_double _
  · exact integersAtMost_double _
  · exact integersAtMost_finitePower x y
  · exact integersAtMost_double _

theorem BinaryOp.integersAtMost_onDoubles (op : BinaryOp) (x y : Float) :
    IntegersAtMost b (op.onDoubles x y) := by
  unfold onDoubles
  cases op with
  | power => exact integersAtMost_doublePower x y
  | add => exact integersAtMost_double _
  | subtract => exact integersAtMost_double _
  | multiply => exact integersAtMost_double _
  | _ => exact integersAtMost_ite (integersAtMost_error _) (integersAtMost_double _)

theorem natAbs_fmod_le (i : Int) {j : Int} (hj : j ≠ 0) : (i.fmod j).natAbs ≤ j.natAbs := by
  have hnonneg := Int.emod_nonneg i hj
  have hlt := Int.emod_lt i hj
  rw [Int.fmod_eq_emod]
  split_ifs with hsign
  · omega
  · obtain ⟨hneg, -⟩ := not_or.1 hsign
    omega

theorem BinaryOp.integersAtMost_onIntegers (op : BinaryOp) {i j : Int} (hi : i.natAbs ≤ m)
    (hj : j.natAbs ≤ n) : IntegersAtMost (op.integerBound m n) (op.onIntegers i j) := by
  cases op with
  | add => exact integersAtMost_ok (Value.atMost_integer (by omega))
  | subtract => exact integersAtMost_ok (Value.atMost_integer (by omega))
  | multiply =>
    refine integersAtMost_ok (Value.atMost_integer ?_)
    rw [Int.natAbs_mul]
    exact Nat.mul_le_mul hi hj
  | divide =>
    exact integersAtMost_ite (integersAtMost_error _) (integersAtMost_elim integersAtMost_double)
  | floorDivide =>
    have hquotient : (i.fdiv j).natAbs ≤ m := (Int.natAbs_fdiv_le_natAbs i j).trans hi
    exact integersAtMost_ite (integersAtMost_error _)
      (integersAtMost_ok (Value.atMost_integer hquotient))
  | modulo =>
    unfold onIntegers
    dsimp only
    split_ifs with hzero
    · exact integersAtMost_error _
    · exact integersAtMost_ok (Value.atMost_integer ((natAbs_fmod_le i hzero).trans hj))
  | power =>
    unfold onIntegers
    dsimp only
    split_ifs with hneg
    · exact integersAtMost_bind fun x => integersAtMost_bind fun y => integersAtMost_doublePower x y
    · refine integersAtMost_ok (Value.atMost_integer ?_)
      -- The power zero of zero is one, so the bound on the base starts at one.
      calc (i ^ j.toNat).natAbs = i.natAbs ^ j.toNat := Int.natAbs_pow i j.toNat
        _ ≤ max 1 m ^ j.toNat := Nat.pow_le_pow_left (hi.trans (le_max_right 1 m)) _
        _ ≤ max 1 m ^ n := Nat.pow_le_pow_right (le_max_left 1 m) (by omega)

/-- An operator comes to an integer from two integers alone. -/
theorem Value.exists_integers_of_binary {op : BinaryOp} {i : Int} (h : Value.binary op v w = .ok u)
    (hu : u.quantum? = some (.integer i)) :
    ∃ a c, v.quantum? = some (.integer a) ∧ w.quantum? = some (.integer c) ∧
      op.onIntegers a c = .ok u := by
  -- All operands but two integers meet in the doubles or in the complex numbers.
  have hnone {x : Except Fault Value} (hx : IntegersAtMost none x) : x ≠ .ok u := by
    intro hok
    obtain ⟨m, hm, -⟩ := hx u hok i hu
    cases hm
  unfold Value.binary at h
  split at h
  · rename_i a c ha hc
    exact ⟨a, c, ha, hc, h⟩
  · split_ifs at h
    · split at h
      · exact absurd h (hnone (integersAtMost_bind fun x => integersAtMost_bind fun y =>
          integersAtMost_map Value.atMost_complex))
      · cases h
    · exact absurd h (hnone (integersAtMost_bind fun x => integersAtMost_bind fun y =>
        op.integersAtMost_onDoubles x y))
  · cases h

theorem Value.integersAtMost_binary (op : BinaryOp) {c : Option ℕ} (hv : v.AtMost b)
    (hw : w.AtMost c) :
    IntegersAtMost (b.bind fun m => c.bind fun n => op.integerBound m n) (Value.binary op v w) := by
  intro u hu i hi
  obtain ⟨a, a', ha, ha', h⟩ := exists_integers_of_binary hu hi
  obtain ⟨m, rfl, ham⟩ := hv a ha
  obtain ⟨n, rfl, han⟩ := hw a' ha'
  exact op.integersAtMost_onIntegers ham han u h i hi

/-- Division and remainders come to no integer beyond both operands. -/
theorem Value.integersAtMost_binary_of_not_grows {op : BinaryOp} (hop : op.grows = false)
    (hv : v.AtMost (some k)) (hw : w.AtMost (some k)) :
    IntegersAtMost (some k) (Value.binary op v w) := by
  intro u hu
  have hbound := Value.integersAtMost_binary op hv hw u hu
  cases op with
  | divide =>
    intro i hi
    obtain ⟨m, hm, -⟩ := hbound i hi
    cases hm
  | floorDivide => exact hbound
  | modulo => exact hbound
  | _ => cases hop

/-! ## Operators with one operand -/

theorem Value.integersAtMost_negative (h : v.AtMost b) : IntegersAtMost b v.negative := by
  unfold negative
  split
  · rename_i i hi
    obtain ⟨m, rfl, him⟩ := h i hi
    exact integersAtMost_ok (Value.atMost_integer (by rwa [Int.natAbs_neg]))
  · exact integersAtMost_double _
  · exact integersAtMost_ok (Value.atMost_complex _)
  · exact integersAtMost_error _

theorem Value.integersAtMost_positive (h : v.AtMost b) : IntegersAtMost b v.positive := by
  unfold positive
  split
  · rename_i i hi
    obtain ⟨m, rfl, him⟩ := h i hi
    exact integersAtMost_ok (Value.atMost_integer him)
  · exact integersAtMost_double _
  · exact integersAtMost_ok (Value.atMost_complex _)
  · exact integersAtMost_error _

/-! ## Functions -/

namespace Builtin

/-- The functions that may hand on an integer among their arguments, up to its sign. -/
def keepsIntegers : Builtin → Bool
  | abs | min | max => true
  | _ => false

theorem integersAtMost_absolute (h : v.AtMost b) : IntegersAtMost b (absolute v) := by
  unfold absolute
  split
  · rename_i i hi
    obtain ⟨m, rfl, him⟩ := h i hi
    exact integersAtMost_ok (Value.atMost_integer (by rwa [Int.natAbs_natCast]))
  · exact integersAtMost_double _
  · exact integersAtMost_map Value.atMost_double
  · exact integersAtMost_error _

theorem integersAtMost_extreme (op : Comparator) {vs : List Value} (hv : v.AtMost b)
    (h : ∀ w ∈ vs, w.AtMost b) : IntegersAtMost b (extreme op v vs) := by
  induction vs generalizing v with
  | nil => exact integersAtMost_ok hv
  | cons w vs ih =>
    obtain ⟨hw, hvs⟩ := List.forall_mem_cons.1 h
    refine integersAtMost_bind fun c => ih ?_ hvs
    split_ifs
    · exact hw
    · exact hv

theorem integersAtMost_choose (f : Builtin) (op : Comparator) {vs : List Value}
    (h : ∀ w ∈ vs, w.AtMost b) : IntegersAtMost b (choose f op vs) := by
  unfold choose
  split
  · exact integersAtMost_error _
  · exact integersAtMost_error _
  · exact integersAtMost_error _
  · obtain ⟨hv, hvs⟩ := List.forall_mem_cons.1 h
    exact integersAtMost_extreme op hv hvs

theorem integersAtMost_withOne (f : Builtin) {g : Value → Except Fault Value} {vs : List Value}
    (h : ∀ v ∈ vs, IntegersAtMost b (g v)) : IntegersAtMost b (withOne f g vs) := by
  unfold withOne
  split
  · exact h _ (List.mem_singleton_self _)
  · exact integersAtMost_error _

theorem integersAtMost_withTwo (f : Builtin) {g : Float → Float → Except Fault Value}
    {vs : List Value} (h : ∀ x y, IntegersAtMost b (g x y)) : IntegersAtMost b (withTwo f g vs) := by
  unfold withTwo
  split
  · exact integersAtMost_bind fun x => integersAtMost_bind fun y => h x y
  · exact integersAtMost_error _

theorem integersAtMost_onReal (f : Float → Float) (overflow : Fault) (v : Value) :
    IntegersAtMost b (onReal f overflow v) := by
  refine integersAtMost_bind fun x => ?_
  exact integersAtMost_ite (integersAtMost_error _)
    (integersAtMost_ite (integersAtMost_error _) (integersAtMost_double _))

theorem integersAtMost_realPower (x y : Float) : IntegersAtMost b (realPower x y) := by
  unfold realPower
  split
  · exact integersAtMost_ite (integersAtMost_error _)
      (integersAtMost_ite (integersAtMost_error _) (integersAtMost_double _))
  · exact integersAtMost_double _
  · exact integersAtMost_double _
  · exact integersAtMost_double _

theorem integersAtMost_rounded (f : Float → Option Int) (v : Value) :
    IntegersAtMost b (rounded f v) := by
  unfold rounded
  split
  · split
    · exact integersAtMost_error _
    · exact integersAtMost_error _
    · exact integersAtMost_map Value.atMost_double
  · exact integersAtMost_map Value.atMost_double
  · exact integersAtMost_error _

theorem integersAtMost_roundTo (v : Value) (places : Int) : IntegersAtMost b (roundTo v places) := by
  unfold roundTo
  split
  · exact integersAtMost_elim integersAtMost_double
  · exact integersAtMost_map Value.atMost_double
  · exact integersAtMost_error _

/-- The functions that hand on no argument come to doubles alone. -/
theorem integersAtMost_call_of_not_keeps {f : Builtin} (hf : f.keepsIntegers = false)
    (vs : List Value) : IntegersAtMost b (f.call vs) := by
  cases f with
  | abs => cases hf
  | min => cases hf
  | max => cases hf
  | atan2 => exact integersAtMost_withTwo _ fun _ _ => integersAtMost_double _
  | pow => exact integersAtMost_withTwo _ integersAtMost_realPower
  | floor => exact integersAtMost_withOne _ fun v _ => integersAtMost_rounded _ v
  | ceil => exact integersAtMost_withOne _ fun v _ => integersAtMost_rounded _ v
  | log =>
    unfold call
    dsimp only
    split
    · exact integersAtMost_map Value.atMost_double
    · exact integersAtMost_bind fun x => integersAtMost_bind fun y =>
        BinaryOp.integersAtMost_onDoubles .divide x y
    · exact integersAtMost_error _
  | round =>
    unfold call
    dsimp only
    split
    · exact integersAtMost_roundTo _ 0
    · exact integersAtMost_bind fun places => integersAtMost_roundTo _ places
    · exact integersAtMost_error _
  | _ => exact integersAtMost_withOne _ fun v _ => integersAtMost_onReal _ _ v

/-- A function comes to no integer beyond its arguments. -/
theorem integersAtMost_call (f : Builtin) {vs : List Value} (h : ∀ v ∈ vs, v.AtMost b) :
    IntegersAtMost (if f.keepsIntegers then b else none) (f.call vs) := by
  cases hf : f.keepsIntegers with
  | false => exact integersAtMost_call_of_not_keeps hf vs
  | true =>
    rw [if_pos rfl]
    cases f with
    | abs => exact integersAtMost_withOne _ fun v hv => integersAtMost_absolute (h v hv)
    | min => exact integersAtMost_choose _ _ h
    | max => exact integersAtMost_choose _ _ h
    | _ => cases hf

end Builtin

end GrowthGrammar
