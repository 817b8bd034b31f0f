import Mathlib.Data.List.Forall2
import Mathlib.Tactic.Tauto

/-!
# Steps that may fail

A chain of steps succeeds when every one of them does (`bind_eq_ok`), and so do a list of them
(`mapM_eq_ok_iff`) and a fold, which keeps what every step of it keeps (`foldlM_keeps`).  Each fails
with the error of its first step that fails (`bind_eq_error`, `mapM_eq_error_iff`,
`foldlM_eq_error_iff`).  The errors of steps may be changed one by one or in the end
(`mapError_bind`, `mapError_mapM`).  How a step on
given data ends is tested by `okAnd` and `errorAnd`.
-/

namespace GrowthGrammar

variable {α β σ ε δ : Type}

theorem ok_bind (a : α) (f : α → Except ε β) : (Except.ok a >>= f) = f a := rfl

theorem bind_eq_ok {x : Except ε α} {f : α → Except ε β} {b : β} :
    (x >>= f) = .ok b ↔ ∃ a, x = .ok a ∧ f a = .ok b := by
  cases x with
  | error e => simp [bind, Except.bind]
  | ok a => simp [bind, Except.bind]

theorem bind_eq_error {x : Except ε α} {f : α → Except ε β} {e : ε} :
    (x >>= f) = .error e ↔ x = .error e ∨ ∃ a, x = .ok a ∧ f a = .error e := by
  cases x with
  | error e' => simp [bind, Except.bind]
  | ok a => simp [bind, Except.bind]

/-- A step behind that never fails with an error adds none. -/
theorem bind_eq_error_left {x : Except ε α} {f : α → Except ε β} {e : ε}
    (hf : ∀ a, f a ≠ .error e) : (x >>= f) = .error e ↔ x = .error e := by
  rw [bind_eq_error]
  exact ⟨fun h => h.resolve_right fun ⟨a, _, ha⟩ => hf a ha, Or.inl⟩

/-- Behind a step the next one matters only for what the step gives. -/
theorem bind_congr_of_ok {x : Except ε α} {f g : α → Except ε β}
    (h : ∀ a, x = .ok a → f a = g a) : x >>= f = x >>= g := by
  cases x with
  | error e => rfl
  | ok a => exact h a rfl

theorem map_eq_ok {f : α → β} {x : Except ε α} {b : β} :
    f <$> x = .ok b ↔ ∃ a, x = .ok a ∧ f a = b := by
  cases x with
  | error e => simp [Functor.map, Except.map]
  | ok a => simp [Functor.map, Except.map]

theorem map_eq_error {f : α → β} {x : Except ε α} {e : ε} : f <$> x = .error e ↔ x = .error e := by
  cases x with
  | error e' => simp [Functor.map, Except.map]
  | ok a => simp [Functor.map, Except.map]

theorem mapError_eq_ok {f : ε → δ} {x : Except ε α} {a : α} :
    x.mapError f = .ok a ↔ x = .ok a := by
  cases x with
  | error e => simp [Except.mapError]
  | ok b => simp [Except.mapError]

theorem toOption_ok (a : α) : (Except.ok a : Except ε α).toOption = some a := rfl

theorem toOption_bind (x : Except ε α) (f : α → Except ε β) :
    (x >>= f).toOption = x.toOption >>= fun a => (f a).toOption := by
  cases x <;> rfl

theorem toOption_mapError (f : ε → δ) (x : Except ε α) : (x.mapError f).toOption = x.toOption := by
  cases x <;> rfl

theorem mapError_bind (f : ε → δ) (x : Except ε α) (g : α → Except ε β) :
    (x >>= g).mapError f = x.mapError f >>= fun a => (g a).mapError f := by
  cases x with
  | error e => rfl
  | ok a => rfl

/-! ## Tests of a step -/

/-- Whether a step succeeds with a value that passes a test. -/
def okAnd (p : α → Bool) : Except ε α → Bool
  | .ok a => p a
  | .error _ => false

/-- Whether a step fails with an error that passes a test. -/
def errorAnd (p : ε → Bool) : Except ε α → Bool
  | .ok _ => false
  | .error e => p e

theorem okAnd_iff {p : α → Bool} {x : Except ε α} :
    okAnd p x = true ↔ ∃ a, x = .ok a ∧ p a = true := by
  cases x with
  | error e => simp [okAnd]
  | ok a => simp [okAnd]

theorem errorAnd_iff {p : ε → Bool} {x : Except ε α} :
    errorAnd p x = true ↔ ∃ e, x = .error e ∧ p e = true := by
  cases x with
  | error e => simp [errorAnd]
  | ok a => simp [errorAnd]

/-! ## Lists of steps -/

theorem mapM_eq_ok_iff {f : α → Except ε β} {xs : List α} {ys : List β} :
    xs.mapM f = .ok ys ↔ List.Forall₂ (fun x y => f x = .ok y) xs ys := by
  induction xs generalizing ys with
  | nil =>
    rw [List.mapM_nil, List.forall₂_nil_left_iff]
    exact ⟨fun h => (Except.ok.inj h).symm, fun h => h ▸ rfl⟩
  | cons x xs ih =>
    rw [List.mapM_cons, bind_eq_ok]
    constructor
    · rintro ⟨y, hy, h⟩
      obtain ⟨zs, hzs, h⟩ := bind_eq_ok.1 h
      obtain rfl := Except.ok.inj h
      exact .cons hy (ih.1 hzs)
    · intro h
      cases h with
      | cons hy hys => exact ⟨_, hy, bind_eq_ok.2 ⟨_, ih.2 hys, rfl⟩⟩

theorem exists_mem_of_mapM {f : α → Except ε β} {xs : List α} {ys : List β}
    (h : xs.mapM f = .ok ys) {y : β} (hy : y ∈ ys) : ∃ x ∈ xs, f x = .ok y := by
  have hall := mapM_eq_ok_iff.1 h
  clear h
  induction hall with
  | nil => cases hy
  | cons hxy _ ih =>
    rcases List.mem_cons.1 hy with rfl | hy
    · exact ⟨_, List.mem_cons_self, hxy⟩
    · obtain ⟨x, hx, hxy⟩ := ih hy
      exact ⟨x, List.mem_cons_of_mem _ hx, hxy⟩

theorem mapM_eq_ok_map {f : α → Except ε β} {g : α → β} {xs : List α}
    (h : ∀ x ∈ xs, f x = .ok (g x)) : xs.mapM f = .ok (xs.map g) := by
  rw [mapM_eq_ok_iff, List.forall₂_map_right_iff, List.forall₂_same]
  exact h

theorem mapM_congr {f g : α → Except ε β} {xs : List α} (h : ∀ x ∈ xs, f x = g x) :
    xs.mapM f = xs.mapM g := by
  induction xs with
  | nil => rfl
  | cons x xs ih =>
    obtain ⟨hx, hxs⟩ := List.forall_mem_cons.1 h
    rw [List.mapM_cons, List.mapM_cons, hx, ih hxs]

theorem mapError_mapM (f : ε → δ) (g : α → Except ε β) (xs : List α) :
    (xs.mapM g).mapError f = xs.mapM fun x => (g x).mapError f := by
  induction xs with
  | nil => rfl
  | cons x xs ih =>
    rw [List.mapM_cons, List.mapM_cons, mapError_bind]
    refine bind_congr fun y => ?_
    rw [mapError_bind, ih]
    rfl

/-- The error of a list of steps is that of one of them. -/
theorem exists_mem_of_mapM_error {f : α → Except ε β} {xs : List α} {e : ε}
    (h : xs.mapM f = .error e) : ∃ x ∈ xs, f x = .error e := by
  induction xs with
  | nil => cases h
  | cons x xs ih =>
    rw [List.mapM_cons] at h
    cases hx : f x with
    | error e' =>
      rw [hx] at h
      obtain rfl := Except.error.inj h
      exact ⟨x, List.mem_cons_self, hx⟩
    | ok y =>
      rw [hx] at h
      cases hxs : xs.mapM f with
      | error e' =>
        rw [hxs] at h
        obtain rfl := Except.error.inj h
        obtain ⟨z, hz, he⟩ := ih hxs
        exact ⟨z, List.mem_cons_of_mem _ hz, he⟩
      | ok ys =>
        rw [hxs] at h
        cases h

theorem exists_ok_of_mapM {f : α → Except ε β} {xs : List α} {ys : List β}
    (h : xs.mapM f = .ok ys) {x : α} (hx : x ∈ xs) : ∃ y, f x = .ok y := by
  have hall := mapM_eq_ok_iff.1 h
  obtain ⟨i, hi, rfl⟩ := List.getElem_of_mem hx
  exact ⟨_, hall.get hi (hall.length_eq ▸ hi)⟩

/-- A list of steps succeeds exactly if each of them does. -/
theorem exists_mapM_eq_ok_iff {f : α → Except ε β} {xs : List α} :
    (∃ ys, xs.mapM f = .ok ys) ↔ ∀ x ∈ xs, ∃ y, f x = .ok y := by
  refine ⟨fun ⟨_, h⟩ _ hx => exists_ok_of_mapM h hx, fun h => ?_⟩
  cases hxs : xs.mapM f with
  | ok ys => exact ⟨ys, rfl⟩
  | error e =>
    obtain ⟨x, hx, he⟩ := exists_mem_of_mapM_error hxs
    obtain ⟨y, hy⟩ := h x hx
    rw [hy] at he
    cases he

/-- A list of steps of which one fails has an error. -/
theorem exists_error_of_mapM {f : α → Except ε β} {xs : List α} {x : α} (hx : x ∈ xs) {e : ε}
    (he : f x = .error e) : ∃ e, xs.mapM f = .error e := by
  cases h : xs.mapM f with
  | error e' => exact ⟨e', rfl⟩
  | ok ys =>
    obtain ⟨y, hy⟩ := exists_ok_of_mapM h hx
    rw [he] at hy
    cases hy

/-- The blocks of two lists, one behind the other. -/
theorem flatMapM_append (f : α → Except ε (List β)) (xs ys : List α) :
    (xs ++ ys).flatMapM f =
      xs.flatMapM f >>= fun bs => ys.flatMapM f >>= fun cs => .ok (bs ++ cs) := by
  induction xs with
  | nil =>
    rw [List.nil_append, List.flatMapM_nil]
    exact (bind_pure _).symm
  | cons x xs ih =>
    rw [List.cons_append, List.flatMapM_cons, List.flatMapM_cons, ih, bind_assoc]
    refine bind_congr fun b => ?_
    rw [bind_assoc, bind_assoc]
    refine bind_congr fun bs => ?_
    rw [bind_assoc]
    refine bind_congr fun cs => ?_
    exact congrArg Except.ok (List.append_assoc b bs cs).symm

/-! ## The first step that fails -/

/-- The element at which a step fails first, of a list of them, has a property. -/
def FailsFirst (f : α → Except ε β) (P : α → Prop) (xs : List α) : Prop :=
  ∃ before x after, xs = before ++ x :: after ∧ (∀ y ∈ before, ∃ b, f y = .ok b) ∧ P x

theorem failsFirst_cons {f : α → Except ε β} {P : α → Prop} {x : α} {xs : List α} :
    FailsFirst f P (x :: xs) ↔ P x ∨ (∃ b, f x = .ok b) ∧ FailsFirst f P xs := by
  constructor
  · rintro ⟨before, y, after, heq, hbefore, hy⟩
    cases before with
    | nil =>
      obtain ⟨rfl, -⟩ := List.cons.inj heq
      exact Or.inl hy
    | cons z before =>
      obtain ⟨rfl, rfl⟩ := List.cons.inj heq
      exact Or.inr ⟨hbefore x List.mem_cons_self, before, y, after, rfl,
        fun w hw => hbefore w (List.mem_cons_of_mem _ hw), hy⟩
  · rintro (hx | ⟨hx, before, y, after, rfl, hbefore, hy⟩)
    · exact ⟨[], x, xs, rfl, fun _ hw => absurd hw List.not_mem_nil, hx⟩
    · exact ⟨x :: before, y, after, rfl, List.forall_mem_cons.2 ⟨hx, hbefore⟩, hy⟩

theorem not_failsFirst_nil {f : α → Except ε β} {P : α → Prop} : ¬FailsFirst f P [] := by
  rintro ⟨before, x, after, h, -⟩
  cases before <;> cases h

/-- The first failure in two lists is in the first one, or behind it in the second. -/
theorem failsFirst_append {f : α → Except ε β} {P : α → Prop} {xs ys : List α} :
    FailsFirst f P (xs ++ ys) ↔
      FailsFirst f P xs ∨ (∀ x ∈ xs, ∃ b, f x = .ok b) ∧ FailsFirst f P ys := by
  induction xs with
  | nil => simp [not_failsFirst_nil]
  | cons x xs ih =>
    rw [List.cons_append, failsFirst_cons, failsFirst_cons, ih, List.forall_mem_cons]
    tauto

/-- A list of steps fails with the error of the first of them that fails. -/
theorem mapM_eq_error_iff {f : α → Except ε β} {P : α → Prop} {xs : List α} {e : ε}
    (h : ∀ x ∈ xs, f x = .error e ↔ P x) : xs.mapM f = .error e ↔ FailsFirst f P xs := by
  induction xs with
  | nil => exact ⟨fun hnil => (by cases hnil), fun hnil => absurd hnil not_failsFirst_nil⟩
  | cons x xs ih =>
    obtain ⟨hx, hxs⟩ := List.forall_mem_cons.1 h
    rw [List.mapM_cons, failsFirst_cons, ← hx, ← ih hxs]
    cases f x with
    | error e' => simp [bind, Except.bind]
    | ok b => cases xs.mapM f <;> simp [bind, Except.bind, pure, Except.pure]

theorem flatMapM_eq_error_iff {f : α → Except ε (List β)} {P : α → Prop} {xs : List α} {e : ε}
    (h : ∀ x ∈ xs, f x = .error e ↔ P x) : xs.flatMapM f = .error e ↔ FailsFirst f P xs := by
  induction xs with
  | nil => exact ⟨fun hnil => (by cases hnil), fun hnil => absurd hnil not_failsFirst_nil⟩
  | cons x xs ih =>
    obtain ⟨hx, hxs⟩ := List.forall_mem_cons.1 h
    rw [List.flatMapM_cons, failsFirst_cons, ← hx, ← ih hxs]
    cases f x with
    | error e' => simp [bind, Except.bind]
    | ok b => cases xs.flatMapM f <;> simp [bind, Except.bind, pure, Except.pure]

/-! ## Folds -/

/-- A fold fails at the first of its steps that fails. -/
theorem foldlM_eq_error_iff {f : σ → α → Except ε σ} {xs : List α} {s : σ} {e : ε} :
    xs.foldlM f s = .error e ↔
      ∃ before x after t, xs = before ++ x :: after ∧ before.foldlM f s = .ok t ∧
        f t x = .error e := by
  induction xs generalizing s with
  | nil =>
    refine ⟨fun h => (by cases h), ?_⟩
    rintro ⟨before, x, after, t, h, -⟩
    cases before <;> cases h
  | cons x xs ih =>
    rw [List.foldlM_cons, bind_eq_error]
    constructor
    · rintro (h | ⟨t, ht, h⟩)
      · exact ⟨[], x, xs, s, rfl, rfl, h⟩
      · obtain ⟨before, y, after, u, rfl, hu, hy⟩ := ih.1 h
        refine ⟨x :: before, y, after, u, rfl, ?_, hy⟩
        rw [List.foldlM_cons, ht]
        exact hu
    · rintro ⟨before, y, after, u, heq, hu, hy⟩
      cases before with
      | nil =>
        obtain ⟨rfl, -⟩ := List.cons.inj heq
        obtain rfl := Except.ok.inj hu
        exact Or.inl hy
      | cons z before =>
        obtain ⟨rfl, rfl⟩ := List.cons.inj heq
        rw [List.foldlM_cons] at hu
        obtain ⟨t, ht, hu⟩ := bind_eq_ok.1 hu
        exact Or.inr ⟨t, ht, ih.2 ⟨before, y, after, u, rfl, hu, hy⟩⟩

/-- A fold keeps what every step of it keeps. -/
theorem foldlM_keeps {f : σ → α → Except ε σ} {P : σ → Prop}
    (hstep : ∀ s a t, P s → f s a = .ok t → P t) {xs : List α} {s t : σ} (hs : P s)
    (h : xs.foldlM f s = .ok t) : P t := by
  induction xs generalizing s with
  | nil =>
    obtain rfl := Except.ok.inj h
    exact hs
  | cons x xs ih =>
    rw [List.foldlM_cons] at h
    obtain ⟨u, hu, h⟩ := bind_eq_ok.1 h
    exact ih (hstep s x u hs hu) h

end GrowthGrammar
