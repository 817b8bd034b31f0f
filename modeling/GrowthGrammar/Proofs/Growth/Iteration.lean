import GrowthGrammar.Proofs.Growth.Locality

/-!
# Generations one at a time

An `Iteration` makes the generations of a system one at a time, whenever it is asked for one
(`Iteration.next`).  It keeps no system of its own, so in between the system may be put to other
uses, and a `Session` is any sequence of these.  Main statement: a run may be cut into parts, and
asking for some of its generations leaves what running these leaves.  However a system is used, its
generation number counts the generations that were completed (`advance_composes`).
-/

namespace GrowthGrammar.Growth

variable {s t u : Growth} {e : Error} {ws vs : List (List Symbol)} {j k n : ℕ}

/-! ## Completed generations -/

/-- Generations lead from a system to another one; these are the words they complete. -/
inductive Completes : Growth → List (List Symbol) → Growth → Prop
  | refl (s : Growth) : Completes s [] s
  | step {s t u : Growth} {ws : List (List Symbol)} (h : s.step = .ok t) (hrest : Completes t ws u) :
      Completes s (t.symbols :: ws) u

theorem Completes.append (h : Completes s ws t) (h' : Completes t vs u) :
    Completes s (ws ++ vs) u := by
  induction h with
  | refl _ => exact h'
  | step hstep _ ih => exact .step hstep (ih h')

theorem Completes.generation (h : Completes s ws t) :
    t.generation = s.generation + ws.length := by
  induction h with
  | refl _ => rfl
  | step hstep _ ih =>
    rw [ih, generation_step hstep, List.length_cons]
    omega

theorem completes_trace (n : ℕ) (s : Growth) : Completes s (trace n s).words (trace n s).final := by
  induction n generalizing s with
  | zero => exact .refl s
  | succ n ih =>
    rw [trace]
    cases hs : s.step with
    | error e => exact .refl s
    | ok t => exact .step hs (ih t)

theorem completes_iterate (count : ℤ) (take : Option ℕ) (s : Growth) :
    Completes s (s.iterate count take).words (s.iterate count take).final := by
  unfold iterate
  split_ifs
  · exact .refl s
  · exact .refl s
  · exact completes_trace _ s

/-- A run to the end is what advancing is. -/
theorem iterate_none (count : ℤ) (s : Growth) :
    ((s.iterate count none).final, (s.iterate count none).failure) = s.advance count := by
  unfold iterate advance
  rw [if_neg (by simp)]
  split_ifs
  · rfl
  · exact trace_eq_advanceBy _ s

/-! ## Asking for generations -/

/-- Generations that are made when they are asked for. -/
inductive Iteration where
  /-- Nothing has been asked for, and how many there are to be has not been looked at. -/
  | fresh (count : ℤ)
  /-- So many are still to be made. -/
  | pending (n : ℕ)

/-- What comes of asking for a generation. -/
inductive Answer where
  | word (w : List Symbol)
  | finished
  | failed (e : Error)

/-- The words of an answer, which are one or none. -/
def Answer.words : Answer → List (List Symbol)
  | word w => [w]
  | finished => []
  | failed _ => []

/-- The error of an answer. -/
def Answer.failure : Answer → Option Error
  | word _ => none
  | finished => none
  | failed e => some e

namespace Iteration

/-- Asks for one of so many generations of a system: the answer, what is left to be asked for, and
the system.  Behind an error nothing is left. -/
def resume : ℕ → Growth → Answer × Iteration × Growth
  | 0, s => (.finished, .pending 0, s)
  | n + 1, s =>
    match s.step with
    | .error e => (.failed e, .pending 0, s)
    | .ok t => (.word t.symbols, .pending n, t)

/-- Asks for the next generation. -/
def next : Iteration → Growth → Answer × Iteration × Growth
  | fresh count, s =>
    if count < 0 then (.failed (.stray .negativeCount), .pending 0, s) else resume count.toNat s
  | pending n, s => resume n s

/-- Asks for generations until there are so many of them, or until no more come. -/
def collect : ℕ → Iteration → Growth → Run
  | 0, _, s => ⟨[], s, none⟩
  | k + 1, i, s =>
    match i.next s with
    | (.word w, i, t) => { collect k i t with words := w :: (collect k i t).words }
    | (.finished, _, t) => ⟨[], t, none⟩
    | (.failed e, _, t) => ⟨[], t, some e⟩

theorem completes_resume (n : ℕ) (s : Growth) :
    Completes s (resume n s).1.words (resume n s).2.2 := by
  cases n with
  | zero => exact .refl s
  | succ n =>
    rw [resume]
    cases hs : s.step with
    | error e => exact .refl s
    | ok t => exact .step hs (.refl t)

theorem completes_next (i : Iteration) (s : Growth) :
    Completes s (i.next s).1.words (i.next s).2.2 := by
  cases i with
  | fresh count =>
    rw [next]
    split_ifs
    · exact .refl s
    · exact completes_resume _ s
  | pending n => exact completes_resume n s

/-- Generations that are asked for one by one are those of a run. -/
theorem collect_pending (k n : ℕ) (s : Growth) : collect k (.pending n) s = trace (min k n) s := by
  induction k generalizing n s with
  | zero => rw [Nat.zero_min, collect, trace]
  | succ k ih =>
    cases n with
    | zero => rw [Nat.min_zero, collect, next, resume, trace]
    | succ n =>
      rw [Nat.succ_min_succ, collect, next, resume, trace]
      cases hs : s.step with
      | error e => rfl
      | ok t => simp only [ih]

theorem collect_fresh (k : ℕ) (count : ℤ) (s : Growth) :
    collect k (.fresh count) s = s.iterate count (some k) := by
  cases k with
  | zero => rfl
  | succ k =>
    unfold iterate
    rw [if_neg (by simp)]
    split_ifs with hcount
    · rw [collect, next, if_pos hcount]
    · have hnext : next (.fresh count) s = next (.pending count.toNat) s := by
        rw [next, if_neg hcount, next]
      rw [← collect_pending, collect, collect, hnext]

theorem collect_fresh_natCast (k n : ℕ) (s : Growth) :
    collect k (.fresh n) s = trace (min k n) s := by
  rw [collect_fresh, iterate]
  split_ifs with hk hn
  · rw [Option.some.inj hk, Nat.zero_min, trace]
  · omega
  · rw [Int.toNat_natCast]

end Iteration

/-! ## Sessions -/

/-- A use of a system. -/
inductive Use where
  | advance (count : ℤ)
  /-- Has a word rewritten by the rules, which the system does not keep. -/
  | rewrite (symbols : List Symbol)
  | start (count : ℤ)
  /-- Asks the iteration at an index for a generation. -/
  | ask (index : ℕ)

/-- A system in use, with the iterations that have been started and the words of all generations
completed so far. -/
structure Session where
  growth : Growth
  iterations : List Iteration
  completed : List (List Symbol)

namespace Session

/-- The session after a use, and the error that the use ended with. -/
def use (s : Session) : Use → Session × Option Error
  | .advance count =>
    ({ s with
        growth := (s.growth.advance count).1
        completed := s.completed ++ (s.growth.iterate count none).words },
      (s.growth.advance count).2)
  | .rewrite symbols =>
    match rewriteWord s.growth.rules symbols with
    | .error e => (s, some e)
    | .ok _ => (s, none)
  | .start count => ({ s with iterations := s.iterations ++ [.fresh count] }, none)
  | .ask index =>
    match s.iterations[index]? with
    | none => (s, none)
    | some i =>
      match i.next s.growth with
      | (answer, rest, t) =>
        (⟨t, s.iterations.set index rest, s.completed ++ answer.words⟩, answer.failure)

/-- The session after uses in turn; those that fail do not end it. -/
def run (s : Session) (uses : List Use) : Session :=
  uses.foldl (fun s u => (s.use u).1) s

theorem completes_use (s : Session) (u : Use) :
    ∃ ws, Completes s.growth ws (s.use u).1.growth ∧ (s.use u).1.completed = s.completed ++ ws := by
  cases u with
  | advance count =>
    have hrun := completes_iterate count none s.growth
    have hfinal : (s.growth.iterate count none).final = (s.growth.advance count).1 :=
      congrArg Prod.fst (iterate_none count s.growth)
    rw [hfinal] at hrun
    exact ⟨_, hrun, rfl⟩
  | rewrite symbols =>
    have huse : (s.use (.rewrite symbols)).1 = s := by
      rw [use]
      cases rewriteWord s.growth.rules symbols <;> rfl
    rw [huse]
    exact ⟨[], .refl _, (List.append_nil _).symm⟩
  | start count => exact ⟨[], .refl _, (List.append_nil _).symm⟩
  | ask index =>
    rw [use]
    cases s.iterations[index]? with
    | none => exact ⟨[], .refl _, (List.append_nil _).symm⟩
    | some i => exact ⟨_, Iteration.completes_next i s.growth, rfl⟩

/-- The words completed in a session lead from its first system to its last one. -/
theorem completes_run (s : Session) (uses : List Use) :
    ∃ ws, Completes s.growth ws (s.run uses).growth ∧
      (s.run uses).completed = s.completed ++ ws := by
  induction uses generalizing s with
  | nil => exact ⟨[], .refl _, (List.append_nil _).symm⟩
  | cons u uses ih =>
    obtain ⟨ws, hws, hcompleted⟩ := completes_use s u
    obtain ⟨vs, hvs, hrest⟩ := ih (s.use u).1
    refine ⟨ws ++ vs, hws.append hvs, ?_⟩
    rw [run, List.foldl_cons, ← run, hrest, hcompleted, List.append_assoc]

end Session

/-! ## Main statement -/

theorem advance_add (s : Growth) (m n : ℕ) :
    s.advance (m + n : ℕ) =
      match s.advance m with
      | (t, none) => t.advance n
      | (t, some e) => (t, some e) := by
  simp only [advance_natCast]
  rcases hm : s.advanceBy m with ⟨t, failure⟩
  cases failure with
  | none => exact advanceBy_add hm n
  | some e =>
    obtain ⟨k, hk, hrun, hstep⟩ := advanceBy_eq_some_iff.1 hm
    exact advanceBy_eq_some_iff.2 ⟨k, by omega, hrun, hstep⟩

/-- A run that fails behind `j` generations leaves the system with these, and whoever asks for more
gets the words of these and then the error. -/
theorem collect_of_step_error (hj : j < k) (hn : j < n) (hrun : s.advanceBy j = (t, none))
    (hstep : t.step = .error e) :
    ∃ ws, Iteration.collect k (.fresh n) s = ⟨ws, t, some e⟩ ∧ ws.length = j ∧
      Completes s ws t := by
  have hmin : j < min k n := lt_min hj hn
  have hfails : s.advanceBy (min k n) = (t, some e) :=
    advanceBy_eq_some_iff.2 ⟨j, hmin, hrun, hstep⟩
  have hfinal : (trace (min k n) s).final = t := by rw [final_trace, hfails]
  have hfailure : (trace (min k n) s).failure = some e := by rw [failure_trace, hfails]
  have hcompletes := completes_trace (min k n) s
  rw [hfinal] at hcompletes
  refine ⟨(trace (min k n) s).words, ?_, length_words_of_step_error hrun hstep hmin, hcompletes⟩
  rw [Iteration.collect_fresh_natCast, ← hfinal, ← hfailure]

/-- Running `m + n` generations is running `m` and then `n`.  Asking for up to `k` of `n`
generations leaves what running the smaller number leaves, and gives the words completed.  A run
stops at the first generation that fails with the system it had before.  In any sequence of uses the
generation number grows by the number of generations completed. -/
theorem advance_composes (s : Growth) (m n k : ℕ) :
    (s.advance (m + n : ℕ) =
      match s.advance m with
      | (t, none) => t.advance n
      | (t, some e) => (t, some e)) ∧
    (∃ ws, Iteration.collect k (.fresh n) s =
        ⟨ws, (s.advance (min k n : ℕ)).1, (s.advance (min k n : ℕ)).2⟩ ∧
      Completes s ws (s.advance (min k n : ℕ)).1) ∧
    (∀ j t e, j < n → s.advance j = (t, none) → t.step = .error e →
      s.advance n = (t, some e) ∧ t.generation = s.generation + j ∧ t.rules = s.rules ∧
        (j < k → ∃ ws, Iteration.collect k (.fresh n) s = ⟨ws, t, some e⟩ ∧ ws.length = j ∧
          Completes s ws t)) ∧
    ∀ uses : List Use,
      Completes s (Session.run ⟨s, [], []⟩ uses).completed (Session.run ⟨s, [], []⟩ uses).growth ∧
        (Session.run ⟨s, [], []⟩ uses).growth.generation =
          s.generation + (Session.run ⟨s, [], []⟩ uses).completed.length := by
  refine ⟨advance_add s m n, ?_, fun j t e hj hrun hstep => ?_, fun uses => ?_⟩
  · rw [Iteration.collect_fresh_natCast, advance_natCast, ← final_trace, ← failure_trace]
    exact ⟨_, rfl, completes_trace _ s⟩
  · rw [advance_natCast] at hrun ⊢
    have hrules := rules_advanceBy j s
    rw [hrun] at hrules
    exact ⟨advanceBy_eq_some_iff.2 ⟨j, hj, hrun, hstep⟩, generation_advanceBy hrun, hrules,
      fun hk => collect_of_step_error hk hj hrun hstep⟩
  · obtain ⟨ws, hws, hcompleted⟩ := Session.completes_run ⟨s, [], []⟩ uses
    rw [List.nil_append] at hcompleted
    rw [hcompleted]
    exact ⟨hws, hws.generation⟩

theorem advance_composes_fading :
    ∃ t e, advance (1 : ℕ) ⟨[⟨"A", [1]⟩], [fading], 0⟩ = (t, none) ∧ t.step = .error e ∧
      advance (5 : ℕ) ⟨[⟨"A", [1]⟩], [fading], 0⟩ = (t, some e) ∧ t.generation = 0 + 1 ∧
      ∃ ws, Iteration.collect 3 (.fresh (5 : ℕ)) ⟨[⟨"A", [1]⟩], [fading], 0⟩ = ⟨ws, t, some e⟩ ∧
        ws.length = 1 := by
  have hcompletes : (advance (1 : ℕ) ⟨[⟨"A", [1]⟩], [fading], 0⟩).2 = none := by decide +kernel
  have hfails : errorAnd (fun _ => true) (advance (1 : ℕ) ⟨[⟨"A", [1]⟩], [fading], 0⟩).1.step =
      true := by decide +kernel
  obtain ⟨e, hstep, -⟩ := errorAnd_iff.1 hfails
  have hrun : advance (1 : ℕ) ⟨[⟨"A", [1]⟩], [fading], 0⟩ =
      ((advance (1 : ℕ) ⟨[⟨"A", [1]⟩], [fading], 0⟩).1, none) := Prod.ext rfl hcompletes
  obtain ⟨-, -, hstops, -⟩ := advance_composes ⟨[⟨"A", [1]⟩], [fading], 0⟩ 1 5 3
  obtain ⟨hfinal, hgeneration, -, hcollect⟩ := hstops 1 _ e (by decide) hrun hstep
  obtain ⟨ws, hws, hlength, -⟩ := hcollect (by decide)
  exact ⟨_, e, hrun, hstep, hfinal, hgeneration, ws, hws, hlength⟩

end GrowthGrammar.Growth
