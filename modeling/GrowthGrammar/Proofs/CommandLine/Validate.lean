import GrowthGrammar.Proofs.CommandLine.Expand
import GrowthGrammar.Proofs.Growth.Run
import GrowthGrammar.Proofs.Source.Data

/-!
# Checking a system before it is expanded

`validate` runs a system up to its `lastGeneration`: the first one whose word is longer than the
limit, or the last one that the system is meant for (`advanceWithin_eq_advanceBy`).  Main statement:
what it reports is what `expand` comes to with that count, what fails in it fails in `expand`, and
no word beyond the limit is rewritten but the axiom (`Agreement`), for all arguments that ask for the
same system and the same variables (`agreement_ofArguments`).  A path that looks like an option is
no path of a system to either command (`ofArguments_validate_refuses`).
-/

namespace GrowthGrammar.CommandLine

open GrowthGrammar.Number

variable {read : String → Except Error Bytes} {path : String}
  {bindings : List (Option (String × Float))} {source : Source}
  {s t : Growth} {e : Error} {limit n : ℕ}

/-! ## The last generation of a check -/

/-- The generation comes about, and its word is longer than the limit. -/
def outgrows (limit : ℕ) (s : Growth) (k : ℕ) : Bool :=
  match s.advanceBy k with
  | (t, none) => limit < t.symbols.length
  | (_, some _) => false

/-- The first of so many generations that outgrows the limit, or else the last one. -/
def lastGeneration (limit count : ℕ) (s : Growth) : ℕ :=
  ((List.range' 1 count).find? (outgrows limit s)).getD count

theorem outgrows_succ (h : s.step = .ok t) (k : ℕ) :
    outgrows limit s (k + 1) = outgrows limit t k := by
  rw [outgrows, outgrows, Growth.advanceBy_succ_of_ok h]

theorem outgrows_succ_of_error (h : s.step = .error e) (k : ℕ) :
    outgrows limit s (k + 1) = false := by
  rw [outgrows, Growth.advanceBy_succ_of_error h]

theorem range'_two_eq_map (n : ℕ) : List.range' 2 n = (List.range' 1 n).map (· + 1) := by
  simpa [Nat.add_comm] using (List.map_add_range' (a := 1) 1 n 1).symm

theorem lastGeneration_succ_of_error (h : s.step = .error e) (n : ℕ) :
    lastGeneration limit (n + 1) s = n + 1 := by
  have hnone : (List.range' 1 (n + 1)).find? (outgrows limit s) = none := by
    rw [List.find?_eq_none]
    intro k hk
    obtain ⟨j, rfl⟩ : ∃ j, k = j + 1 := ⟨k - 1, by have := List.mem_range'_1.1 hk; omega⟩
    rw [outgrows_succ_of_error h]
    exact Bool.false_ne_true
  rw [lastGeneration, hnone, Option.getD_none]

theorem lastGeneration_succ_of_ok (h : s.step = .ok t) (n : ℕ) :
    lastGeneration limit (n + 1) s =
      if limit < t.symbols.length then 1 else lastGeneration limit n t + 1 := by
  have hfirst : outgrows limit s 1 = decide (limit < t.symbols.length) := by
    rw [outgrows_succ h 0]
    rfl
  have hrest : outgrows limit s ∘ (· + 1) = outgrows limit t := funext (outgrows_succ h)
  rw [lastGeneration, List.range'_succ, List.find?_cons, hfirst]
  split_ifs with hlong
  · simp [hlong]
  · simp only [hlong, decide_false]
    -- What is left of the search is the search from `t`, with generations counted from one less.
    rw [range'_two_eq_map, List.find?_map, hrest, lastGeneration]
    cases (List.range' 1 n).find? (outgrows limit t) <;> rfl

theorem lastGeneration_le (limit n : ℕ) (s : Growth) : lastGeneration limit n s ≤ n := by
  rw [lastGeneration]
  cases hfind : (List.range' 1 n).find? (outgrows limit s) with
  | none => exact le_rfl
  | some k =>
    have hk := List.mem_range'_1.1 (List.mem_of_find?_eq_some hfind)
    rw [Option.getD_some]
    omega

/-- A check that stops early has come to a word longer than the limit. -/
theorem exists_of_lastGeneration_lt (h : lastGeneration limit n s < n) :
    ∃ t, s.advanceBy (lastGeneration limit n s) = (t, none) ∧ limit < t.symbols.length := by
  have houtgrows : outgrows limit s (lastGeneration limit n s) = true := by
    unfold lastGeneration at h ⊢
    cases hfind : (List.range' 1 n).find? (outgrows limit s) with
    | none =>
      rw [hfind, Option.getD_none] at h
      exact absurd h (Nat.lt_irrefl n)
    | some k => exact List.find?_some hfind
  unfold outgrows at houtgrows
  split at houtgrows
  · rename_i t ht
    exact ⟨t, ht, of_decide_eq_true houtgrows⟩
  · cases houtgrows

/-- A run within a limit is a run up to its last generation. -/
theorem advanceWithin_eq_advanceBy (limit n : ℕ) (s : Growth) :
    advanceWithin limit n s = s.advanceBy (lastGeneration limit n s) := by
  induction n generalizing s with
  | zero => rfl
  | succ n ih =>
    rw [advanceWithin]
    cases h : s.step with
    | error e => rw [lastGeneration_succ_of_error h, Growth.advanceBy_succ_of_error h]
    | ok t =>
      rw [lastGeneration_succ_of_ok h]
      dsimp only
      split_ifs with hlong
      · rw [Growth.advanceBy_succ_of_ok h, Growth.advanceBy_zero]
      · rw [Growth.advanceBy_succ_of_ok h, ih]

/-! ## Words that a check rewrites -/

/-- A run within a limit, with the words that it rewrites. -/
def advanceLogged (limit : ℕ) : ℕ → Growth → List (List Symbol) × Growth × Option Error
  | 0, s => ([], s, none)
  | n + 1, s =>
    match s.step with
    | .error e => ([s.symbols], s, some e)
    | .ok t =>
      if limit < t.symbols.length then ([s.symbols], t, none)
      else (s.symbols :: (advanceLogged limit n t).1, (advanceLogged limit n t).2)

theorem advanceLogged_snd (limit n : ℕ) (s : Growth) :
    (advanceLogged limit n s).2 = advanceWithin limit n s := by
  induction n generalizing s with
  | zero => rfl
  | succ n ih =>
    rw [advanceLogged, advanceWithin]
    cases h : s.step with
    | error e => rfl
    | ok t =>
      dsimp only
      split_ifs
      · rfl
      · exact ih t

/-- Behind the first word, a run within a limit rewrites none that is longer. -/
theorem length_le_of_mem_advanceLogged {ws : List (List Symbol)} {r : Growth × Option Error}
    (h : advanceLogged limit n s = (ws, r)) :
    (∀ w ∈ ws.head?, w = s.symbols) ∧ ∀ w ∈ ws.tail, w.length ≤ limit := by
  induction n generalizing s ws r with
  | zero =>
    obtain ⟨rfl, -⟩ := Prod.mk.inj h
    simp
  | succ n ih =>
    rw [advanceLogged] at h
    cases hs : s.step with
    | error e =>
      simp only [hs] at h
      obtain ⟨rfl, -⟩ := Prod.mk.inj h
      simp
    | ok t =>
      simp only [hs] at h
      split_ifs at h with hlong
      · obtain ⟨rfl, -⟩ := Prod.mk.inj h
        simp
      · obtain ⟨rfl, -⟩ := Prod.mk.inj h
        obtain ⟨hhead, htail⟩ := ih (Prod.mk.eta (p := advanceLogged limit n t)).symm
        refine ⟨by simp, ?_⟩
        rw [List.tail_cons]
        cases hws : (advanceLogged limit n t).1 with
        | nil => simp
        | cons w ws =>
          rw [hws] at hhead htail
          intro v hv
          rcases List.mem_cons.1 hv with rfl | hv
          · rw [hhead v rfl]
            exact Nat.not_lt.1 hlong
          · exact htail v hv

/-! ## What a check reports -/

/-- The line for the word that a check comes to. -/
def sizeLine (size generation : ℕ) : String :=
  "symbols: " ++ toString size ++ " (generation " ++ toString generation ++ ")\n"

/-- The line for a check that stops before the generation that the system is meant for. -/
def warningLine (generation count : ℕ) : String :=
  "warning: expansion exceeds " ++ toString symbolLimit ++ " symbols; stopped after generation " ++
    toString generation ++ " of " ++ toString count ++ "\n"

theorem conclusion_eq (count : ℕ) (s : Growth) :
    conclusion count s = sizeLine s.symbols.length s.generation ++
      if s.generation < count then warningLine s.generation count else "" := rfl

theorem validate_of_completed (hstart : source.growth.generation = 0)
    (h : source.growth.advanceBy (lastGeneration symbolLimit source.count source.growth) =
      (t, none)) :
    validate source = .done (summary source ++ (sizeLine t.symbols.length
      (lastGeneration symbolLimit source.count source.growth) ++
        if lastGeneration symbolLimit source.count source.growth < source.count then
          warningLine (lastGeneration symbolLimit source.count source.growth) source.count
        else "")) "" := by
  have hgeneration := Growth.generation_advanceBy h
  rw [hstart, Nat.zero_add] at hgeneration
  rw [validate, advanceWithin_eq_advanceBy, h]
  dsimp only
  rw [conclusion_eq, hgeneration]

theorem validate_of_failed
    (h : source.growth.advanceBy (lastGeneration symbolLimit source.count source.growth) =
      (t, some e)) : validate source = .failed (summary source) "" e := by
  rw [validate, advanceWithin_eq_advanceBy, h]

/-- What is printed before an error changes nothing else. -/
theorem failed_eq (out out' err : String) (e : Error) :
    Outcome.failed out err e = { Outcome.failed out' err e with stdout := out } := by
  unfold Outcome.failed
  cases errorLine? e <;> rfl

theorem ending_failed (out err : String) (e : Error) :
    (Outcome.failed out err e).ending = .exit 2 ∨ (Outcome.failed out err e).ending = .raised e := by
  unfold Outcome.failed
  cases errorLine? e with
  | none => exact Or.inr rfl
  | some line => exact Or.inl rfl

/-! ## Main statement -/

theorem generation_of_loadGiven (h : loadGiven read path bindings = .ok source) :
    source.growth.generation = 0 := by
  obtain ⟨given, -, h⟩ := bind_eq_ok.1 h
  exact Source.generation_load h

theorem run_expand_of_loadGiven (hload : loadGiven read path bindings = .ok source)
    (count : Option ℕ) :
    (Command.expand path (count.map fun n => some (n : ℤ)) bindings none false).run read =
      printed (Growth.completed (source.growth.advanceBy (count.getD source.count))) := by
  rw [Command.run, hload, ← Growth.advance_natCast]
  exact expand_eq_printed source count

/-- What a check reports of a system is what `expand` comes to by the last generation of the check,
given as a count.  A check that fails does so with the error of `expand`, and it rewrites no word
beyond the limit but the axiom. -/
structure Agreement (read : String → Except Error Bytes) (source : Source) (last : ℕ)
    (check plain counted : Command) : Prop where
  exits : (check.run read).ending = .exit 0 ↔ (source.growth.advanceBy last).2 = none
  reports : ∀ t, source.growth.advanceBy last = (t, none) →
    check.run read = .done (summary source ++ (sizeLine t.symbols.length last ++
      if last < source.count then warningLine last source.count else "")) "" ∧
    counted.run read = .done (t.text ++ "\n") "" ∧
    (¬last < source.count → plain.run read = .done (t.text ++ "\n") "")
  fails : (check.run read).ending ≠ .exit 0 →
    ((check.run read).ending = .exit 2 ∨ ∃ e, (check.run read).ending = .raised e) ∧
      (plain.run read).ending = (check.run read).ending ∧
      (plain.run read).stderr = (check.run read).stderr
  rewrites : ∃ ws, advanceLogged symbolLimit source.count source.growth =
      (ws, advanceWithin symbolLimit source.count source.growth) ∧
    ∀ w ∈ ws.tail, w.length ≤ symbolLimit

/-- A check rewrites no word beyond the limit but the axiom, however it ends. -/
theorem exists_advanceLogged (source : Source) :
    ∃ ws, advanceLogged symbolLimit source.count source.growth =
        (ws, advanceWithin symbolLimit source.count source.growth) ∧
      ∀ w ∈ ws.tail, w.length ≤ symbolLimit :=
  ⟨_, Prod.ext rfl (advanceLogged_snd _ _ _), (length_le_of_mem_advanceLogged rfl).2⟩

theorem run_validate_of_loadGiven (hload : loadGiven read path bindings = .ok source) :
    (Command.validate path bindings).run read = validate source := by
  simp only [Command.run, hload]

section LastGeneration

variable {last : ℕ} (hload : loadGiven read path bindings = .ok source)
  (hlast : last = lastGeneration symbolLimit source.count source.growth)
include hload hlast

theorem agreement_of_completed (hrun : source.growth.advanceBy last = (t, none)) :
    Agreement read source last (.validate path bindings) (.expand path none bindings none false)
      (.expand path (some (some last)) bindings none false) := by
  have hcheck := (run_validate_of_loadGiven hload).trans
    (validate_of_completed (generation_of_loadGiven hload) (hlast ▸ hrun))
  rw [← hlast] at hcheck
  have hexit := congrArg Outcome.ending hcheck
  refine ⟨iff_of_true hexit (by rw [hrun]), fun t' ht' => ?_, fun h => absurd hexit h,
    exists_advanceLogged source⟩
  obtain ⟨rfl, -⟩ := Prod.mk.inj (hrun.symm.trans ht')
  refine ⟨hcheck, ?_, fun hcount => ?_⟩
  · have hexpand := run_expand_of_loadGiven hload (some last)
    rw [Option.getD_some, hrun] at hexpand
    exact hexpand
  · have heq : last = source.count :=
      Nat.le_antisymm (hlast ▸ lastGeneration_le _ _ _) (Nat.not_lt.1 hcount)
    have hexpand := run_expand_of_loadGiven hload none
    rw [Option.getD_none, ← heq, hrun] at hexpand
    exact hexpand

theorem agreement_of_failed (hrun : source.growth.advanceBy last = (t, some e)) :
    Agreement read source last (.validate path bindings) (.expand path none bindings none false)
      (.expand path (some (some last)) bindings none false) := by
  have hcheck := (run_validate_of_loadGiven hload).trans (validate_of_failed (hlast ▸ hrun))
  have hexpand : (Command.expand path none bindings none false).run read =
      .failed "" "" e := by
    -- The generation that fails in the check is met by the longer run too.
    obtain ⟨k, hk, hcompleted, hstep⟩ := Growth.advanceBy_eq_some_iff.1 hrun
    have hcount : k < source.count := hk.trans_le (hlast ▸ lastGeneration_le _ _ _)
    have hplain := run_expand_of_loadGiven hload none
    rw [Option.getD_none,
      Growth.advanceBy_eq_some_iff.2 ⟨k, hcount, hcompleted, hstep⟩] at hplain
    exact hplain
  have hending := ending_failed (summary source) "" e
  rw [← hcheck] at hending
  refine ⟨iff_of_false (fun h => ?_) (by rw [hrun]; rintro ⟨⟩), fun t' ht' => ?_, fun _ => ?_,
    exists_advanceLogged source⟩
  · rw [h] at hending
    rcases hending with h | h <;> cases h
  · cases hrun.symm.trans ht'
  · refine ⟨hending.imp id fun h => ⟨e, h⟩, ?_⟩
    rw [hexpand, hcheck, failed_eq (summary source) ""]
    exact ⟨rfl, rfl⟩

/-- A check and the expansions of the system that it has loaded agree. -/
theorem agreement_of_loadGiven :
    Agreement read source last (.validate path bindings) (.expand path none bindings none false)
      (.expand path (some (some last)) bindings none false) := by
  rcases hrun : source.growth.advanceBy last with ⟨t, failure⟩
  cases failure with
  | none => exact agreement_of_completed hload hlast hrun
  | some e => exact agreement_of_failed hload hlast hrun

end LastGeneration

/-- The arguments that ask for a system to be checked, and to be expanded under the same variables,
are taken for commands that agree if the system can be loaded.  The path must not be taken for an
option. -/
theorem agreement_ofArguments (hpath : IsOperand path) {given : List String}
    {v : List (String × Float)} (hgiven : given.mapM readAssignment = .ok v)
    (hload : loadGiven read path (v.map some) = .ok source) :
    let last := lastGeneration symbolLimit source.count source.growth
    let check := Command.validate path (v.map some)
    let plain := Command.expand path none (v.map some) none false
    let counted := Command.expand path (some (some last)) (v.map some) none false
    Command.ofArguments (validateArguments path given) = .ok check ∧
      Command.ofArguments (expandArguments path none given) = .ok plain ∧
      Command.ofArguments (expandArguments path (some last) given) = .ok counted ∧
      Agreement read source last check plain counted := by
  intro last check plain counted
  obtain ⟨_, -, hsource⟩ := bind_eq_ok.1 hload
  have hlast : digitCount last ≤ digitLimit :=
    (digitCount_mono (lastGeneration_le _ _ _)).trans (Source.digitCount_of_load hsource)
  refine ⟨ofArguments_validateArguments hpath hgiven,
    ofArguments_expandArguments hpath (by rintro n ⟨⟩) hgiven,
    ofArguments_expandArguments hpath ?_ hgiven, agreement_of_loadGiven hload rfl⟩
  rintro n ⟨⟩
  exact hlast

/-- The files of a system that outgrows the limit in its second generation, and of one that fails in
it. -/
def checkedFiles (path : String) : Except Error Bytes :=
  if path = "wide.txt" then
    .ok (Source.asciiBytes ("Axiom: A\nCount: 3\nRules:\nA --> " ++
      String.join (List.replicate 101 "A;")))
  else if path = "fading.txt" then
    .ok (Source.asciiBytes "Axiom: A(1)\nCount: 3\nRules:\nA(x) --> A(x-1); B(1/x)\n")
  else .error (.file (.missing path))

theorem agreement_ofArguments_wide :
    (∃ (source : Source) (t : Growth),
      loadGiven checkedFiles "wide.txt" [] = .ok source ∧ symbolLimit < t.symbols.length ∧
      Command.ofArguments ["validate", "wide.txt"] = .ok (.validate "wide.txt" []) ∧
      ((Command.validate "wide.txt" []).run checkedFiles).stdout =
        summary source ++ (sizeLine t.symbols.length 2 ++ warningLine 2 3) ∧
      Command.ofArguments ["expand", "wide.txt", "--count", "2"] =
        .ok (.expand "wide.txt" (some (some 2)) [] none false) ∧
      (Command.expand "wide.txt" (some (some 2)) [] none false).run checkedFiles =
        .done (t.text ++ "\n") "") ∧
    ∃ source, loadGiven checkedFiles "fading.txt" [] = .ok source ∧
      Command.ofArguments ["validate", "fading.txt"] = .ok (.validate "fading.txt" []) ∧
      ((Command.validate "fading.txt" []).run checkedFiles).ending ≠ .exit 0 ∧
      Command.ofArguments ["expand", "fading.txt"] =
        .ok (.expand "fading.txt" none [] none false) ∧
      ((Command.expand "fading.txt" none [] none false).run checkedFiles).ending =
        ((Command.validate "fading.txt" []).run checkedFiles).ending := by
  have hwide : okAnd (fun source => source.count == 3 &&
      lastGeneration symbolLimit source.count source.growth == 2)
      (loadGiven checkedFiles "wide.txt" []) = true := by decide +kernel
  have hfading : okAnd (fun source => (source.growth.advanceBy
      (lastGeneration symbolLimit source.count source.growth)).2.isSome)
      (loadGiven checkedFiles "fading.txt" []) = true := by decide +kernel
  have hgiven : ([] : List String).mapM readAssignment = .ok [] := rfl
  refine ⟨?_, ?_⟩
  · obtain ⟨source, hload, hlast⟩ := okAnd_iff.1 hwide
    simp only [Bool.and_eq_true, beq_iff_eq] at hlast
    obtain ⟨hcount, hlast⟩ := hlast
    obtain ⟨t, hrun, hlong⟩ := exists_of_lastGeneration_lt
      (show lastGeneration symbolLimit source.count source.growth < source.count by omega)
    obtain ⟨hvalidate, -, hexpand, hagree⟩ :=
      agreement_ofArguments (⟨by decide, rfl⟩ : IsOperand "wide.txt") hgiven hload
    obtain ⟨hcheck, hcounted, -⟩ := hagree.reports t hrun
    rw [hlast, List.map_nil] at hcheck hexpand hcounted
    refine ⟨source, t, hload, hlong, hvalidate, ?_, hexpand, hcounted⟩
    rw [hcheck, hcount]
    rfl
  · obtain ⟨source, hload, hfails⟩ := okAnd_iff.1 hfading
    obtain ⟨hvalidate, hexpand, -, hagree⟩ :=
      agreement_ofArguments (⟨by decide, rfl⟩ : IsOperand "fading.txt") hgiven hload
    have hending : ((Command.validate "fading.txt" []).run checkedFiles).ending ≠ .exit 0 := by
      intro h
      rw [hagree.exits.1 h] at hfails
      cases hfails
    exact ⟨source, hload, hvalidate, hending, hexpand, (hagree.fails hending).2.1⟩

/-- A path that looks like an option is none of a system, though a system of which all generations
come about may stand in its file. -/
theorem ofArguments_validate_refuses :
    (∃ source, loadGiven (fun _ => .ok (Source.asciiBytes "Axiom: A\n")) "-x" [] = .ok source ∧
      (source.growth.advanceBy source.count).2 = none) ∧
    ∃ u, Command.ofArguments (validateArguments "-x" []) = .error u := by
  have hload : okAnd (fun source => (source.growth.advanceBy source.count).2.isNone)
      (loadGiven (fun _ => .ok (Source.asciiBytes "Axiom: A\n")) "-x" []) = true := by
    decide +kernel
  obtain ⟨source, hload, hrun⟩ := okAnd_iff.1 hload
  exact ⟨⟨source, hload, Option.isNone_iff_eq_none.1 hrun⟩,
    ⟨programName ++ " validate", .missing "system"⟩, rfl⟩

end GrowthGrammar.CommandLine
