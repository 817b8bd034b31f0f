import GrowthGrammar.CommandLine.Outcome
import GrowthGrammar.Proofs.CommandLine.Arguments
import GrowthGrammar.Proofs.Source.Eager

/-!
# Expanding a description

Main statement: reading and running a description at once, loading and advancing it, and the command
`expand` all come to the same system or fail with the same error (`expand_eq_read`).  A path that
looks like an option and a count that is too long never get as far (`ofArguments_refuses`).
-/

namespace GrowthGrammar.CommandLine

open GrowthGrammar.Number GrowthGrammar.Text

variable {read : String → Except Error Bytes} {path : String}

/-! ## The outcome of a run -/

/-- The outcome of printing the word of a system, or of the error that keeps it from being one. -/
def printed : Except Error Growth → Outcome
  | .ok s => .done (s.text ++ "\n") ""
  | .error e => .failed "" "" e

theorem ending_printed (r : Except Error Growth) :
    (printed r).ending = .exit 0 ↔ ∃ s, r = .ok s := by
  cases r with
  | ok s => exact ⟨fun _ => ⟨s, rfl⟩, fun _ => rfl⟩
  | error e =>
    refine ⟨fun h => ?_, fun ⟨s, hs⟩ => by cases hs⟩
    rw [printed, Outcome.failed] at h
    split at h
    · cases h
    · cases h

theorem printed_error {e : Error} {line : String} (h : errorLine? e = some line) :
    printed (.error e) = ⟨"", line ++ "\n", .exit 2, none⟩ := by
  rw [printed, Outcome.failed, h]
  rfl

theorem givenVariables_some (v : List (String × Float)) :
    givenVariables (v.map some) = .ok (Source.givenDoubles v) := by
  have hnone : (v.map some).findIdx? Option.isNone = none := by
    simp [List.findIdx?_eq_none_iff]
  rw [givenVariables, hnone]
  simp [Source.givenDoubles]

theorem expand_eq_printed (source : Source) (count : Option ℕ) :
    expand source (count.map fun n => some (n : ℤ)) none false =
      printed (Growth.completed (source.growth.advance (count.getD source.count : ℕ))) := by
  have hcount : (count.map fun n => some (n : ℤ)).getD (some (source.count : ℤ)) =
      some ((count.getD source.count : ℕ) : ℤ) := by
    cases count <;> rfl
  set n := count.getD source.count
  have hn : ¬(n : ℤ) < 0 := Int.not_lt.2 (Int.natCast_nonneg n)
  rw [expand, hcount, Growth.advance_natCast]
  dsimp only
  rw [if_neg hn, runVerbosely, if_neg Bool.false_ne_true, Int.toNat_natCast]
  cases source.growth.advanceBy n with
  | mk s failure =>
    cases failure with
    | none => rfl
    | some e => rfl

/-- The command prints what the description comes to when it is read and run at once. -/
theorem run_expand (hpath : Source.isDataPath path = false) {bytes : Bytes} {cs : List Char}
    (hbytes : read path = .ok bytes) (hcs : decode bytes = .ok cs) (v : List (String × Float))
    (count : Option ℕ) :
    (Command.expand path (count.map fun n => some (n : ℤ)) (v.map some) none false).run read =
      printed (Growth.read (.ofList v) (count.map (↑)) cs) := by
  have hload : loadGiven read path (v.map some) =
      Source.load read path (Source.givenDoubles v) := by
    rw [loadGiven, givenVariables_some]
    rfl
  rw [Command.run, hload, ← Source.load_advance hpath hbytes hcs v count]
  cases Source.load read path (Source.givenDoubles v) with
  | error e => rfl
  | ok source => exact expand_eq_printed source count

/-! ## Main statement -/

/-- A description that is read and run at once comes to the same system, or fails with the same
error, as the one that is loaded from a file, where line endings are unified, and advanced.  The
command `expand` prints its word, or the line for its error, if the path is not taken for an option
and the count is not too long. -/
theorem expand_eq_read (hpath : Source.isDataPath path = false) {bytes : Bytes} {cs : List Char}
    (hbytes : read path = .ok bytes) (hcs : decode bytes = .ok cs) (v : List (String × Float))
    (count : Option ℕ) :
    (Source.load read path (Source.givenDoubles v) >>= fun s =>
        Growth.completed (s.growth.advance (count.getD s.count : ℕ))) =
      Growth.read (.ofList v) (count.map (↑)) cs ∧
    Growth.read (.ofList v) (count.map (↑)) (unifyNewlines cs) =
      Growth.read (.ofList v) (count.map (↑)) cs ∧
    ∀ bindings : List String, bindings.mapM readAssignment = .ok v → IsOperand path →
      (∀ n ∈ count, (natDigits n).length ≤ digitLimit) →
      ∃ c, Command.ofArguments (expandArguments path count bindings) = .ok c ∧
        ((c.run read).ending = .exit 0 ↔
          ∃ s, Growth.read (.ofList v) (count.map (↑)) cs = .ok s) ∧
        (∀ s, Growth.read (.ofList v) (count.map (↑)) cs = .ok s →
          (c.run read).stdout = s.text ++ "\n") ∧
        ∀ e line, Growth.read (.ofList v) (count.map (↑)) cs = .error e →
          errorLine? e = some line → c.run read = ⟨"", line ++ "\n", .exit 2, none⟩ := by
  refine ⟨Source.load_advance hpath hbytes hcs v count, Growth.read_unifyNewlines _ _ _,
    fun bindings hbindings hoperand hcount => ?_⟩
  have hrun := run_expand hpath hbytes hcs v count
  refine ⟨_, ofArguments_expandArguments hoperand hcount hbindings, ?_, ?_, ?_⟩
  · rw [hrun]
    exact ending_printed _
  · intro s hs
    rw [hrun, hs]
    rfl
  · intro e line he hline
    rw [hrun, he]
    exact printed_error hline

theorem expand_eq_read_growing :
    ∃ v c s, ["k=3"].mapM readAssignment = .ok v ∧
      Command.ofArguments (expandArguments "plant.txt" (some 1) ["k=3"]) = .ok c ∧
      Growth.read (.ofList v) (some 1) Source.growingDescription.toList = .ok s ∧
      (c.run Source.growingFiles).ending = .exit 0 ∧
      (c.run Source.growingFiles).stdout = s.text ++ "\n" ∧ s.text = "A(4); B" := by
  have hread : okAnd (fun v => okAnd (fun s : Growth => s.text == "A(4); B")
      (Growth.read (.ofList v) (some 1) Source.growingDescription.toList))
      (["k=3"].mapM readAssignment) = true := by decide +kernel
  obtain ⟨v, hv, hread⟩ := okAnd_iff.1 hread
  obtain ⟨s, hs, htext⟩ := okAnd_iff.1 hread
  have hchars : decode (Source.asciiBytes Source.growingDescription) =
      .ok Source.growingDescription.toList := by decide +kernel
  obtain ⟨-, -, hprogram⟩ := expand_eq_read (by decide : Source.isDataPath "plant.txt" = false)
    (rfl : Source.growingFiles "plant.txt" = _) hchars v (some 1)
  obtain ⟨c, hc, hexit, hprinted, -⟩ := hprogram ["k=3"] hv ⟨by decide, rfl⟩ (by decide)
  exact ⟨v, c, s, hv, hc, hs, hexit.2 ⟨s, hs⟩, hprinted s hs, beq_iff_eq.1 htext⟩

/-- A path that looks like an option is none of a system, though a system may stand in its file, and
a count that is too long is refused before the error of the system is met. -/
theorem ofArguments_refuses :
    ((∃ s, Growth.read .empty none "Axiom: A\n".toList = .ok s) ∧
      ∃ u, Command.ofArguments (expandArguments "-x" none []) = .error u) ∧
    (∃ e, Growth.read .empty (some (10 ^ digitLimit : ℕ))
        "Axiom: A(0)\nRules:\nA(x) --> A(1/x)\n".toList = .error (.expression e)) ∧
      ∃ u, Command.ofArguments (expandArguments "a.txt" (some (10 ^ digitLimit)) []) =
        .error u := by
  have hread : okAnd (fun _ => true) (Growth.read .empty none "Axiom: A\n".toList) = true := by
    decide +kernel
  have hfails : okAnd (fun d => errorAnd (fun e => e.errorClass == .failure) d.growth.step)
      (Description.read .empty "Axiom: A(0)\nRules:\nA(x) --> A(1/x)\n".toList) = true := by
    decide +kernel
  have hlong : digitLimit < (natDigits (10 ^ digitLimit)).length := by
    rw [← Nat.not_le, natDigits, Nat.length_toDigits_le_iff (by decide) (by decide)]
    exact Nat.lt_irrefl _
  obtain ⟨s, hs, -⟩ := okAnd_iff.1 hread
  obtain ⟨d, hd, hstep⟩ := okAnd_iff.1 hfails
  obtain ⟨e, he, hclass⟩ := errorAnd_iff.1 hstep
  obtain ⟨e, rfl⟩ := exists_of_errorClass_failure (beq_iff_eq.1 hclass)
  exact ⟨⟨⟨s, hs⟩, ⟨programName ++ " expand", .missing "system"⟩, rfl⟩,
    ⟨e, Growth.read_of_step_error hd he (Nat.pow_pos (by decide))⟩, _,
    ofArguments_longCount ⟨by decide, rfl⟩ hlong⟩

end GrowthGrammar.CommandLine
