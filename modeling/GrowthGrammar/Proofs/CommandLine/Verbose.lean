import GrowthGrammar.Proofs.CommandLine.Containment
import GrowthGrammar.Proofs.Growth.Iteration

/-!
# Lines about generations

`expand` may be asked for a line about each generation.  Arguments that ask for `expand` do so with
`-v` in front as well (`ofArguments_verbose`).  The command then puts the lines in front of its
error output, and all else is as it would be without them (`run_expand_verbose`, `runIn_behind`).
-/

namespace GrowthGrammar.CommandLine

open GrowthGrammar.Number

variable {t u : FileTree} {read : String → Except Error Bytes} {system : String}
  {count : Option (Option ℤ)} {bindings : List (Option (String × Float))} {output : Option String}
  {verbose : Bool} {arguments : List String} {o : Outcome}

/-! ## Asking for the lines about generations -/

namespace Settings

/-- The settings with the lines about generations asked for. -/
def loud (s : Settings) : Settings :=
  { s with verbose := true }

theorem system_loud (s : Settings) : s.loud.system = s.system := rfl

theorem setFlag_loud (s : Settings) (f : Flag) : s.loud.setFlag f = loud <$> s.setFlag f := by
  cases f <;> rfl

theorem setFlags_loud (s : Settings) (fs : List Flag) :
    s.loud.setFlags fs = loud <$> s.setFlags fs := by
  unfold setFlags
  induction fs generalizing s with
  | nil => rfl
  | cons f fs ih => simp only [List.foldlM_cons, setFlag_loud, bind_map_left, map_bind, ih]

theorem setValue_loud (s : Settings) (f : Flag) (value : String) :
    s.loud.setValue f value = loud <$> s.setValue f value := by
  cases f with
  | count =>
    unfold setValue
    cases readInteger value.toList <;> rfl
  | var =>
    unfold setValue
    cases readAssignment value <;> rfl
  | help => rfl
  | json => rfl
  | verbose => rfl

theorem setAttached_loud (s : Settings) (f : Flag) (value : List Char) :
    s.loud.setAttached f value = loud <$> s.setAttached f value := by
  unfold setAttached
  split_ifs
  · cases f <;> rfl
  · exact setValue_loud s f _

end Settings

open Settings (loud)

/-- Arguments give the same settings wherever the lines about generations have been asked for. -/
theorem settle_loud (table : FlagTable) (s : Settings) (ks : List (String × Reading)) :
    settle table s.loud ks = loud <$> settle table s ks := by
  induction s, ks using settle.induct with
  | case1 s => rfl
  | case2 s a r ih => exact ih
  | case3 s a r hs ih =>
    rw [settle.eq_def, settle.eq_def table s]
    simp only [Settings.system_loud, hs, if_true]
    exact ih
  | case4 s a hs b t ih =>
    rw [settle.eq_def, settle.eq_def table s]
    simp only [Settings.system_loud, hs]
    exact ih
  | case5 s a hs r hr ih =>
    rw [settle, settle, Settings.system_loud, if_neg hs, if_neg hs]
    · exact ih
    · exact hr
    · exact hr
  | case6 s a b t hs ih =>
    rw [settle, settle, Settings.system_loud, if_pos hs, if_pos hs]
    exact ih
  | case7 s a b t hs ih =>
    rw [settle, settle, Settings.system_loud, if_neg hs, if_neg hs]
    exact ih
  | case8 s a r hr ih =>
    rw [settle, settle]
    · exact ih
    · exact hr
    · exact hr
  | case9 s a f name r v hf ih =>
    simp only [settle, if_pos hf, Settings.setAttached_loud, bind_map_left, map_bind, ih]
  | case10 s a f name r v hf ih =>
    simp only [settle, if_neg hf, Settings.setFlags_loud, bind_map_left, map_bind, ih]
  | case11 s a f name hf b t ih =>
    simp only [settle, if_pos hf, Settings.setValue_loud, bind_map_left, map_bind, ih]
  | case12 s a f name hf r hr =>
    rw [settle, settle]
    · simp only [if_pos hf]
      rfl
    · exact hr
    · exact hr
  | case13 s a f name r hf ih =>
    rw [settle.eq_def, settle.eq_def table s]
    simp only [if_neg hf, Settings.setFlag_loud, bind_map_left, map_bind, ih]

theorem readSettings_verbose (arguments : List String) :
    readSettings expandFlags ("-v" :: arguments) = loud <$> readSettings expandFlags arguments := by
  have hflag : readArgument expandFlags "-v" = .ok (.option .verbose "-v".toList none) := rfl
  rw [readSettings, readSettings, readArguments_cons (by decide) hflag, bind_assoc, map_bind]
  congr 1
  funext ks
  have hset : Settings.start.setFlag .verbose = .ok Settings.start.loud := rfl
  rw [ok_bind, settle.eq_def]
  simp only [Flag.hasValue, Bool.false_eq_true, if_false, hset, ok_bind]
  rw [settle_loud, bind_map_left, map_bind]
  congr 1
  funext s
  rw [Settings.system_loud]
  split_ifs <;> rfl

/-- Arguments that ask for `expand` do so in front. -/
theorem findCommand_eq_ok {extras : List String} {c : Command}
    (h : findCommand extras arguments = .ok (c, [])) :
    extras = [] ∧ ∃ name rest, arguments = name :: rest ∧ readCommand name rest = .ok (c, []) := by
  induction extras, arguments using findCommand.induct with
  | case1 => cases h
  | case2 extras r hr =>
    rw [findCommand, if_pos rfl, if_pos hr] at h
    cases h
  | case3 extras r hr =>
    rw [findCommand, if_pos rfl, if_neg hr] at h
    cases h
  | case4 extras a r ha e he =>
    rw [findCommand, if_neg ha, he] at h
    cases h
  | case5 extras a r ha hunknown ih =>
    rw [findCommand, if_neg ha, hunknown] at h
    obtain ⟨hextras, -⟩ := ih h
    simp at hextras
  | case6 extras a r ha f name v hoption e he =>
    rw [findCommand, if_neg ha, hoption] at h
    simp only [he] at h
    cases h
  | case7 extras a r ha f name v hoption fs hfs =>
    rw [findCommand, if_neg ha, hoption] at h
    simp only [hfs] at h
    cases h
  | case8 extras a r ha f name hoption =>
    rw [findCommand, if_neg ha, hoption] at h
    cases h
  | case9 extras a r ha k hunknown hattached hoption hk =>
    rw [findCommand, if_neg ha, hk] at h
    simp only at h
    obtain ⟨⟨c', more⟩, hcommand, h⟩ := bind_eq_ok.1 h
    obtain ⟨rfl, hmore⟩ := Prod.mk.inj (Except.ok.inj h)
    obtain ⟨hextras, rfl⟩ := List.append_eq_nil_iff.1 hmore
    exact ⟨hextras, a, r, rfl, hcommand⟩

theorem exists_of_ofArguments_expand
    (h : Command.ofArguments arguments = .ok (.expand system count bindings output verbose)) :
    ∃ rest, arguments = "expand" :: rest := by
  obtain ⟨⟨c, extras⟩, hfind, h⟩ := bind_eq_ok.1 h
  dsimp only at h
  split_ifs at h with hextras
  · obtain rfl := Except.ok.inj h
    obtain rfl := List.isEmpty_iff.1 hextras
    obtain ⟨-, name, rest, rfl, hcommand⟩ := findCommand_eq_ok hfind
    unfold readCommand at hcommand
    split_ifs at hcommand with hexpand hvalidate
    · exact ⟨rest, by rw [hexpand]⟩
    · obtain ⟨s, -, hs⟩ := bind_eq_ok.1 hcommand
      cases hs
    · cases hcommand
  · cases h

/-- The lines about generations can be asked for in front of the other arguments of `expand`. -/
theorem ofArguments_verbose {rest : List String}
    (h : Command.ofArguments ("expand" :: rest) =
      .ok (.expand system count bindings output verbose)) :
    Command.ofArguments ("expand" :: "-v" :: rest) =
      .ok (.expand system count bindings output true) := by
  rw [ofArguments_expand] at h ⊢
  rw [readSettings_verbose]
  cases hs : readSettings expandFlags rest with
  | error e =>
    rw [hs] at h
    cases h
  | ok s =>
    rw [hs] at h
    change (if s.extras.isEmpty then _ else _) = _ at h
    change (if s.extras.isEmpty then _ else _) = _
    split_ifs at h ⊢ with hextras
    · obtain ⟨rfl, rfl, rfl, rfl, rfl⟩ := Command.expand.inj (Except.ok.inj h)
      rfl
    · cases h

/-! ## What the lines change -/

/-- The words of the generations that `expand` completes. -/
def completedWords (read : String → Except Error Bytes) (system : String)
    (count : Option (Option ℤ)) (bindings : List (Option (String × Float))) : List (List Symbol) :=
  match loadGiven read system bindings with
  | .error _ => []
  | .ok source =>
    match count.getD (some source.count) with
    | none => []
    | some n => (source.growth.iterate n none).words

/-- The words lead from the system that is loaded to the one that it comes to. -/
theorem completes_completedWords {source : Source} {n : ℤ}
    (hload : loadGiven read system bindings = .ok source)
    (hcount : count.getD (some source.count) = some n) :
    Growth.Completes source.growth (completedWords read system count bindings)
      (source.growth.advance n).1 := by
  have hcompletes := Growth.completes_iterate n none source.growth
  have hfinal : (source.growth.iterate n none).final = (source.growth.advance n).1 :=
    congrArg Prod.fst (Growth.iterate_none n source.growth)
  rw [completedWords, hload]
  simp only [hcount]
  rwa [hfinal] at hcompletes

namespace Outcome

/-- The outcome with a text in front of its error output. -/
def behind (front : String) (o : Outcome) : Outcome :=
  { o with stderr := front ++ o.stderr }

theorem behind_empty (o : Outcome) : o.behind "" = o := by
  rw [behind, String.empty_append]

theorem behind_failed (front stdout stderr : String) (e : Error) :
    (failed stdout stderr e).behind front = failed stdout (front ++ stderr) e := by
  unfold failed
  cases errorLine? e with
  | none => rfl
  | some line => simp only [behind, String.append_assoc]

theorem behind_written (front text : String) (o : Outcome) (result : Except Error (Option Screen)) :
    (o.written text result).behind front = (o.behind front).written text result := by
  cases result with
  | error e => exact behind_failed front o.stdout o.stderr e
  | ok screen =>
    cases screen with
    | none => rfl
    | some screen =>
      cases screen with
      | output => rfl
      | errors => simp only [written, shown, behind, String.append_assoc]

end Outcome

theorem runVerbosely_true {n : ℤ} (hn : ¬n < 0) (g : Growth) :
    runVerbosely true n.toNat g =
      (generationLines (g.iterate n none).words, (runVerbosely false n.toNat g).2) := by
  rw [runVerbosely_snd, ← Growth.trace_eq_advanceBy, runVerbosely, if_pos rfl, Growth.iterate,
    if_neg (by simp), if_neg hn]

/-- The lines about generations are put in front of the error output. -/
theorem run_expand_verbose (read : String → Except Error Bytes) :
    (Command.expand system count bindings output true).run read =
      ((Command.expand system count bindings output false).run read).behind
        (generationLines (completedWords read system count bindings)) := by
  unfold completedWords
  rw [Command.run, Command.run]
  cases loadGiven read system bindings with
  | error e => exact (Outcome.behind_empty _).symm
  | ok source =>
    dsimp only
    unfold expand
    cases count.getD (some source.count) with
    | none => exact (Outcome.behind_empty _).symm
    | some n =>
      dsimp only
      by_cases hn : n < 0
      · have hwords : (source.growth.iterate n none).words = [] := by
          rw [Growth.iterate, if_neg (by simp), if_pos hn]
        rw [if_pos hn, if_pos hn, hwords]
        exact (Outcome.behind_empty _).symm
      · have hquiet : runVerbosely false n.toNat source.growth =
            ("", (runVerbosely false n.toNat source.growth).2) := rfl
        rw [if_neg hn, if_neg hn, runVerbosely_true hn, hquiet]
        rcases (runVerbosely false n.toNat source.growth).2 with ⟨g, failure⟩
        cases failure with
        | some e =>
          rw [Outcome.behind_failed, String.append_empty]
        | none =>
          cases output with
          | none => simp only [Outcome.behind, Outcome.done, String.append_empty]
          | some path =>
            dsimp only
            split_ifs <;> simp only [Outcome.behind, Outcome.done, String.append_empty]

/-- A command that puts a text in front of its error output leaves the same tree. -/
theorem runIn_behind {c c' : Command} {front : String}
    (h : c'.run t.read = (c.run t.read).behind front) (hrun : c.runIn t = (o, u)) :
    c'.runIn t = (o.behind front, u) := by
  cases houtput : (c.run t.read).output with
  | none =>
    obtain ⟨rfl, rfl⟩ := Prod.mk.inj (hrun.symm.trans (runIn_of_output_none rfl houtput))
    exact runIn_of_output_none h houtput
  | some file =>
    obtain ⟨rfl, rfl⟩ := Prod.mk.inj (hrun.symm.trans (runIn_of_output rfl houtput))
    rw [Outcome.behind_written]
    exact runIn_of_output h houtput

end GrowthGrammar.CommandLine
