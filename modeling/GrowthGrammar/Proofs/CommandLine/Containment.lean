import GrowthGrammar.Proofs.CommandLine.Validate
import GrowthGrammar.Proofs.FileTree
import GrowthGrammar.Proofs.Growth.Stray
import GrowthGrammar.Proofs.Source.Stray

/-!
# Errors that escape from commands

A command ends with one of two exit codes, behind a line about its error if it fails, unless it
meets a stray error, which escapes (`runIn_contained`).  `Escapes` says of the files and of the
arguments which stray error that is; data files with a surrogate that lacks its pair are left out.
Bytes that are no text are one of them (`ending_runIn_undecodable`).
-/

namespace GrowthGrammar.CommandLine

open GrowthGrammar.Number GrowthGrammar.Text

variable {t u : FileTree} {path : String} {bindings : List (Option (String × Float))}
  {source : Source} {g : Growth} {s : Stray} {n : ℕ}

/-! ## Which errors escape -/

/-- The stray error of loading a system: a variable without its value, or that of the source. -/
inductive LoadStrays (t : FileTree) (path : String) (bindings : List (Option (String × Float))) :
    Stray → Prop
  | blankVariable {i : ℕ} (h : bindings.findIdx? Option.isNone = some i) :
      LoadStrays t path bindings (.blankVariable i)
  | source {v : List (String × Float)} {s : Stray} (hv : bindings = v.map some)
      (h : Source.Strays t path v s) : LoadStrays t path bindings s

/-- The stray error of a run is that of the first generation that fails. -/
def RunStrays (g : Growth) (n : ℕ) (s : Stray) : Prop :=
  ∃ k < n, ∃ h, g.advanceBy k = (h, none) ∧ h.Strays s

/-- The stray error of writing the output is that of a null character in its path, if no folder
fails to be made for it. -/
def OutputStrays (t : FileTree) (output : Option String) (s : Stray) : Prop :=
  s = .nullInPath ∧ ∃ path, output = some path ∧ holdsNull path = true ∧ t.FindsFolders path

/-- The stray error of expanding a system that has been loaded: a count without its value, an error
of its run or, if this comes to an end, one of writing the output. -/
def ExpandStrays (t : FileTree) (source : Source) (count : Option (Option ℤ))
    (output : Option String) (s : Stray) : Prop :=
  match count.getD (some source.count) with
  | none => s = .blankCount
  | some n =>
    0 ≤ n ∧
      (RunStrays source.growth n.toNat s ∨
        (source.growth.advanceBy n.toNat).2 = none ∧ OutputStrays t output s)

/-- The error that escapes from a command. -/
def Escapes (t : FileTree) : Command → Stray → Prop
  | .expand system count bindings output _, s =>
    LoadStrays t system bindings s ∨
      ∃ source, loadGiven t.read system bindings = .ok source ∧
        ExpandStrays t source count output s
  | .validate system bindings, s =>
    LoadStrays t system bindings s ∨
      ∃ source, loadGiven t.read system bindings = .ok source ∧
        RunStrays source.growth (lastGeneration symbolLimit source.count source.growth) s

/-! ## Outcomes -/

/-- The command exits with a code. -/
def Ending.isExit (code : ℕ) : Ending → Bool
  | exit n => n == code
  | raised _ => false

theorem Ending.isExit_iff {code : ℕ} {ending : Ending} :
    ending.isExit code = true ↔ ending = .exit code := by
  cases ending <;> simp [isExit]

/-- The error output ends in the line about an error. -/
def EndsInErrorLine (stderr : String) : Prop :=
  ∃ front e line, errorLine? e = some line ∧ stderr = front ++ line ++ "\n"

namespace Outcome

/-- The command has succeeded, or has told about the error that it failed with. -/
def Contained (o : Outcome) : Prop :=
  o.ending = .exit 0 ∨ o.ending = .exit 2 ∧ EndsInErrorLine o.stderr

/-- The errors that an outcome lets escape are the stray ones with a property, and without such an
error it is contained. -/
def LetsEscape (o : Outcome) (P : Stray → Prop) : Prop :=
  (∀ e, o.ending = .raised e ↔ ∃ s, e = .stray s ∧ P s) ∧ ((∀ s, ¬P s) ↔ o.Contained)

theorem letsEscape_of_exit {o : Outcome} {P : Stray → Prop} (h : o.ending = .exit 0)
    (hP : ∀ s, ¬P s) : o.LetsEscape P := by
  refine ⟨fun e => ⟨fun he => ?_, fun ⟨s, _, hs⟩ => absurd hs (hP s)⟩, fun _ => Or.inl h, fun _ => hP⟩
  rw [h] at he
  cases he

theorem errorLine?_eq_none_iff {e : Error} : errorLine? e = none ↔ ∃ s, e = .stray s := by
  cases e <;> simp [errorLine?]

theorem letsEscape_failed {stdout stderr : String} {e : Error} {P : Stray → Prop}
    (hP : ∀ s, e = .stray s ↔ P s) : (failed stdout stderr e).LetsEscape P := by
  unfold failed
  cases hline : errorLine? e with
  | some line =>
    have hnone (s : Stray) : ¬P s := by
      rw [← hP]
      rintro rfl
      cases hline
    refine ⟨fun e' => ⟨fun h => (by cases h), fun ⟨s, _, hs⟩ => absurd hs (hnone s)⟩,
      fun _ => Or.inr ⟨rfl, stderr, e, line, hline, rfl⟩, fun _ => hnone⟩
  | none =>
    obtain ⟨s, rfl⟩ := errorLine?_eq_none_iff.1 hline
    refine ⟨fun e' => ⟨fun h => ?_, ?_⟩, fun h => absurd ((hP s).1 rfl) (h s), ?_⟩
    · obtain rfl := Ending.raised.inj h
      exact ⟨s, rfl, (hP s).1 rfl⟩
    · rintro ⟨s', rfl, hs'⟩
      rw [(hP s').2 hs']
    · rintro (h | ⟨h, -⟩) <;> cases h

end Outcome

/-! ## Stages -/

theorem exists_map_some (h : bindings.findIdx? Option.isNone = none) :
    ∃ v : List (String × Float), bindings = v.map some := by
  rw [List.findIdx?_eq_none_iff] at h
  induction bindings with
  | nil => exact ⟨[], rfl⟩
  | cons b bindings ih =>
    obtain ⟨hb, hrest⟩ := List.forall_mem_cons.1 h
    obtain ⟨v, rfl⟩ := ih hrest
    cases b with
    | none => cases hb
    | some e => exact ⟨e :: v, rfl⟩

theorem loadGiven_eq_stray_iff (hpaired : Source.IsPaired t path) :
    loadGiven t.read path bindings = .error (.stray s) ↔ LoadStrays t path bindings s := by
  have hsource (v : List (String × Float)) :
      loadGiven t.read path (v.map some) = .error (.stray s) ↔ Source.Strays t path v s := by
    rw [loadGiven, givenVariables_some, ok_bind, Source.load_eq_stray_iff hpaired]
  constructor
  · intro h
    cases hfind : bindings.findIdx? Option.isNone with
    | none =>
      obtain ⟨v, rfl⟩ := exists_map_some hfind
      exact .source rfl ((hsource v).1 h)
    | some i =>
      rw [loadGiven, givenVariables, hfind] at h
      obtain rfl := Error.stray.inj (Except.error.inj h)
      exact .blankVariable hfind
  · intro h
    cases h with
    | blankVariable h =>
      rw [loadGiven, givenVariables, h]
      rfl
    | source hv h =>
      subst hv
      exact (hsource _).2 h

theorem advanceBy_snd_eq_stray_iff : (g.advanceBy n).2 = some (.stray s) ↔ RunStrays g n s := by
  simp only [RunStrays, Growth.advanceBy_snd_eq_some_iff, Growth.step_eq_stray_iff]

theorem runVerbosely_snd (verbose : Bool) (n : ℕ) (g : Growth) :
    (runVerbosely verbose n g).2 = g.advanceBy n := by
  unfold runVerbosely
  split_ifs
  · exact Growth.trace_eq_advanceBy n g
  · rfl

/-! ## Outcomes in a file tree -/

/-- A command reads no file but that of its system. -/
theorem run_eq_of_read_path (read : String → Except Error Bytes) (c : Command) :
    c.run read = c.run fun _ => read c.path := by
  cases c <;> rfl

/-- The action that reads a file of the tree. -/
def readAction (path : String) : StateM FileTree (Except Error Bytes) :=
  fun t => (t.read path, t)

/-- The action that writes a file of the tree. -/
def writeAction (path text : String) : StateM FileTree (Except Error (Option Screen)) :=
  fun t => ((t.write path text.toUTF8.toList).2, (t.write path text.toUTF8.toList).1)

/-- A command comes to the same in a file tree as by the actions on its files. -/
theorem perform_eq_runIn (t : FileTree) (c : Command) :
    (c.perform readAction writeAction).run t = c.runIn t := by
  have hread : (readAction c.path).run t = pure (t.read c.path, t) := rfl
  rw [Command.runIn, run_eq_of_read_path t.read, Command.perform, StateT.run_bind, hread, pure_bind]
  dsimp only
  cases (c.run fun _ => t.read c.path).output with
  | none => rfl
  | some output => rfl

theorem output_failed (stdout stderr : String) (e : Error) :
    (Outcome.failed stdout stderr e).output = none := by
  unfold Outcome.failed
  split <;> rfl

theorem runIn_of_output_none {c : Command} {o : Outcome} (hrun : c.run t.read = o)
    (h : o.output = none) : c.runIn t = (o, t) := by
  rw [Command.runIn, hrun]
  simp only [h]

theorem runIn_of_output {c : Command} {o : Outcome} {text : String} (hrun : c.run t.read = o)
    (h : o.output = some (path, text)) :
    c.runIn t = (o.written text (t.write path text.toUTF8.toList).2,
      (t.write path text.toUTF8.toList).1) := by
  rw [Command.runIn, hrun]
  simp only [h]

theorem ending_shown (o : Outcome) (text : String) (screen : Option Screen) :
    (o.shown text screen).ending = o.ending := by
  cases screen with
  | none => rfl
  | some screen => cases screen <;> rfl

theorem letsEscape_runIn_failed {c : Command} {stdout stderr : String} {e : Error}
    {P : Stray → Prop} (hrun : c.run t.read = .failed stdout stderr e)
    (hP : ∀ s, e = .stray s ↔ P s) : (c.runIn t).1.LetsEscape P := by
  rw [runIn_of_output_none hrun (output_failed stdout stderr e)]
  exact Outcome.letsEscape_failed hP

/-- A file that cannot be written for a null character in its path lets that error escape. -/
theorem letsEscape_runIn_output {c : Command} {stdout stderr text : String}
    (hrun : c.run t.read = ⟨stdout, stderr, .exit 0, some (path, text)⟩) :
    (c.runIn t).1.LetsEscape (OutputStrays t (some path)) := by
  have hstray (s : Stray) : (t.write path text.toUTF8.toList).2 = .error (.stray s) ↔
      OutputStrays t (some path) s := by
    simp only [FileTree.write_eq_stray_iff, OutputStrays, Option.some.injEq, exists_eq_left']
  rw [runIn_of_output hrun rfl]
  dsimp only
  cases hwrite : (t.write path text.toUTF8.toList).2 with
  | ok screen =>
    rw [hwrite] at hstray
    exact Outcome.letsEscape_of_exit (ending_shown _ text screen) fun s hs => by
      cases (hstray s).2 hs
  | error e =>
    rw [hwrite] at hstray
    exact Outcome.letsEscape_failed fun s => by rw [← hstray, Except.error.injEq]

/-! ## Main statement -/

theorem letsEscape_expand_finished {count : Option (Option ℤ)} (output : Option String)
    (verbose : Bool) (hload : loadGiven t.read path bindings = .ok source) {n : ℤ} (hn : ¬n < 0)
    (hcount : count.getD (some source.count) = some n)
    (hrun : (source.growth.advanceBy n.toNat).2 = none) :
    ((Command.expand path count bindings output verbose).runIn t).1.LetsEscape
      (OutputStrays t output) := by
  have hsnd := runVerbosely_snd verbose n.toNat source.growth
  rcases hverbose : runVerbosely verbose n.toNat source.growth with ⟨lines, g, failure⟩
  rw [hverbose] at hsnd
  obtain rfl : failure = none := by rw [← hrun, ← hsnd]
  cases output with
  | none =>
    have hexpand : (Command.expand path count bindings none verbose).run t.read =
        .done (g.text ++ "\n") lines := by
      rw [Command.run, hload]
      simp only [expand, hcount, if_neg hn, hverbose]
    rw [runIn_of_output_none hexpand rfl]
    refine Outcome.letsEscape_of_exit rfl ?_
    rintro s ⟨-, path, hpath, -, -⟩
    cases hpath
  | some path' =>
    have hexpand : (Command.expand path count bindings (some path') verbose).run t.read =
        if path' = "" then .done (g.text ++ "\n") lines
        else ⟨"", lines, .exit 0, some (path', resultText source.name g)⟩ := by
      rw [Command.run, hload]
      simp only [expand, hcount, if_neg hn, hverbose]
    by_cases hempty : path' = ""
    · subst hempty
      rw [runIn_of_output_none hexpand rfl]
      refine Outcome.letsEscape_of_exit rfl ?_
      rintro s ⟨-, path, hpath, hnull, -⟩
      obtain rfl := Option.some.inj hpath
      cases hnull
    · rw [if_neg hempty] at hexpand
      exact letsEscape_runIn_output hexpand

theorem letsEscape_expand {count : Option (Option ℤ)} {output : Option String} {verbose : Bool}
    (hload : loadGiven t.read path bindings = .ok source) :
    ((Command.expand path count bindings output verbose).runIn t).1.LetsEscape
      (ExpandStrays t source count output) := by
  have hrun : (Command.expand path count bindings output verbose).run t.read =
      expand source count output verbose := by rw [Command.run, hload]
  unfold ExpandStrays
  cases hcount : count.getD (some source.count) with
  | none =>
    have hblank : expand source count output verbose = .failed "" "" (.stray .blankCount) := by
      rw [expand, hcount]
    exact letsEscape_runIn_failed (hrun.trans hblank) fun s => by simp [eq_comm]
  | some n =>
    by_cases hn : n < 0
    · have hnegative : expand source count output verbose =
          .failed "" "" (.configuration .negativeCount) := by
        rw [expand, hcount]
        exact if_pos hn
      refine letsEscape_runIn_failed (hrun.trans hnegative) fun s => ⟨fun h => (by cases h), ?_⟩
      rintro ⟨hle, -⟩
      exact absurd hn (Int.not_lt.2 hle)
    · have hle : 0 ≤ n := Int.not_lt.1 hn
      have hstray (s : Stray) := advanceBy_snd_eq_stray_iff (g := source.growth) (n := n.toNat) (s := s)
      cases hfailure : (source.growth.advanceBy n.toNat).2 with
      | some e =>
        have hsnd := runVerbosely_snd verbose n.toNat source.growth
        rcases hverbose : runVerbosely verbose n.toNat source.growth with ⟨lines, g, failure⟩
        rw [hverbose] at hsnd
        obtain rfl : failure = some e := by rw [← hfailure, ← hsnd]
        have hfails : expand source count output verbose = .failed "" lines e := by
          simp only [expand, hcount, if_neg hn, hverbose]
        refine letsEscape_runIn_failed (hrun.trans hfails) fun s => ?_
        simp [hle, ← hstray, hfailure]
      | none =>
        have hfinished := letsEscape_expand_finished output verbose hload hn hcount hfailure
        simpa only [hle, ← hstray, hfailure, reduceCtorEq, false_or, true_and] using hfinished

theorem letsEscape_validate (hload : loadGiven t.read path bindings = .ok source) :
    ((Command.validate path bindings).runIn t).1.LetsEscape
      (RunStrays source.growth (lastGeneration symbolLimit source.count source.growth)) := by
  have hrun : (Command.validate path bindings).run t.read = validate source := by
    rw [Command.run, hload]
  have hwithin := advanceWithin_eq_advanceBy symbolLimit source.count source.growth
  rcases hadvance : advanceWithin symbolLimit source.count source.growth with ⟨g, failure⟩
  rw [hadvance] at hwithin
  have hstray (s : Stray) : failure = some (.stray s) ↔
      RunStrays source.growth (lastGeneration symbolLimit source.count source.growth) s := by
    rw [← advanceBy_snd_eq_stray_iff, ← hwithin]
  cases failure with
  | some e =>
    have hfails : validate source = .failed (summary source) "" e := by rw [validate, hadvance]
    exact letsEscape_runIn_failed (hrun.trans hfails) fun s => by rw [← hstray, Option.some.injEq]
  | none =>
    have hdone : validate source =
        .done (summary source ++ conclusion source.count g) "" := by rw [validate, hadvance]
    rw [runIn_of_output_none (hrun.trans hdone) rfl]
    exact Outcome.letsEscape_of_exit rfl fun s hs => by cases (hstray s).2 hs

/-- A command lets escape what loading its system does, and else what it does with the system. -/
theorem letsEscape_loaded {c : Command} {P : Source → Stray → Prop}
    (hpaired : Source.IsPaired t path)
    (hfails : ∀ e, loadGiven t.read path bindings = .error e → c.run t.read = .failed "" "" e)
    (hloads : ∀ source, loadGiven t.read path bindings = .ok source →
      (c.runIn t).1.LetsEscape (P source)) :
    (c.runIn t).1.LetsEscape fun s => LoadStrays t path bindings s ∨
      ∃ source, loadGiven t.read path bindings = .ok source ∧ P source s := by
  simp only [← loadGiven_eq_stray_iff hpaired]
  cases hload : loadGiven t.read path bindings with
  | error e => exact letsEscape_runIn_failed (hfails e hload) fun s => by simp
  | ok source => simpa using hloads source hload

/-- The errors that escape from a command are those that `Escapes` says, if no surrogate in the data
file of its system lacks its pair.  A command from which none escapes succeeds, or fails behind a
line about its error. -/
theorem runIn_contained (t : FileTree) (c : Command) (hpaired : Source.IsPaired t c.path) :
    (∀ e, (c.runIn t).1.ending = .raised e ↔ ∃ s, e = .stray s ∧ Escapes t c s) ∧
      ((∀ s, ¬Escapes t c s) ↔ (c.runIn t).1.Contained) := by
  cases c with
  | expand system count bindings output verbose =>
    refine letsEscape_loaded hpaired (fun e he => ?_) fun source hload => letsEscape_expand hload
    rw [Command.run, he]
  | validate system bindings =>
    refine letsEscape_loaded hpaired (fun e he => ?_) fun source hload => letsEscape_validate hload
    rw [Command.run, he]

/-- A data file that escapes a pair of surrogates, beside a file that is no text. -/
def pairedFiles : FileTree :=
  ⟨[(["a.json"], .regular (Source.asciiBytes
      "\x7b\"name\": \"\\ud83c\\udf33\", \"axiom\": \"A\"\x7d")),
    (["a.lsys"], .regular [0xFF])], [], []⟩

/-- Nothing escapes where the system stands in the data file, and the error of the bytes where it
would have to stand in the other one. -/
theorem runIn_contained_paired :
    (∃ c, Command.ofArguments ["expand", "/a.json"] = .ok c ∧ Source.IsPaired pairedFiles c.path ∧
      (c.runIn pairedFiles).1.ending = .exit 0 ∧ ∀ s, ¬Escapes pairedFiles c s) ∧
    ∃ c, Command.ofArguments ["validate", "/a.lsys"] = .ok c ∧
      Source.IsPaired pairedFiles c.path ∧
      Escapes pairedFiles c (.undecodable (.start 0xFF 0)) := by
  refine ⟨?_, ?_⟩
  · have hread : okAnd (fun cs => okAnd (fun _ => true) (Json.read cs))
        (Source.readChars pairedFiles.read "/a.json") = true := by decide +kernel
    have hpaired : Source.IsPaired pairedFiles "/a.json" := by
      intro cs n _ hcs hunpaired
      rw [hcs, okAnd, hunpaired] at hread
      cases hread
    have hending : ((Command.expand "/a.json" none [] none false).runIn
        pairedFiles).1.ending.isExit 0 = true := by decide +kernel
    rw [Ending.isExit_iff] at hending
    have hcontained := runIn_contained pairedFiles (.expand "/a.json" none [] none false) hpaired
    exact ⟨.expand "/a.json" none [] none false, rfl, hpaired, hending,
      hcontained.2.2 (Or.inl hending)⟩
  · have hpaired : Source.IsPaired pairedFiles "/a.lsys" := fun cs n hpath => by cases hpath
    have hcontained := runIn_contained pairedFiles (.validate "/a.lsys" []) hpaired
    obtain ⟨s, hs, hescapes⟩ := (hcontained.1 (.stray (.undecodable (.start 0xFF 0)))).1 rfl
    obtain rfl := Error.stray.inj hs
    exact ⟨.validate "/a.lsys" [], rfl, hpaired, hescapes⟩

/-- Bytes that are no text raise an error that no command handles. -/
theorem ending_runIn_undecodable :
    ∃ c, Command.ofArguments ["expand", "/a.lsys"] = .ok c ∧
      (c.runIn ⟨[(["a.lsys"], .regular [0xFF])], [], []⟩).1.ending =
        .raised (.stray (.undecodable (.start 0xFF 0))) :=
  ⟨_, rfl, rfl⟩

end GrowthGrammar.CommandLine
