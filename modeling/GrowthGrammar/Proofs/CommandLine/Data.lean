import GrowthGrammar.Proofs.CommandLine.Effects
import GrowthGrammar.Proofs.Source.Data

/-!
# The data that `expand` writes

Main statement: if `expand` succeeds and is given a path for its result that leads to no device, the
data that are loaded from this path name the system and hold the number of generations that were run
and the word that they lead to (`loadData_of_expand`).  An empty path, and `--` behind `=`, are no
path for a result: the word is printed, and no data can be loaded from there.  Nor can they be loaded
from a device, which keeps nothing (`loadData_noPath`).
-/

namespace GrowthGrammar

open GrowthGrammar.Number

/-! ## Results as data -/

theorem isReadable_symbolJson (s : Symbol) : (symbolJson s).IsReadable := by
  refine .object (by simp [Entries.names]) fun f hf => ?_
  simp only [List.mem_cons, List.not_mem_nil, or_false] at hf
  rcases hf with rfl | rfl
  · exact .string s.name
  · refine .array fun v hv => ?_
    obtain ⟨x, -, rfl⟩ := List.mem_map.1 hv
    exact .double x

theorem isReadable_wordJson (symbols : List Symbol) : (wordJson symbols).IsReadable := by
  refine .array fun v hv => ?_
  obtain ⟨s, -, rfl⟩ := List.mem_map.1 hv
  exact isReadable_symbolJson s

theorem isReadable_resultJson {g : Growth} (h : digitCount g.generation ≤ digitLimit)
    (name : String) : (resultJson name g).IsReadable := by
  refine .object (by simp [Entries.names]) fun f hf => ?_
  simp only [List.mem_cons, List.not_mem_nil, or_false] at hf
  rcases hf with rfl | rfl | rfl
  · exact .string name
  · exact .integer h
  · exact isReadable_wordJson g.symbols

/-- The data hold the name and the parameters of a symbol. -/
structure HoldsSymbol (v : Json) (s : Symbol) : Prop where
  name : v.field? "name" = some (.string s.name)
  parameters : v.field? "parameters" = some (.array (s.parameters.map .double))

/-- The data hold the name of a system, a number of generations and a word, symbol by symbol. -/
structure HoldsResult (v : Json) (name : String) (n : ℕ) (symbols : List Symbol) : Prop where
  name : v.field? "name" = some (.string name)
  generation : v.field? "generation" = some (.integer n)
  symbols : ∃ items, v.field? "symbols" = some (.array items) ∧
    List.Forall₂ HoldsSymbol items symbols

theorem holdsResult_resultJson (name : String) (g : Growth) :
    HoldsResult (resultJson name g) name g.generation g.symbols where
  name := rfl
  generation := rfl
  symbols := by
    refine ⟨g.symbols.map symbolJson, rfl, ?_⟩
    rw [List.forall₂_map_left_iff, List.forall₂_same]
    exact fun s _ => ⟨rfl, rfl⟩

namespace CommandLine

open GrowthGrammar.Text

variable {t u : FileTree} {system : String} {count : Option (Option ℤ)}
  {bindings : List (Option (String × Float))} {output : Option String} {verbose : Bool}
  {arguments : List String} {o : Outcome}

/-! ## Counts that are given -/

/-- The count that is given has no more digits than are read. -/
def Settings.HasShortCount (s : Settings) : Prop :=
  ∀ n, s.count = some (some n) → digitCount n.natAbs ≤ digitLimit

theorem Settings.HasShortCount.of_count_eq {s s' : Settings} (hs : s.HasShortCount)
    (h : s'.count = s.count) : s'.HasShortCount :=
  fun n hn => hs n (h ▸ hn)

theorem Settings.HasShortCount.setValue {s s' : Settings} (hs : s.HasShortCount) {f : Flag}
    {value : String} (h : s.setValue f value = .ok s') : s'.HasShortCount := by
  cases f with
  | count =>
    rw [Settings.setValue] at h
    cases hvalue : readInteger value.toList with
    | none =>
      rw [hvalue] at h
      cases h
    | some k =>
      rw [hvalue] at h
      obtain rfl := Except.ok.inj h
      rintro n ⟨⟩
      exact digitCount_of_readInteger hvalue
  | var =>
    obtain ⟨v, -, h⟩ := bind_eq_ok.1 h
    obtain rfl := Except.ok.inj h
    exact hs.of_count_eq rfl
  | json =>
    obtain rfl := Except.ok.inj h
    exact hs.of_count_eq rfl
  | help | verbose =>
    obtain rfl := Except.ok.inj h
    exact hs

theorem Settings.HasShortCount.setAttached {s s' : Settings} (hs : s.HasShortCount) {f : Flag}
    {value : List Char} (h : s.setAttached f value = .ok s') : s'.HasShortCount := by
  unfold Settings.setAttached at h
  split_ifs at h
  · obtain rfl := Except.ok.inj h
    cases f with
    | count => rintro n ⟨⟩
    | json | var | help | verbose => exact hs.of_count_eq rfl
  · exact hs.setValue h

theorem Settings.HasShortCount.setFlag {s s' : Settings} (hs : s.HasShortCount) {f : Flag}
    (h : s.setFlag f = .ok s') : s'.HasShortCount := by
  cases f with
  | help => cases h
  | verbose | count | json | var =>
    obtain rfl := Except.ok.inj h
    exact hs.of_count_eq rfl

/-- No argument gives a count with more digits than are read. -/
theorem hasShortCount_of_settle {table : FlagTable} {s s' : Settings} (hs : s.HasShortCount)
    {ks : List (String × Reading)} (h : settle table s ks = .ok s') : s'.HasShortCount := by
  induction s, ks using settle.induct with
  | case1 s =>
    obtain rfl := Except.ok.inj h
    exact hs
  | case2 s a r ih => exact ih (hs.of_count_eq rfl) h
  | case3 s a r hsystem ih =>
    rw [settle.eq_def] at h
    simp only [hsystem, if_true] at h
    exact ih (hs.of_count_eq rfl) h
  | case4 s a hsystem b t ih =>
    rw [settle.eq_def] at h
    simp only [hsystem] at h
    exact ih (hs.of_count_eq rfl) h
  | case5 s a hsystem r hr ih =>
    rw [settle, if_neg hsystem] at h
    · exact ih (hs.of_count_eq rfl) h
    · exact hr
  | case6 s a b t hsystem ih =>
    rw [settle, if_pos hsystem] at h
    exact ih (hs.of_count_eq rfl) h
  | case7 s a b t hsystem ih =>
    rw [settle, if_neg hsystem] at h
    exact ih (hs.of_count_eq rfl) h
  | case8 s a r hr ih =>
    rw [settle] at h
    · exact ih (hs.of_count_eq rfl) h
    · exact hr
  | case9 s a f name r v hf ih =>
    simp only [settle, if_pos hf] at h
    obtain ⟨s'', hset, h⟩ := bind_eq_ok.1 h
    exact ih s'' (hs.setAttached hset) h
  | case10 s a f name r v hf ih =>
    simp only [settle, if_neg hf] at h
    obtain ⟨fs, -, h⟩ := bind_eq_ok.1 h
    obtain ⟨s'', hset, h⟩ := bind_eq_ok.1 h
    have hkeeps : s''.HasShortCount := foldlM_keeps
      (fun s f s' (hs : s.HasShortCount) (h : s.setFlag f = .ok s') => hs.setFlag h) hs hset
    exact ih s'' hkeeps h
  | case11 s a f name hf b t ih =>
    simp only [settle, if_pos hf] at h
    obtain ⟨s'', hset, h⟩ := bind_eq_ok.1 h
    exact ih s'' (hs.setValue hset) h
  | case12 s a f name hf r hr =>
    rw [settle] at h
    · simp only [if_pos hf] at h
      cases h
    · exact hr
  | case13 s a f name r hf ih =>
    rw [settle.eq_def] at h
    simp only [if_neg hf] at h
    obtain ⟨s'', hset, h⟩ := bind_eq_ok.1 h
    exact ih s'' (hs.setFlag hset) h

theorem digitCount_of_ofArguments {n : ℤ}
    (h : Command.ofArguments arguments =
      .ok (.expand system (some (some n)) bindings output verbose)) :
    digitCount n.natAbs ≤ digitLimit := by
  obtain ⟨rest, rfl⟩ := exists_of_ofArguments_expand h
  rw [ofArguments_expand] at h
  obtain ⟨s, hsettings, h⟩ := bind_eq_ok.1 h
  obtain ⟨ks, -, hsettings⟩ := bind_eq_ok.1 (mapError_eq_ok.1 hsettings)
  obtain ⟨s', hsettle, hsystem⟩ := bind_eq_ok.1 hsettings
  split_ifs at h hsystem
  obtain rfl := Except.ok.inj hsystem
  · have hstart : Settings.start.HasShortCount := by rintro k ⟨⟩
    obtain ⟨-, hcount, -⟩ := Command.expand.inj (Except.ok.inj h)
    exact hasShortCount_of_settle hstart hsettle n hcount
  · cases h

/-! ## Main statement -/

theorem allOrNothing_runIn
    (hrun : (Command.expand system count bindings output verbose).runIn t = (o, u)) :
    AllOrNothing t system count bindings output o u := by
  rcases hquiet : (Command.expand system count bindings output false).runIn t with ⟨quiet, u'⟩
  cases verbose with
  | false => exact allOrNothing_quiet hrun
  | true =>
    obtain ⟨rfl, rfl⟩ :=
      Prod.mk.inj ((runIn_behind (run_expand_verbose t.read) hquiet).symm.trans hrun)
    exact (allOrNothing_quiet hquiet).behind _

/-- Whatever arguments ask for `expand` and give a path for its result that leads to no device, if it
succeeds then the data loaded from that path are those of the result: the name of the system that was
loaded, the number of generations that were run, and the symbols to which they lead, with their
parameters. -/
theorem loadData_of_expand {path : String}
    (hc : Command.ofArguments arguments = .ok (.expand system count bindings (some path) verbose))
    (hpath : path ≠ "") (hdevice : t.deviceAt path = none)
    (hrun : (Command.expand system count bindings (some path) verbose).runIn t = (o, u))
    (hexit : o.ending = .exit 0) :
    ∃ source g, ∃ n : ℕ, loadGiven t.read system bindings = .ok source ∧
      count.getD (some source.count) = some (n : ℤ) ∧ source.growth.advanceBy n = (g, none) ∧
      Source.loadData u.read path = .ok (resultJson source.name g) ∧
      HoldsResult (resultJson source.name g) source.name n g.symbols := by
  obtain ⟨-, source, g, ⟨hloaded, k, hcount, hgrown⟩, -, hread, -⟩ :=
    (allOrNothing_runIn hrun).written hexit path rfl hpath hdevice
  obtain ⟨n, rfl, hrun⟩ : ∃ n : ℕ, k = n ∧ source.growth.advanceBy n = (g, none) := by
    unfold Growth.advance at hgrown
    split_ifs at hgrown with hk
    · cases hgrown
    · exact ⟨k.toNat, by omega, hgrown⟩
  have hgeneration : g.generation = n := by
    rw [Growth.generation_advanceBy hrun, generation_of_loadGiven hloaded, zero_add]
  have hshort : digitCount n ≤ digitLimit := by
    cases count with
    | none =>
      obtain ⟨given, -, hload⟩ := bind_eq_ok.1 hloaded
      obtain rfl : source.count = n := by simpa using hcount
      exact Source.digitCount_of_load hload
    | some m =>
      obtain rfl : m = some (n : ℤ) := hcount
      exact digitCount_of_ofArguments hc
  refine ⟨source, g, n, hloaded, hcount, hrun, ?_, hgeneration ▸ holdsResult_resultJson _ g⟩
  exact Source.loadData_indented (isReadable_resultJson (hgeneration ▸ hshort) source.name) hread

/-- A system under a name that has to be escaped; its parameters are no number and a zero with a
sign. -/
def quotedFiles : FileTree :=
  ⟨[(["home", "\"α\\.lsys"],
    .regular (Source.asciiBytes "Axiom: A(-0.0)\nCount: 1\nRules:\nA(y) --> A(x,y)\n"))], [],
    ["home"]⟩

/-- The name and the parameters are loaded as they were. -/
theorem loadData_of_expand_quoted :
    ∃ o u v, Command.ofArguments
        ["expand", "\"α\\.lsys", "--var", "x=nan", "-v", "--json", "out/b.json"] =
        .ok (.expand "\"α\\.lsys" none [some ("x", notANumber)] (some "out/b.json") true) ∧
      (Command.expand "\"α\\.lsys" none [some ("x", notANumber)] (some "out/b.json") true).runIn
        quotedFiles = (o, u) ∧
      o.ending = .exit 0 ∧ Source.loadData u.read "out/b.json" = .ok v ∧
      HoldsResult v "\"α\\" 1 [⟨"A", [notANumber, -0.0]⟩] := by
  have hc : Command.ofArguments
      ["expand", "\"α\\.lsys", "--var", "x=nan", "-v", "--json", "out/b.json"] =
      .ok (.expand "\"α\\.lsys" none [some ("x", notANumber)] (some "out/b.json") true) := rfl
  have hexit : ((Command.expand "\"α\\.lsys" none [some ("x", notANumber)] (some "out/b.json")
      true).runIn quotedFiles).1.ending.isExit 0 = true := by decide +kernel
  have hsource : (loadGiven quotedFiles.read "\"α\\.lsys" [some ("x", notANumber)]).toOption.map
      (fun s => (s.name, s.count, (s.growth.advanceBy 1).1.symbols.map fun s =>
        (s.name, s.parameters))) = some ("\"α\\", 1, [("A", [notANumber, -0.0])]) := by
    decide +kernel
  rcases hrun : (Command.expand "\"α\\.lsys" none [some ("x", notANumber)] (some "out/b.json")
    true).runIn quotedFiles with ⟨o, u⟩
  rw [hrun] at hexit
  obtain ⟨source, g, n, hload, hcount, hgrown, hdata, hholds⟩ :=
    loadData_of_expand hc (by decide) (by decide +kernel) hrun (Ending.isExit_iff.1 hexit)
  rw [hload] at hsource
  simp only [toOption_ok, Option.map_some, Option.some.injEq, Prod.mk.injEq] at hsource
  obtain ⟨hname, hone, hsymbols⟩ := hsource
  obtain rfl : n = 1 := by simpa [hone] using hcount.symm
  have hword : g.symbols = [⟨"A", [notANumber, -0.0]⟩] := by
    rw [hgrown] at hsymbols
    obtain ⟨⟨name, parameters⟩, hg, heq⟩ := List.map_eq_singleton_iff.1 hsymbols
    obtain ⟨rfl, rfl⟩ := Prod.mk.inj heq
    exact hg
  rw [hname, hword] at hholds
  exact ⟨o, u, _, hc, rfl, Ending.isExit_iff.1 hexit, hdata, hname ▸ hholds⟩

/-- With an empty path, and with `--` behind `=`, the command succeeds and leaves the files as they
were, so that no data are loaded from there.  With the path of a device it succeeds too, and the
device is as empty as before. -/
theorem loadData_noPath :
    (∃ o, Command.ofArguments ["expand", "a.lsys", "--json", ""] =
        .ok (.expand "a.lsys" none [] (some "") false) ∧
      (Command.expand "a.lsys" none [] (some "") false).runIn doublingFiles = (o, doublingFiles) ∧
      o.ending = .exit 0 ∧ ∀ v, Source.loadData doublingFiles.read "" ≠ .ok v) ∧
    (∃ o, Command.ofArguments ["expand", "a.lsys", "--json=--"] =
        .ok (.expand "a.lsys" none [] none false) ∧
      (Command.expand "a.lsys" none [] none false).runIn doublingFiles = (o, doublingFiles) ∧
      o.ending = .exit 0 ∧ ∀ v, Source.loadData doublingFiles.read "--" ≠ .ok v) ∧
    ∃ o u, Command.ofArguments ["expand", "a.lsys", "--json", "/dev/null"] =
        .ok (.expand "a.lsys" none [] (some "/dev/null") false) ∧
      (Command.expand "a.lsys" none [] (some "/dev/null") false).runIn doublingFiles = (o, u) ∧
      o.ending = .exit 0 ∧ ∀ v, Source.loadData u.read "/dev/null" ≠ .ok v := by
  have hunloaded {t : FileTree} {path : String}
      (h : (Source.loadData t.read path).toOption.isNone = true) (v : Json) :
      Source.loadData t.read path ≠ .ok v := by
    intro hload
    rw [hload] at h
    cases h
  have hprinted (output : Option String) (hpath : ∀ path, output = some path → path = "")
      (hexit : ((Command.expand "a.lsys" none [] output false).runIn
        doublingFiles).1.ending.isExit 0 = true) :
      ∃ o, (Command.expand "a.lsys" none [] output false).runIn doublingFiles =
        (o, doublingFiles) ∧ o.ending = .exit 0 := by
    rcases hrun : (Command.expand "a.lsys" none [] output false).runIn doublingFiles with ⟨o, u⟩
    rw [hrun] at hexit
    have hending := Ending.isExit_iff.1 hexit
    obtain ⟨rfl, -⟩ := (allOrNothing_runIn hrun).printed hending hpath
    exact ⟨o, rfl, hending⟩
  refine ⟨?_, ?_, ?_⟩
  · obtain ⟨o, hrun, hending⟩ := hprinted (some "")
      (fun path h => (Option.some.inj h).symm) (by decide +kernel)
    exact ⟨o, rfl, hrun, hending, hunloaded (by decide +kernel)⟩
  · obtain ⟨o, hrun, hending⟩ := hprinted none (fun path h => by cases h)
      (by decide +kernel)
    exact ⟨o, ofArguments_blankOutput, hrun, hending, hunloaded (by decide +kernel)⟩
  · have hexit : ((Command.expand "a.lsys" none [] (some "/dev/null") false).runIn
        doublingFiles).1.ending.isExit 0 = true := by decide +kernel
    have hempty : (Source.loadData ((Command.expand "a.lsys" none [] (some "/dev/null")
        false).runIn doublingFiles).2.read "/dev/null").toOption.isNone = true := by decide +kernel
    rcases hrun : (Command.expand "a.lsys" none [] (some "/dev/null") false).runIn
      doublingFiles with ⟨o, u⟩
    rw [hrun] at hexit hempty
    exact ⟨o, u, rfl, rfl, Ending.isExit_iff.1 hexit, hunloaded hempty⟩

end CommandLine

end GrowthGrammar
