import GrowthGrammar.Proofs.Description.Stray
import GrowthGrammar.Proofs.Expression.Coincidence
import GrowthGrammar.Proofs.Growth.Competition

/-!
# Global variables that make no difference

A rule sees its globals through the names in its condition and in its successors, and not where a
parameter of its own hides one (`Rule.rewrite_withGlobals`).  Main statement: rules that are read
under globals which agree on what their expressions hold and no parameter hides take the same course
(`sameCourse_of_agree`).
-/

namespace GrowthGrammar

open Environment (Agree)

variable {env env' g g' : Environment} {cs : List Char} {r : Rule}

/-! ## Overlaid environments -/

/-- Entries for a name hide what lies below them. -/
theorem Environment.find?_overlay_of_mem {name : String} {entries : List (String × Float)}
    (h : name ∈ Entries.names entries) (env env' : Environment) :
    (env.overlay entries).find? name = (env'.overlay entries).find? name := by
  induction entries generalizing env env' with
  | nil => cases h
  | cons e entries ih =>
    rw [overlay_cons, overlay_cons]
    by_cases hmem : name ∈ Entries.names entries
    · exact ih hmem _ _
    · obtain rfl : name = e.1 := (List.mem_cons.1 h).resolve_right hmem
      rw [find?_overlay_of_not_mem hmem, find?_overlay_of_not_mem hmem, find?_set, find?_set]

/-! ## Rules under other globals -/

/-- The names that a successor holds in its parameters. -/
def Template.identifiers (t : Template) : List String :=
  t.parameters.flatMap fun q => q.expr.identifiers

theorem Template.generate_agree {t : Template} (h : Agree t.identifiers env env') :
    t.generate env = t.generate env' := by
  have hparameters : t.parameters.mapM (fun q => q.evaluate env) =
      t.parameters.mapM fun q => q.evaluate env' :=
    mapM_congr fun q hq => Quantity.evaluate_agree fun n hn =>
      h n (List.mem_flatMap.2 ⟨q, hq, hn⟩)
  rw [generate, generate, hparameters]

namespace Rule

/-- The names that a rule holds in its condition and in its successors. -/
def identifiers (r : Rule) : List String :=
  (r.condition.elim [] fun c => c.expr.identifiers) ++ r.successors.flatMap Template.identifiers

/-- The rule with other globals. -/
def withGlobals (g : Environment) (r : Rule) : Rule :=
  { r with globals := g }

theorem allows_agree (h : Agree r.identifiers env env') : r.allows env = r.allows env' := by
  rw [identifiers, Environment.agree_append] at h
  unfold allows
  cases hc : r.condition with
  | none => rfl
  | some c =>
    rw [hc] at h
    exact Condition.holds_agree h.1

theorem generate_agree_of_mem (h : Agree r.identifiers env env') {t : Template}
    (ht : t ∈ r.successors) : t.generate env = t.generate env' := by
  rw [identifiers, Environment.agree_append] at h
  exact Template.generate_agree fun n hn => h.2 n (List.mem_flatMap.2 ⟨t, ht, hn⟩)

/-- Where a rule fits a symbol, its globals matter to no name that is one of its parameters. -/
theorem agree_overlay {x : Symbol} (hfits : r.fits x.name x.parameters.length = true)
    (h : ∀ n ∈ r.identifiers, n ∉ r.parameters → g.find? n = g'.find? n) :
    Agree r.identifiers (g.overlay (r.parameters.zip x.parameters))
      (g'.overlay (r.parameters.zip x.parameters)) := by
  intro n hn
  by_cases hmem : n ∈ Entries.names (r.parameters.zip x.parameters)
  · exact Environment.find?_overlay_of_mem hmem g g'
  · rw [Environment.find?_overlay_of_not_mem hmem, Environment.find?_overlay_of_not_mem hmem]
    refine h n hn fun hparameter => hmem ?_
    have hlength : r.parameters.length = x.parameters.length :=
      (fits_iff.1 hfits).2.resolve_left (List.ne_nil_of_mem hparameter)
    rwa [Entries.names, List.map_fst_zip hlength.le]

/-- Globals of names that a rule does not hold, or that its parameters hide, make no difference. -/
theorem rewrite_withGlobals
    (h : ∀ n ∈ r.identifiers, n ∉ r.parameters → r.globals.find? n = g.find? n) (x : Symbol) :
    (r.withGlobals g).rewrite x = r.rewrite x := by
  by_cases hfits : r.fits x.name x.parameters.length = true
  · set env := r.globals.overlay (r.parameters.zip x.parameters)
    set env' := g.overlay (r.parameters.zip x.parameters)
    have hagree : Agree r.identifiers env env' := agree_overlay hfits h
    have hbind : r.bind x = some env := if_pos hfits
    have hbind' : (r.withGlobals g).bind x = some env' := if_pos hfits
    have hallows : (r.withGlobals g).allows env' = r.allows env := (allows_agree hagree).symm
    have hsuccessors : (r.withGlobals g).successors.mapM (Template.generate env') =
        r.successors.mapM (Template.generate env) :=
      mapM_congr fun t ht => (generate_agree_of_mem hagree ht).symm
    simp only [rewrite, hbind, hbind', hallows, hsuccessors]
  · rw [rewrite_of_not_fits hfits, rewrite_of_not_fits (r := r.withGlobals g) hfits]

/-! ## Reading -/

/-- The text of a rule is read alike under all globals. -/
theorem read_withGlobals (g g' : Environment) (cs : List Char) :
    read g' cs = withGlobals g' <$> read g cs := by
  simp only [read_eq_readFrame, map_bind]
  rfl

theorem globals_of_read (h : read g cs = .ok r) : r.globals = g := by
  rw [read_withGlobals g g, map_eq_ok] at h
  obtain ⟨s, -, rfl⟩ := h
  rfl

theorem mapM_read_withGlobals {texts : List (List Char)} {R : List Rule}
    (h : texts.mapM (read g) = .ok R) (g' : Environment) :
    texts.mapM (read g') = .ok (R.map (withGlobals g')) := by
  rw [mapM_eq_ok_iff] at h ⊢
  rw [List.forall₂_map_right_iff]
  refine h.imp fun cs r hr => ?_
  rw [read_withGlobals g g', hr]
  rfl

end Rule

theorem blockOf_withGlobals {R : List Rule}
    (h : ∀ r ∈ R, ∀ n ∈ r.identifiers, n ∉ r.parameters → r.globals.find? n = g.find? n)
    (x : Symbol) : blockOf x (R.map (Rule.withGlobals g)) = blockOf x R := by
  induction R with
  | nil => rfl
  | cons r R ih =>
    obtain ⟨hr, hR⟩ := List.forall_mem_cons.1 h
    rw [List.map_cons, blockOf, blockOf, Rule.rewrite_withGlobals hr, ih hR]

/-! ## Main statement -/

namespace Growth

/-- Rules that are read under some globals are read under all others.  They take the same course
from every word, if both globals agree on the names that each rule holds and that are no parameters
of its own. -/
theorem sameCourse_of_agree {texts : List (List Char)} {R : List Rule}
    (hread : texts.mapM (Rule.read g) = .ok R)
    (hagree : ∀ r ∈ R, ∀ n ∈ r.identifiers, n ∉ r.parameters → g.find? n = g'.find? n) :
    ∃ R', texts.mapM (Rule.read g') = .ok R' ∧
      ∀ (X : List Symbol) (k n : ℕ),
        (trace n ⟨X, R, k⟩).SameCourse (trace n ⟨X, R', k⟩) ∧
          advance n ⟨X, R', k⟩ =
            ((advance n ⟨X, R, k⟩).1.withRules R', (advance n ⟨X, R, k⟩).2) := by
  refine ⟨_, Rule.mapM_read_withGlobals hread g', fun X k n => ?_⟩
  have hblock (x : Symbol) : blockOf x R = blockOf x (R.map (Rule.withGlobals g')) := by
    refine (blockOf_withGlobals (fun r hr n hn hparameter => ?_) x).symm
    obtain ⟨cs, -, hcs⟩ := exists_mem_of_mapM hread hr
    rw [Rule.globals_of_read hcs]
    exact hagree r hr n hn hparameter
  exact ⟨sameCourse_withRules (s := ⟨X, R, k⟩) hblock n, advance_withRules (s := ⟨X, R, k⟩) hblock n⟩

/-- A rule whose parameter hides a global variable. -/
def hidingRule : List Char :=
  "A(k): k > 0 --> A(k-c); B(pi)".toList

theorem sameCourse_of_agree_hidden :
    ∃ R R', [hidingRule].mapM (Rule.read (.ofList [("k", 1), ("c", 1), ("d", 5)])) = .ok R ∧
      [hidingRule].mapM (Rule.read (.ofList [("c", 1), ("k", 7)])) = .ok R' ∧
      (trace 4 ⟨[⟨"A", [2]⟩], R, 0⟩).SameCourse (trace 4 ⟨[⟨"A", [2]⟩], R', 0⟩) ∧
      (trace 4 ⟨[⟨"A", [2]⟩], R, 0⟩).final.symbols.length = 3 := by
  have hread : okAnd (fun R => R.all (fun r => r.parameters == ["k"] &&
        r.identifiers.all (["k", "c", "pi"].contains ·)) &&
          (trace 4 ⟨[⟨"A", [2]⟩], R, 0⟩).final.symbols.length == 3)
      ([hidingRule].mapM (Rule.read (.ofList [("k", 1), ("c", 1), ("d", 5)]))) = true := by
    decide +kernel
  obtain ⟨R, hR, htest⟩ := okAnd_iff.1 hread
  obtain ⟨hnames, hlength⟩ := Bool.and_eq_true_iff.1 htest
  have hagree : ∀ r ∈ R, ∀ n ∈ r.identifiers, n ∉ r.parameters →
      (Environment.ofList [("k", 1), ("c", 1), ("d", 5)]).find? n =
        (Environment.ofList [("c", 1), ("k", 7)]).find? n := by
    intro r hr n hn hparameter
    obtain ⟨hparameters, hidentifiers⟩ := Bool.and_eq_true_iff.1 (List.all_eq_true.1 hnames r hr)
    have hmem : n ∈ ["k", "c", "pi"] :=
      List.contains_iff_mem.1 (List.all_eq_true.1 hidentifiers n hn)
    rw [beq_iff_eq.1 hparameters] at hparameter
    simp only [List.mem_cons, List.not_mem_nil, or_false] at hmem hparameter
    rcases hmem with rfl | rfl | rfl
    · exact absurd rfl hparameter
    · rfl
    · rfl
  obtain ⟨R', hR', hcourse⟩ := sameCourse_of_agree hR hagree
  exact ⟨R, R', hR, hR', (hcourse _ 0 4).1, beq_iff_eq.1 hlength⟩

end Growth

end GrowthGrammar
