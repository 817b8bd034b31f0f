import GrowthGrammar.Proofs.Entries
import GrowthGrammar.Proofs.Fallible
import GrowthGrammar.Source

/-!
# Global variables from given numbers

Given numbers over an environment give the variables that all of them together give over none
(`overlayGiven_givenOver`), and the same error if one of them is no double.  Given doubles are never
refused (`overlayGiven_givenDoubles`).
-/

namespace GrowthGrammar

open GrowthGrammar.Number

namespace Environment

theorem ext_entries {env env' : Environment} (h : env.entries = env'.entries) : env = env' := by
  obtain ⟨entries, _⟩ := env
  obtain ⟨entries', _⟩ := env'
  obtain rfl : entries = entries' := h
  rfl

theorem entries_overlay (env : Environment) (more : List (String × Float)) :
    (env.overlay more).entries = Entries.putAll more env.entries := by
  induction more generalizing env with
  | nil => rfl
  | cons e r ih => rw [overlay_cons, ih, Entries.putAll_cons, set]

theorem entries_ofList {entries : List (String × Float)} (h : (Entries.names entries).Nodup) :
    (ofList entries).entries = entries := by
  rw [ofList, entries_overlay]
  exact Entries.putAll_nil h

/-! ## Given numbers -/

/-- The entries of given numbers as doubles; zero stands for a number beyond all doubles. -/
def doubles (entries : List (String × Given)) : List (String × Float) :=
  entries.map (Prod.map id fun g => g.toFloat?.getD 0)

theorem names_doubles (entries : List (String × Given)) :
    Entries.names (doubles entries) = Entries.names entries := by
  simp [doubles, Entries.names]

theorem ofGiven_of_all {entries : List (String × Given)} (h : ∀ e ∈ entries, e.2.toFloat?.isSome) :
    ofGiven entries = .ok (ofList (doubles entries)) := by
  unfold ofGiven
  rw [mapM_eq_ok_map (g := Prod.map id fun g => g.toFloat?.getD 0)]
  · rfl
  · intro e he
    obtain ⟨x, hx⟩ := Option.isSome_iff_exists.1 (h e he)
    simp [hx, Prod.map]

theorem exists_error_ofGiven {entries : List (String × Given)} {e : String × Given}
    (he : e ∈ entries) (h : e.2.toFloat? = none) : ∃ f, ofGiven entries = .error f := by
  cases hgiven : ofGiven entries with
  | error f => exact ⟨f, rfl⟩
  | ok env =>
    obtain ⟨more, hmore, -⟩ := bind_eq_ok.1 hgiven
    obtain ⟨x, hx⟩ := exists_ok_of_mapM hmore he
    simp only [h] at hx
    cases hx

end Environment

namespace Source

/-- Doubles as given numbers. -/
def givenDoubles (entries : List (String × Float)) : List (String × Given) :=
  entries.map (Prod.map id .double)

theorem doubles_givenDoubles (entries : List (String × Float)) :
    Environment.doubles (givenDoubles entries) = entries := by
  rw [Environment.doubles, givenDoubles, List.map_map]
  exact List.map_id entries

theorem isSome_of_mem_givenDoubles {entries : List (String × Float)} {e : String × Given}
    (h : e ∈ givenDoubles entries) : e.2.toFloat?.isSome := by
  obtain ⟨d, -, rfl⟩ := List.mem_map.1 h
  rfl

/-- Variables that are given as doubles are never refused. -/
theorem overlayGiven_givenDoubles (entries : List (String × Float)) :
    overlayGiven .empty (givenDoubles entries) = .ok (Environment.ofList entries) := by
  rw [overlayGiven, Environment.ofGiven_of_all fun e he => isSome_of_mem_givenDoubles he,
    doubles_givenDoubles]
  refine congrArg Except.ok (Environment.ext_entries ?_)
  rw [Environment.entries_overlay]
  exact Entries.putAll_nil (Environment.ofList entries).nodup_names

/-- Given numbers over the variables of an environment, as given numbers. -/
def givenOver (env : Environment) (overrides : List (String × Given)) : List (String × Given) :=
  Entries.putAll overrides (givenDoubles env.entries)

theorem names_givenOver (env : Environment) (overrides : List (String × Given)) :
    (Entries.names (givenOver env overrides)).Nodup := by
  refine Entries.nodup_names_putAll ?_ overrides
  have hnames : Entries.names (givenDoubles env.entries) = Entries.names env.entries := by
    simp [givenDoubles, Entries.names]
  rw [hnames]
  exact env.nodup_names

theorem doubles_givenOver (env : Environment) (overrides : List (String × Given)) :
    Environment.doubles (givenOver env overrides) =
      Entries.putAll (Environment.doubles overrides) env.entries := by
  have hentries := doubles_givenDoubles env.entries
  unfold Environment.doubles at hentries ⊢
  rw [givenOver, Entries.map_putAll, hentries]

/-- Variables of different names over an environment may be given together with its own. -/
theorem overlayGiven_givenOver (env : Environment) {overrides : List (String × Given)}
    (h : (Entries.names overrides).Nodup) :
    overlayGiven .empty (givenOver env overrides) = overlayGiven env overrides := by
  by_cases hall : ∀ e ∈ overrides, e.2.toFloat?.isSome
  · have hall' : ∀ e ∈ givenOver env overrides, e.2.toFloat?.isSome := by
      intro e he
      rcases Entries.mem_of_mem_putAll he with he | he
      · exact hall e he
      · exact isSome_of_mem_givenDoubles he
    have hnames : (Entries.names (Environment.doubles overrides)).Nodup :=
      (Environment.names_doubles overrides).symm ▸ h
    have hnames' : (Entries.names (Environment.doubles (givenOver env overrides))).Nodup :=
      (Environment.names_doubles _).symm ▸ names_givenOver env overrides
    rw [overlayGiven, overlayGiven, Environment.ofGiven_of_all hall,
      Environment.ofGiven_of_all hall']
    refine congrArg Except.ok (Environment.ext_entries ?_)
    rw [Environment.entries_overlay, Environment.entries_overlay, Environment.entries_ofList hnames,
      Environment.entries_ofList hnames', doubles_givenOver]
    refine Entries.putAll_nil ?_
    rw [← doubles_givenOver]
    exact hnames'
  · obtain ⟨e, he, hnone⟩ := by simpa only [not_forall] using hall
    have hnone : e.2.toFloat? = none := Option.not_isSome_iff_eq_none.1 hnone
    obtain ⟨f, hf⟩ := Environment.exists_error_ofGiven he hnone
    obtain ⟨f', hf'⟩ := Environment.exists_error_ofGiven
      (Entries.mem_putAll_of_mem h he (givenDoubles env.entries)) hnone
    rw [overlayGiven, overlayGiven, hf, givenOver, hf']

end Source

end GrowthGrammar
