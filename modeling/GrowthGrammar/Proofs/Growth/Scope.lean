import GrowthGrammar.Proofs.Growth.Failure
import GrowthGrammar.Proofs.Growth.Globals

/-!
# Scopes of rules

A rule looks up a name in the parameters that it binds, then in its globals
(`Rule.find?_scope_eq_none_iff`).  Main statement: what a rule lacks is one of the names that it
records and neither a parameter nor a global of its own, so that a system whose rules are closed never
fails for a name that is not defined (`undefined_of_apply`).
-/

namespace GrowthGrammar

variable {env : Environment} {r : Rule} {x : Symbol} {e : Error} {g : Growth} {text n : String}

/-! ## Lookup -/

namespace Environment

theorem find?_eq_none_iff : env.find? n = none ↔ n ∉ Entries.names env.entries := by
  rw [find?, List.lookup_eq_none_iff, Entries.names, List.mem_map]
  simp only [bne_iff_ne, ne_eq, not_exists, not_and]
  exact forall_congr' fun p => imp_congr_right fun _ => not_congr eq_comm

theorem find?_overlay_eq_none_iff {entries : List (String × Float)} :
    (env.overlay entries).find? n = none ↔ n ∉ Entries.names entries ∧ env.find? n = none := by
  induction entries generalizing env with
  | nil => simp [overlay_nil, Entries.names]
  | cons p entries ih =>
    rw [overlay_cons, ih]
    by_cases hname : n = p.1
    · subst hname
      simp [find?_set, Entries.names]
    · simp [find?_set_of_ne env hname, Entries.names, hname]

end Environment

namespace Rule

/-- A rule that is for a symbol has no value for the names that are neither its parameters nor
globals. -/
theorem find?_scope_eq_none_iff (h : r.IsFor x) :
    (r.scope x).find? n = none ↔ n ∉ r.parameters ∧ n ∉ Entries.names r.globals.entries := by
  have hnames : Entries.names (r.parameters.zip x.parameters) = r.parameters := by
    rcases h.2 with hnil | hlength
    · rw [hnil]
      rfl
    · exact List.map_fst_zip hlength.le
  rw [scope, Environment.find?_overlay_eq_none_iff, hnames, Environment.find?_eq_none_iff]

end Rule

/-! ## Names of rules -/

/-- The names that a successor records. -/
def Template.names (t : Template) : List String :=
  t.parameters.flatMap Quantity.names

namespace Rule

/-- The names that a rule records, in its condition and in its successors. -/
def names (r : Rule) : List String :=
  r.condition.elim [] Condition.names ++ r.successors.flatMap Template.names

/-- Every name that a rule records is one of its parameters or of its globals. -/
def IsClosed (r : Rule) : Prop :=
  ∀ n ∈ r.names, n ∈ r.parameters ∨ n ∈ Entries.names r.globals.entries

instance (r : Rule) : Decidable r.IsClosed :=
  inferInstanceAs (Decidable (∀ n ∈ r.names, n ∈ r.parameters ∨ n ∈ Entries.names r.globals.entries))

theorem mem_names_of_condition {c : Condition} (hc : c ∈ r.condition) (hn : n ∈ c.names) :
    n ∈ r.names := by
  rw [names, Option.mem_def.1 hc]
  exact List.mem_append_left _ hn

theorem mem_names_of_successor {t : Template} {q : Quantity} (ht : t ∈ r.successors)
    (hq : q ∈ t.parameters) (hn : n ∈ q.names) : n ∈ r.names :=
  List.mem_append_right _
    (List.mem_flatMap.2 ⟨t, ht, List.mem_flatMap.2 ⟨q, hq, hn⟩⟩)

end Rule

/-! ## Failures -/

/-- The error of a text that holds a name which is not defined. -/
def undefinedName (text n : String) : Error :=
  .expression (.failed text (.undefined n))

namespace Rule

/-- What a rule lacks for a symbol is a name that it records and that is neither a parameter nor a
global. -/
theorem undefined_of_rewrite (h : r.rewrite x = .error (undefinedName text n)) :
    n ∈ r.names ∧ n ∉ r.parameters ∧ n ∉ Entries.names r.globals.entries := by
  obtain ⟨hfor, ⟨c, hc, hfails⟩ | ⟨t, ht, q, hq, hfails⟩⟩ := exists_expression_of_rewrite h
  · obtain ⟨hn, hfind⟩ := Condition.mem_names_of_holds hfails
    exact ⟨mem_names_of_condition hc hn, (find?_scope_eq_none_iff hfor).1 hfind⟩
  · obtain ⟨hn, hfind⟩ := Quantity.mem_names_of_evaluate hfails
    exact ⟨mem_names_of_successor ht hq hn, (find?_scope_eq_none_iff hfor).1 hfind⟩

theorem rewrite_of_apply_error {output : List Symbol} (h : (r.apply x output).2 = .error e) :
    r.rewrite x = .error e := by
  cases hrewrite : r.rewrite x with
  | error e' =>
    obtain ⟨made, hmade⟩ := apply_of_error hrewrite output
    rw [hmade] at h
    rw [Except.error.inj h]
  | ok block =>
    cases block with
    | none =>
      rw [apply_of_none hrewrite] at h
      cases h
    | some block =>
      rw [apply_of_some hrewrite] at h
      cases h

theorem IsClosed.rewrite_ne_undefined (hclosed : r.IsClosed) :
    r.rewrite x ≠ .error (undefinedName text n) := by
  intro h
  obtain ⟨hn, hparameter, hglobal⟩ := undefined_of_rewrite h
  exact (hclosed n hn).elim hparameter hglobal

end Rule

/-- A run of closed rules meets no name that is not defined. -/
theorem Growth.advance_ne_undefined (hclosed : ∀ r ∈ g.rules, r.IsClosed) (count : Int) :
    (g.advance count).2 ≠ some (undefinedName text n) := by
  intro h
  rcases Int.lt_or_le count 0 with hneg | hcount
  · rw [advance, if_pos hneg] at h
    cases h
  · obtain ⟨k, rfl⟩ := Int.eq_ofNat_of_zero_le hcount
    obtain ⟨r, hr, x, hrewrite⟩ := exists_rule_of_advance h
    exact (hclosed r hr).rewrite_ne_undefined hrewrite

/-! ## Main statement -/

/-- If a rule fails for a symbol because a name is not defined, the rule records the name, and it is
neither a parameter nor a global of the rule.  So no system of closed rules ever fails in this way. -/
theorem undefined_of_apply :
    (∀ (r : Rule) (x : Symbol) (output : List Symbol) (text n : String),
        (r.apply x output).2 = .error (undefinedName text n) →
          n ∈ r.names ∧ n ∉ r.parameters ∧ n ∉ Entries.names r.globals.entries) ∧
      ∀ g : Growth, (∀ r ∈ g.rules, r.IsClosed) → ∀ (count : Int) (text n : String),
        (g.advance count).2 ≠ some (undefinedName text n) :=
  ⟨fun _ _ _ _ _ h => Rule.undefined_of_rewrite (Rule.rewrite_of_apply_error h),
    fun _ hclosed count _ _ => Growth.advance_ne_undefined hclosed count⟩

/-- A rule that is closed only under a global variable. -/
def openRule : List Char :=
  "A(x): x > 0 --> A(k)".toList

theorem undefined_of_apply_open :
    (∃ r, Rule.read .empty openRule = .ok r ∧
        (r.apply ⟨"A", [2]⟩ []).2 = .error (undefinedName "k" "k") ∧
        "k" ∈ r.names ∧ "k" ∉ r.parameters ∧ "k" ∉ Entries.names r.globals.entries) ∧
      ∃ r, Rule.read (.ofList [("k", 1)]) openRule = .ok r ∧ r.IsClosed ∧
        ∀ (count : Int) (text n : String),
          (Growth.advance count ⟨[⟨"A", [2]⟩], [r], 0⟩).2 ≠ some (undefinedName text n) := by
  have hopen : okAnd (fun r : Rule =>
      errorAnd (fun e => e == undefinedName "k" "k") (r.apply ⟨"A", [2]⟩ []).2)
      (Rule.read .empty openRule) = true := by
    decide +kernel
  have hclosed : okAnd (fun r => decide r.IsClosed)
      (Rule.read (.ofList [("k", 1)]) openRule) = true := by
    decide +kernel
  obtain ⟨r, hr, hfails⟩ := okAnd_iff.1 hopen
  obtain ⟨e, he, heq⟩ := errorAnd_iff.1 hfails
  rw [beq_iff_eq.1 heq] at he
  obtain ⟨r', hr', hclosed⟩ := okAnd_iff.1 hclosed
  have hclosed : r'.IsClosed := of_decide_eq_true hclosed
  have hrules : ∀ r ∈ (⟨[⟨"A", [2]⟩], [r'], 0⟩ : Growth).rules, r.IsClosed :=
    List.forall_mem_singleton.2 hclosed
  exact ⟨⟨r, hr, he, undefined_of_apply.1 r _ [] _ _ he⟩, r', hr', hclosed,
    undefined_of_apply.2 _ hrules⟩

end GrowthGrammar
