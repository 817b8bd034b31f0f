import GrowthGrammar.Proofs.Description.Stray
import GrowthGrammar.Proofs.Environment
import GrowthGrammar.Proofs.FileTree
import GrowthGrammar.Source

/-!
# Stray errors of sources

A data file adds to the stray errors of an axiom and of rules integers that are too long to be read
or beyond all doubles (`Configuration.read_eq_stray_iff`), and every file a null character in its
path and bytes that are no text (`Source.load_eq_stray_iff`).  A data file with a surrogate that is
escaped without its pair is left out (`Source.IsPaired`).
-/

namespace GrowthGrammar

open Number Text

variable {cs : List Char} {s : Stray}

/-! ## Configurations -/

namespace Configuration

/-- A configuration apart from its variables, and the fields that these are. -/
def readFixed (v : Json) : Except Error (Configuration × List (String × Json)) := do
  let fields ← asObject "root" v
  let field (name : String) (default : Json) := (fields.lookup name).getD default
  let name ← asString "name" (field "name" (.string "L-System"))
  let axiomText ← asString "axiom" (field "axiom" (.string ""))
  if isBlankText axiomText.toList then .error (.configuration .emptyAxiom)
  else
    let count ← asInteger "count" (field "count" (.integer 0))
    if count < 0 then .error (.configuration .negativeCount)
    else
      let rules ← readRules 0 (← asArray "rules" (field "rules" (.array [])))
      let entries ← asObject "variables" (field "variables" (.object []))
      return (⟨name, axiomText, count.toNat, rules, .empty⟩, entries)

theorem ofJson_eq_readFixed (v : Json) :
    ofJson v = readFixed v >>= fun (c, entries) =>
      entries.mapM readVariable >>= fun vs => .ok { c with globals := Environment.ofList vs } := by
  unfold ofJson readFixed
  rw [bind_assoc]
  refine bind_congr fun fields => ?_
  rw [bind_assoc]
  refine bind_congr fun name => ?_
  rw [bind_assoc]
  refine bind_congr fun axiomText => ?_
  split_ifs
  · rfl
  · rw [bind_assoc]
    refine bind_congr fun count => ?_
    split_ifs
    · rfl
    · simp only [bind_assoc]
      rfl

section Kinds

variable {path : String} {v : Json}

theorem asString_ne_stray : asString path v ≠ .error (.stray s) := by
  unfold asString
  split <;> exact fun h => by cases h

theorem asInteger_ne_stray : asInteger path v ≠ .error (.stray s) := by
  unfold asInteger
  split <;> exact fun h => by cases h

theorem asArray_ne_stray : asArray path v ≠ .error (.stray s) := by
  unfold asArray
  split <;> exact fun h => by cases h

theorem asObject_ne_stray : asObject path v ≠ .error (.stray s) := by
  unfold asObject
  split <;> exact fun h => by cases h

theorem readRules_ne_stray {i : ℕ} {items : List Json} : readRules i items ≠ .error (.stray s) := by
  induction items generalizing i with
  | nil => exact fun h => by cases h
  | cons v items ih =>
    rw [readRules, ne_eq, bind_eq_error, not_or]
    refine ⟨asString_ne_stray, fun ⟨t, _, h⟩ => ?_⟩
    rcases bind_eq_error.1 h with h | ⟨ts, -, h⟩
    · exact ih h
    · cases h

theorem readFixed_ne_stray : readFixed v ≠ .error (.stray s) := by
  intro h
  rcases bind_eq_error.1 h with h | ⟨fields, -, h⟩
  · exact asObject_ne_stray h
  rcases bind_eq_error.1 h with h | ⟨name, -, h⟩
  · exact asString_ne_stray h
  rcases bind_eq_error.1 h with h | ⟨axiomText, -, h⟩
  · exact asString_ne_stray h
  split_ifs at h
  · cases h
  rcases bind_eq_error.1 h with h | ⟨count, -, h⟩
  · exact asInteger_ne_stray h
  split_ifs at h
  · cases h
  rcases bind_eq_error.1 h with h | ⟨items, -, h⟩
  · exact asArray_ne_stray h
  rcases bind_eq_error.1 h with h | ⟨rules, -, h⟩
  · exact readRules_ne_stray h
  rcases bind_eq_error.1 h with h | ⟨entries, -, h⟩
  · exact asObject_ne_stray h
  · cases h

end Kinds

/-- The stray error of a variable: its name is one, and its value is an integer beyond all
doubles. -/
inductive VariableStrays : String × Json → Stray → Prop
  | integerTooLarge {n : String} {k : Int} (hn : isVariableName n.toList = true)
      (hk : ofInt? k = none) : VariableStrays (n, .integer k) .integerTooLarge

theorem asDouble_eq_stray_iff {path : String} {v : Json} :
    asDouble path v = .error (.stray s) ↔
      s = .integerTooLarge ∧ ∃ k, v = .integer k ∧ ofInt? k = none := by
  cases v with
  | integer n =>
    rw [asDouble]
    cases hn : ofInt? n <;> simp [hn, eq_comm]
  | _ => simp [asDouble, wrongKind]

theorem readVariable_eq_stray_iff {e : String × Json} :
    readVariable e = .error (.stray s) ↔ VariableStrays e s := by
  obtain ⟨n, v⟩ := e
  rw [readVariable]
  split_ifs with hn
  · rw [bind_eq_error_left (fun _ h => by cases h), asDouble_eq_stray_iff]
    constructor
    · rintro ⟨rfl, k, rfl, hk⟩
      exact .integerTooLarge hn hk
    · rintro @⟨_, k, -, hk⟩
      exact ⟨rfl, k, rfl, hk⟩
  · refine ⟨fun h => (by cases h), ?_⟩
    rintro @⟨_, k, hn', -⟩
    exact absurd hn' hn

end Configuration

/-- The stray error of a data file: an integer of too many digits, or the first variable that fails
of what is a configuration apart from its variables. -/
inductive ConfigurationStrays (cs : List Char) : Stray → Prop
  | unreadInteger {n : Nat} (h : Json.read cs = .error (.tooManyDigits n)) :
      ConfigurationStrays cs (.unreadInteger n)
  | value {v : Json} {c : Configuration} {entries : List (String × Json)} {s : Stray}
      (hv : Json.read cs = .ok v) (hc : Configuration.readFixed v = .ok (c, entries))
      (h : FailsFirst Configuration.readVariable (Configuration.VariableStrays · s) entries) :
      ConfigurationStrays cs s

theorem Configuration.ofJson_eq_stray_iff {v : Json} :
    ofJson v = .error (.stray s) ↔
      ∃ c entries, readFixed v = .ok (c, entries) ∧
        FailsFirst readVariable (VariableStrays · s) entries := by
  rw [ofJson_eq_readFixed, bind_eq_error]
  constructor
  · rintro (h | ⟨⟨c, entries⟩, hc, h⟩)
    · exact absurd h readFixed_ne_stray
    · rw [bind_eq_error_left (fun _ h => by cases h),
        mapM_eq_error_iff fun e _ => readVariable_eq_stray_iff] at h
      exact ⟨c, entries, hc, h⟩
  · rintro ⟨c, entries, hc, h⟩
    refine Or.inr ⟨(c, entries), hc, ?_⟩
    rw [bind_eq_error_left (fun _ h => by cases h),
      mapM_eq_error_iff fun e _ => readVariable_eq_stray_iff]
    exact h

theorem Configuration.read_eq_stray_iff {path : String}
    (hpaired : ∀ n, Json.read cs ≠ .error (.unpaired n)) :
    Configuration.read path cs = .error (.stray s) ↔ ConfigurationStrays cs s := by
  unfold Configuration.read
  constructor
  · intro h
    split at h
    · rename_i v hv
      obtain ⟨c, entries, hc, h⟩ := ofJson_eq_stray_iff.1 h
      exact .value hv hc h
    · cases h
    · rename_i n hn
      obtain rfl := Error.stray.inj (Except.error.inj h)
      exact .unreadInteger hn
    · rename_i n hn
      exact absurd hn (hpaired n)
  · intro h
    cases h with
    | unreadInteger h => rw [h]
    | value hv hc h =>
      rw [hv]
      exact ofJson_eq_stray_iff.2 ⟨_, _, hc, h⟩

/-! ## Files -/

namespace Source

variable {t : FileTree} {path : String} {v : List (String × Float)}

/-- The stray error of a file of text: a null character in its path, or bytes that are no text. -/
inductive FileStrays (t : FileTree) (path : String) : Stray → Prop
  | nullInPath (h : holdsNull path = true) : FileStrays t path .nullInPath
  | undecodable {bytes : Bytes} {e : Utf8Error} (hbytes : t.read path = .ok bytes)
      (h : decode bytes = .error e) : FileStrays t path (.undecodable e)

theorem readChars_eq_stray_iff :
    readChars t.read path = .error (.stray s) ↔ FileStrays t path s := by
  rw [readChars, bind_eq_error, FileTree.read_eq_stray_iff]
  constructor
  · rintro (⟨rfl, h⟩ | ⟨bytes, hbytes, h⟩)
    · exact .nullInPath h
    · split at h
      · cases h
      · rename_i e he
        obtain rfl := Error.stray.inj (Except.error.inj h)
        exact .undecodable hbytes he
  · intro h
    cases h with
    | nullInPath h => exact Or.inl ⟨rfl, h⟩
    | undecodable hbytes h =>
      refine Or.inr ⟨_, hbytes, ?_⟩
      simp only [h]

/-- The variables of an environment under others, which are given as doubles. -/
def overlaid (env : Environment) (v : List (String × Float)) : Environment :=
  env.overlay (Environment.ofList v).entries

theorem overlayGiven_doubles (env : Environment) (v : List (String × Float)) :
    overlayGiven env (givenDoubles v) = .ok (overlaid env v) := by
  rw [overlayGiven, Environment.ofGiven_of_all fun e he => isSome_of_mem_givenDoubles he,
    doubles_givenDoubles]
  rfl

/-- The stray error of a source, under variables that are given as doubles. -/
inductive Strays (t : FileTree) (path : String) (v : List (String × Float)) (s : Stray) : Prop
  | file (h : FileStrays t path s)
  | configuration {cs : List Char} (hcs : readChars t.read path = .ok cs)
      (hpath : isDataPath path = true) (h : ConfigurationStrays cs s)
  | word {cs : List Char} {c : Configuration} (hcs : readChars t.read path = .ok cs)
      (hpath : isDataPath path = true) (hc : Configuration.read path cs = .ok c)
      (h : AxiomStrays c.axiomText.toList s)
  | rule {cs : List Char} {c : Configuration} {symbols : List Symbol}
      (hcs : readChars t.read path = .ok cs) (hpath : isDataPath path = true)
      (hc : Configuration.read path cs = .ok c) (hsymbols : readAxiom c.axiomText.toList = .ok symbols)
      (h : FailsFirst (fun r => Rule.read (overlaid c.globals v) r.toList)
        (fun r => RuleStrays r.toList s) c.rules)
  | description {cs : List Char} (hcs : readChars t.read path = .ok cs)
      (hpath : isDataPath path = false) (h : DescriptionStrays (overlaid .empty v) cs s)

theorem ofConfiguration_eq_stray_iff {c : Configuration} :
    ofConfiguration c (givenDoubles v) = .error (.stray s) ↔
      AxiomStrays c.axiomText.toList s ∨
        (∃ symbols, readAxiom c.axiomText.toList = .ok symbols) ∧
          FailsFirst (fun r => Rule.read (overlaid c.globals v) r.toList)
            (fun r => RuleStrays r.toList s) c.rules := by
  have hrules : c.rules.mapM (fun r => Rule.read (overlaid c.globals v) r.toList) =
      .error (.stray s) ↔ FailsFirst (fun r => Rule.read (overlaid c.globals v) r.toList)
        (fun r => RuleStrays r.toList s) c.rules :=
    mapM_eq_error_iff fun r _ => Rule.read_eq_stray_iff
  rw [ofConfiguration, overlayGiven_doubles, ok_bind, bind_eq_error, readAxiom_eq_stray_iff, ← hrules]
  refine or_congr_right ⟨?_, ?_⟩
  · rintro ⟨symbols, hsymbols, h⟩
    exact ⟨⟨symbols, hsymbols⟩, (bind_eq_error_left (fun _ h => by cases h)).1 h⟩
  · rintro ⟨⟨symbols, hsymbols⟩, h⟩
    exact ⟨symbols, hsymbols, (bind_eq_error_left (fun _ h => by cases h)).2 h⟩

theorem ofDescription_eq_stray_iff {name : String} :
    ofDescription name cs (givenDoubles v) = .error (.stray s) ↔
      DescriptionStrays (overlaid .empty v) cs s := by
  rw [ofDescription, overlayGiven_doubles, ok_bind, bind_eq_error_left (fun _ h => by cases h),
    Description.read_eq_stray_iff]

/-- No surrogate that is read in the file at a path, if it is one of data, lacks its pair. -/
def IsPaired (t : FileTree) (path : String) : Prop :=
  ∀ cs n, isDataPath path = true → readChars t.read path = .ok cs →
    Json.read cs ≠ .error (.unpaired n)

theorem load_eq_stray_iff (hpaired : IsPaired t path) :
    load t.read path (givenDoubles v) = .error (.stray s) ↔ Strays t path v s := by
  rw [load, bind_eq_error, readChars_eq_stray_iff]
  constructor
  · rintro (h | ⟨cs, hcs, h⟩)
    · exact .file h
    · split_ifs at h with hpath
      · rcases bind_eq_error.1 h with h | ⟨c, hc, h⟩
        · exact .configuration hcs hpath
            ((Configuration.read_eq_stray_iff fun n => hpaired cs n hpath hcs).1 h)
        · rcases ofConfiguration_eq_stray_iff.1 h with h | ⟨⟨symbols, hsymbols⟩, h⟩
          · exact .word hcs hpath hc h
          · exact .rule hcs hpath hc hsymbols h
      · exact .description hcs (Bool.eq_false_iff.2 hpath) (ofDescription_eq_stray_iff.1 h)
  · intro h
    cases h with
    | file h => exact Or.inl h
    | configuration hcs hpath h =>
      refine Or.inr ⟨_, hcs, ?_⟩
      rw [if_pos hpath, bind_eq_error]
      exact Or.inl ((Configuration.read_eq_stray_iff fun n => hpaired _ n hpath hcs).2 h)
    | word hcs hpath hc h =>
      refine Or.inr ⟨_, hcs, ?_⟩
      rw [if_pos hpath, bind_eq_error]
      exact Or.inr ⟨_, hc, ofConfiguration_eq_stray_iff.2 (Or.inl h)⟩
    | rule hcs hpath hc hsymbols h =>
      refine Or.inr ⟨_, hcs, ?_⟩
      rw [if_pos hpath, bind_eq_error]
      exact Or.inr ⟨_, hc, ofConfiguration_eq_stray_iff.2 (Or.inr ⟨⟨_, hsymbols⟩, h⟩)⟩
    | description hcs hpath h =>
      refine Or.inr ⟨_, hcs, ?_⟩
      rw [if_neg (Bool.eq_false_iff.1 hpath)]
      exact ofDescription_eq_stray_iff.2 h

end Source

end GrowthGrammar
