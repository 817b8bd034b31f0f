import GrowthGrammar.Configuration
import GrowthGrammar.Proofs.Environment
import GrowthGrammar.Proofs.Fallible

/-!
# Checks of configurations

The data of a configuration are an object whose fields are of their kinds (`Documents`).  What data
are checked for, in which order and with which errors is listed by `checks`.  A chain of steps fails
by the list that its steps fail by, one behind the other (`FailsBy.bind`).  Main statement: data are
read as the configuration that they document, and else they fail by the first check that they do not
pass (`ofJson_checks`).
-/

namespace GrowthGrammar.Configuration

open GrowthGrammar.Text

variable {α β : Type} {path name : String} {v : Json} {o : Option Json} {c : Configuration}
  {e : Error}

/-! ## Documented data -/

/-- The double that a number of a data file is. -/
inductive IsDouble : Json → Float → Prop
  | double (x : Float) : IsDouble (.double x) x
  | integer {n : Int} {x : Float} (h : Number.ofInt? n = some x) : IsDouble (.integer n) x

/-- A field that is a variable: it has the name of a variable, and a number that is a double. -/
def IsVariable (field : String × Json) (entry : String × Float) : Prop :=
  isVariableName field.1.toList = true ∧ entry.1 = field.1 ∧ IsDouble field.2 entry.2

/-- The fields of an object document a configuration: those that are there are of their kinds, and
hold its parts; for the others it has what stands for them if they are missing. -/
structure Documents (fields : List (String × Json)) (c : Configuration) : Prop where
  name : (fields.lookup "name").elim (c.name = "L-System") (· = .string c.name)
  axiomText : fields.lookup "axiom" = some (.string c.axiomText)
  notBlank : ∃ d ∈ c.axiomText.toList, isBlank d = false
  count : (fields.lookup "count").elim (c.count = 0) (· = .integer c.count)
  rules : (fields.lookup "rules").elim (c.rules = []) (· = .array (c.rules.map .string))
  globals : ∃ entries values,
    (fields.lookup "variables").elim (entries = []) (· = .object entries) ∧
      List.Forall₂ IsVariable entries values ∧ c.globals = .ofList values

/-! ## Checks -/

/-- What data are checked for, and the error of data that do not pass. -/
structure Check where
  holds : Bool
  error : Error

/-- The error of the first check that is not passed. -/
def firstError (ks : List Check) : Option Error :=
  (ks.find? fun k => !k.holds).map Check.error

/-- The kinds of the parts of a configuration. -/
inductive Kind where
  | string
  | integer
  | number
  | array
  | object

namespace Kind

/-- The wording of a kind. -/
def title : Kind → String
  | string => "a string"
  | integer => "an integer"
  | number => "a number"
  | array => "an array"
  | object => "an object"

/-- The value is of the kind. -/
def has : Kind → Json → Bool
  | string, .string _ => true
  | integer, .integer _ => true
  | number, .integer _ => true
  | number, .double _ => true
  | array, .array _ => true
  | object, .object _ => true
  | _, _ => false

/-- The value at a path is of the kind. -/
def check (k : Kind) (path : String) (v : Json) : Check :=
  ⟨k.has v, wrongKind path k.title⟩

/-- The field of a name is missing or of the kind. -/
def checkField (k : Kind) (name : String) (v : Json) : Check :=
  ⟨(v.field? name).all k.has, wrongKind name k.title⟩

end Kind

/-- The value is a text that is not blank. -/
def saysSomething : Json → Bool
  | .string s => !isBlankText s.toList
  | _ => false

/-- The value is an integer that is not negative. -/
def isCount : Json → Bool
  | .integer n => 0 ≤ n
  | _ => false

/-- The value is no integer beyond all doubles. -/
def isWithinDoubles : Json → Bool
  | .integer n => (Number.ofInt? n).isSome
  | _ => true

/-- The items of an array; other values have none. -/
def items : Json → List Json
  | .array items => items
  | _ => []

/-- The fields of an object; other values have none. -/
def fields : Json → List (String × Json)
  | .object fields => fields
  | _ => []

/-- The checks of the rules, from a position on. -/
def ruleChecks (i : Nat) (rules : List Json) : List Check :=
  (rules.zipIdx i).map fun (v, i) => Kind.string.check ("rules[" ++ toString i ++ "]") v

/-- The checks of a variable. -/
def variableChecks : String × Json → List Check
  | (n, v) =>
    [⟨isVariableName n.toList, .configuration (.badKey n)⟩,
      Kind.number.check ("variables['" ++ n ++ "']") v,
      ⟨isWithinDoubles v, .stray .integerTooLarge⟩]

/-- The checks of the data of a configuration, in their order. -/
def checks (v : Json) : List Check :=
  Kind.object.check "root" v :: Kind.string.checkField "name" v ::
    Kind.string.checkField "axiom" v ::
    ⟨(v.field? "axiom").any saysSomething, .configuration .emptyAxiom⟩ ::
    Kind.integer.checkField "count" v ::
    ⟨(v.field? "count").all isCount, .configuration .negativeCount⟩ ::
    Kind.array.checkField "rules" v ::
    (ruleChecks 0 ((v.field? "rules").elim [] items) ++
      Kind.object.checkField "variables" v ::
      ((v.field? "variables").elim [] fields).flatMap variableChecks)

/-! ## Steps that fail by checks -/

/-- The step fails with the error of the first check that is not passed, and only then. -/
def FailsBy (x : Except Error α) (ks : List Check) : Prop :=
  ∀ e, x = .error e ↔ firstError ks = some e

theorem firstError_cons (k : Check) (ks : List Check) :
    firstError (k :: ks) = if k.holds then firstError ks else some k.error := by
  cases h : k.holds <;> simp [firstError, h]

theorem firstError_append (ks ls : List Check) :
    firstError (ks ++ ls) = (firstError ks).or (firstError ls) := by
  rw [firstError, List.find?_append]
  cases h : ks.find? fun k => !k.holds <;> simp [firstError, h]

theorem failsBy_ok (a : α) : FailsBy (.ok a) [] :=
  fun _ => iff_of_false (fun h => by cases h) fun h => by cases h

theorem firstError_eq_none {x : Except Error α} {ks : List Check} (h : FailsBy x ks) {a : α}
    (ha : x = .ok a) : firstError ks = none := by
  refine Option.eq_none_iff_forall_not_mem.2 fun e he => ?_
  have hx := (h e).2 he
  rw [ha] at hx
  cases hx

/-- A chain of steps fails by the checks of its steps, one behind the other. -/
theorem FailsBy.bind {x : Except Error α} {f : α → Except Error β} {ks ls : List Check}
    (hx : FailsBy x ks) (hf : ∀ a, x = .ok a → FailsBy (f a) ls) :
    FailsBy (x >>= f) (ks ++ ls) := by
  intro e
  rw [firstError_append]
  cases h : x with
  | error e' =>
    rw [(hx e').1 h]
    simp [Bind.bind, Except.bind]
  | ok a =>
    rw [firstError_eq_none hx h]
    exact hf a h e

theorem FailsBy.bind_cons {x : Except Error α} {f : α → Except Error β} {k : Check}
    {ls : List Check} (hx : FailsBy x [k]) (hf : ∀ a, x = .ok a → FailsBy (f a) ls) :
    FailsBy (x >>= f) (k :: ls) :=
  hx.bind hf

/-- A step behind a test fails by the check of the test, and then by its own. -/
theorem FailsBy.guard {p : Prop} [Decidable p] {x : Except Error α} {ks : List Check} {b : Bool}
    (hb : b = !decide p) (h : ¬p → FailsBy x ks) (e : Error) :
    FailsBy (if p then .error e else x) (⟨b, e⟩ :: ks) := by
  intro e'
  rw [firstError_cons]
  by_cases hp : p
  · simp [hb, hp]
  · simpa [hb, hp] using h hp e'

theorem failsBy_mapM {f : α → Except Error β} {g : α → List Check} (h : ∀ a, FailsBy (f a) (g a))
    (xs : List α) : FailsBy (xs.mapM f) (xs.flatMap g) := by
  induction xs with
  | nil => exact failsBy_ok []
  | cons a xs ih =>
    rw [List.mapM_cons, List.flatMap_cons]
    refine (h a).bind fun b _ => ?_
    rw [← List.append_nil (xs.flatMap g)]
    exact ih.bind fun bs _ => failsBy_ok (b :: bs)

/-! ## Parts of a configuration -/

theorem failsBy_asString (path : String) (v : Json) :
    FailsBy (asString path v) [Kind.string.check path v] := by
  intro e
  cases v <;> simp [asString, firstError, Kind.check, Kind.has, Kind.title, eq_comm]

theorem failsBy_asInteger (path : String) (v : Json) :
    FailsBy (asInteger path v) [Kind.integer.check path v] := by
  intro e
  cases v <;> simp [asInteger, firstError, Kind.check, Kind.has, Kind.title, eq_comm]

theorem failsBy_asArray (path : String) (v : Json) :
    FailsBy (asArray path v) [Kind.array.check path v] := by
  intro e
  cases v <;> simp [asArray, firstError, Kind.check, Kind.has, Kind.title, eq_comm]

theorem failsBy_asObject (path : String) (v : Json) :
    FailsBy (asObject path v) [Kind.object.check path v] := by
  intro e
  cases v <;> simp [asObject, firstError, Kind.check, Kind.has, Kind.title, eq_comm]

/-- A value that stands for a missing field is of the kind of the field. -/
theorem Kind.check_getD {k : Kind} {default : Json} (h : k.has default = true) (name : String)
    (v : Json) : k.check name ((v.field? name).getD default) = k.checkField name v := by
  rw [check, checkField]
  cases v.field? name <;> simp [h]

theorem failsBy_asDouble (path : String) (v : Json) :
    FailsBy (asDouble path v)
      [Kind.number.check path v, ⟨isWithinDoubles v, .stray .integerTooLarge⟩] := by
  intro e
  cases v with
  | integer n =>
    rw [asDouble]
    cases h : Number.ofInt? n <;>
      simp [firstError, Kind.check, Kind.has, isWithinDoubles, h, eq_comm]
  | _ => simp [asDouble, firstError, Kind.check, Kind.has, Kind.title, isWithinDoubles, eq_comm]

theorem failsBy_readRules (i : Nat) (rules : List Json) :
    FailsBy (readRules i rules) (ruleChecks i rules) := by
  induction rules generalizing i with
  | nil => exact failsBy_ok []
  | cons v rules ih =>
    refine FailsBy.bind_cons (failsBy_asString _ v) fun s _ => ?_
    rw [← List.append_nil (List.map _ _)]
    exact (ih (i + 1)).bind fun ss _ => failsBy_ok (s :: ss)

theorem failsBy_readVariable (field : String × Json) :
    FailsBy (readVariable field) (variableChecks field) := by
  obtain ⟨n, v⟩ := field
  rw [readVariable, ← ite_not]
  refine FailsBy.guard (by simp) (fun _ => ?_) _
  rw [← List.append_nil (_ :: _)]
  exact (failsBy_asDouble _ v).bind fun x _ => failsBy_ok (n, x)

/-! ## Missing fields -/

/-- A step at a field fails by the check of the field, and what follows it by further ones. -/
theorem FailsBy.bind_field {x : Except Error α} {f : α → Except Error β} {k : Kind}
    {ls : List Check} (default : Json) (h : k.has default = true)
    (hx : FailsBy x [k.check name ((v.field? name).getD default)])
    (hf : ∀ a, x = .ok a → FailsBy (f a) ls) : FailsBy (x >>= f) (k.checkField name v :: ls) := by
  rw [← Kind.check_getD h name v]
  exact hx.bind_cons hf

theorem asString_getD_eq_ok {s t : String} :
    asString path (o.getD (.string t)) = .ok s ↔ o.elim (s = t) (· = .string s) := by
  cases o with
  | none => simp [asString, eq_comm]
  | some v => cases v <;> simp [asString]

theorem asInteger_getD_eq_ok {n m : Int} :
    asInteger path (o.getD (.integer m)) = .ok n ↔ o.elim (n = m) (· = .integer n) := by
  cases o with
  | none => simp [asInteger, eq_comm]
  | some v => cases v <;> simp [asInteger]

theorem asArray_getD_eq_ok {xs ys : List Json} :
    asArray path (o.getD (.array ys)) = .ok xs ↔ o.elim (xs = ys) (· = .array xs) := by
  cases o with
  | none => simp [asArray, eq_comm]
  | some v => cases v <;> simp [asArray]

theorem asObject_getD_eq_ok {fs gs : List (String × Json)} :
    asObject path (o.getD (.object gs)) = .ok fs ↔ o.elim (fs = gs) (· = .object fs) := by
  cases o with
  | none => simp [asObject, eq_comm]
  | some v => cases v <;> simp [asObject]

/-! ## Failures -/

theorem any_saysSomething {s : String} (h : o.elim (s = "") (· = .string s)) :
    o.any saysSomething = !decide (isBlankText s.toList = true) := by
  cases o with
  | none =>
    obtain rfl : s = "" := h
    rfl
  | some v =>
    obtain rfl : v = .string s := h
    simp [saysSomething]

theorem all_isCount {n : Int} (h : o.elim (n = 0) (· = .integer n)) :
    o.all isCount = !decide (n < 0) := by
  cases o with
  | none =>
    obtain rfl : n = 0 := h
    rfl
  | some v =>
    obtain rfl : v = .integer n := h
    simp [isCount, ← decide_not]

theorem elim_items {xs : List Json} (h : o.elim (xs = []) (· = .array xs)) :
    o.elim [] items = xs := by
  cases o with
  | none => exact Eq.symm h
  | some v =>
    obtain rfl : v = .array xs := h
    rfl

theorem elim_fields {fs : List (String × Json)} (h : o.elim (fs = []) (· = .object fs)) :
    o.elim [] fields = fs := by
  cases o with
  | none => exact Eq.symm h
  | some v =>
    obtain rfl : v = .object fs := h
    rfl

/-- Data are no configuration by the first of their checks that they do not pass. -/
theorem failsBy_ofJson (v : Json) : FailsBy (ofJson v) (checks v) := by
  refine FailsBy.bind_cons (failsBy_asObject "root" v) fun fs hfs => ?_
  obtain rfl : v = .object fs := by
    cases v with
    | object fields => rw [Except.ok.inj hfs]
    | _ => cases hfs
  refine FailsBy.bind_field (.string "L-System") rfl (failsBy_asString "name" _) fun _ _ => ?_
  refine FailsBy.bind_field (.string "") rfl (failsBy_asString "axiom" _) fun _ hword => ?_
  refine FailsBy.guard (any_saysSomething (asString_getD_eq_ok.1 hword)) (fun _ => ?_) _
  refine FailsBy.bind_field (.integer 0) rfl (failsBy_asInteger "count" _) fun _ hcount => ?_
  refine FailsBy.guard (all_isCount (asInteger_getD_eq_ok.1 hcount)) (fun _ => ?_) _
  refine FailsBy.bind_field (.array []) rfl (failsBy_asArray "rules" _) fun rules hrules => ?_
  obtain rfl := elim_items (asArray_getD_eq_ok.1 hrules)
  refine (failsBy_readRules 0 _).bind fun _ _ => ?_
  refine FailsBy.bind_field (.object []) rfl (failsBy_asObject "variables" _) fun vs hvs => ?_
  obtain rfl := elim_fields (asObject_getD_eq_ok.1 hvs)
  rw [← List.append_nil (List.flatMap _ _)]
  exact (failsBy_mapM failsBy_readVariable _).bind fun _ _ => failsBy_ok _

/-! ## Answers -/

theorem asDouble_eq_ok {x : Float} : asDouble path v = .ok x ↔ IsDouble v x := by
  constructor
  · intro h
    unfold asDouble at h
    split at h
    · obtain rfl := Except.ok.inj h
      exact .double _
    · split at h
      · obtain rfl := Except.ok.inj h
        exact .integer ‹_›
      · cases h
    · cases h
  · rintro (_ | h)
    · rfl
    · rw [asDouble, h]

theorem readVariable_eq_ok {field : String × Json} {entry : String × Float} :
    readVariable field = .ok entry ↔ IsVariable field entry := by
  obtain ⟨n, v⟩ := field
  obtain ⟨m, x⟩ := entry
  rw [readVariable, IsVariable]
  split_ifs with hname
  · rw [bind_eq_ok]
    simp only [asDouble_eq_ok]
    constructor
    · rintro ⟨y, hy, h⟩
      obtain ⟨rfl, rfl⟩ := Prod.mk.inj (Except.ok.inj h)
      exact ⟨hname, rfl, hy⟩
    · rintro ⟨-, rfl, hx⟩
      exact ⟨x, hx, rfl⟩
  · exact iff_of_false (fun h => by cases h) fun h => hname h.1

theorem readRules_eq_ok {i : Nat} {rules : List Json} {texts : List String} :
    readRules i rules = .ok texts ↔ rules = texts.map .string := by
  induction rules generalizing i texts with
  | nil => simp [readRules, eq_comm]
  | cons v rules ih =>
    rw [readRules, bind_eq_ok]
    constructor
    · rintro ⟨s, hs, h⟩
      obtain ⟨ss, hss, h⟩ := bind_eq_ok.1 h
      obtain rfl := Except.ok.inj h
      have hv : v = .string s := (asString_getD_eq_ok (o := some v) (t := "")).1 hs
      rw [hv, ih.1 hss, List.map_cons]
    · intro h
      cases texts with
      | nil => cases h
      | cons s ss =>
        obtain ⟨rfl, hrules⟩ := List.cons.inj h
        exact ⟨s, rfl, bind_eq_ok.2 ⟨ss, ih.2 hrules, rfl⟩⟩

theorem not_isBlankText_iff {cs : List Char} :
    ¬isBlankText cs = true ↔ ∃ d ∈ cs, isBlank d = false := by
  simp [isBlankText]

theorem ofJson_object_eq_ok {fs : List (String × Json)} :
    ofJson (.object fs) = .ok c ↔ Documents fs c := by
  constructor
  · intro h
    obtain ⟨fields, hfields, h⟩ := bind_eq_ok.1 h
    obtain rfl := Except.ok.inj hfields
    obtain ⟨name, hname, h⟩ := bind_eq_ok.1 h
    obtain ⟨word, hword, h⟩ := bind_eq_ok.1 h
    split_ifs at h with hblank
    obtain ⟨count, hcount, h⟩ := bind_eq_ok.1 h
    split_ifs at h with hsign
    obtain ⟨rules, hrules, h⟩ := bind_eq_ok.1 h
    obtain ⟨texts, htexts, h⟩ := bind_eq_ok.1 h
    obtain ⟨entries, hentries, h⟩ := bind_eq_ok.1 h
    obtain ⟨values, hvalues, h⟩ := bind_eq_ok.1 h
    obtain rfl := Except.ok.inj h
    obtain rfl := readRules_eq_ok.1 htexts
    have hcount := asInteger_getD_eq_ok.1 hcount
    lift count to Nat using Int.not_lt.1 hsign
    refine ⟨asString_getD_eq_ok.1 hname, ?_, not_isBlankText_iff.1 hblank, ?_, ?_, entries, values,
      asObject_getD_eq_ok.1 hentries, ?_, rfl⟩
    · have hword := asString_getD_eq_ok.1 hword
      cases hlookup : fs.lookup "axiom" with
      | none =>
        rw [hlookup] at hword
        obtain rfl : word = "" := hword
        exact absurd rfl hblank
      | some v =>
        rw [hlookup] at hword
        exact congrArg some hword
    · simpa using hcount
    · simpa using asArray_getD_eq_ok.1 hrules
    · simpa only [readVariable_eq_ok] using mapM_eq_ok_iff.1 hvalues
  · rintro ⟨hname, hword, hblank, hcount, hrules, entries, values, hentries, hvalues, hglobals⟩
    have hcount' : (fs.lookup "count").elim ((c.count : Int) = 0) (· = .integer c.count) := by
      simpa using hcount
    have hrules' : (fs.lookup "rules").elim (c.rules.map Json.string = [])
        (· = .array (c.rules.map .string)) := by
      simpa using hrules
    have hword' : (fs.lookup "axiom").elim (c.axiomText = "") (· = .string c.axiomText) := by
      rw [hword]
      rfl
    have hvalues' : entries.mapM readVariable = .ok values :=
      mapM_eq_ok_iff.2 (by simpa only [readVariable_eq_ok] using hvalues)
    refine bind_eq_ok.2 ⟨fs, rfl, bind_eq_ok.2 ⟨_, asString_getD_eq_ok.2 hname,
      bind_eq_ok.2 ⟨_, asString_getD_eq_ok.2 hword', ?_⟩⟩⟩
    rw [if_neg (not_isBlankText_iff.2 hblank)]
    refine bind_eq_ok.2 ⟨_, asInteger_getD_eq_ok.2 hcount', ?_⟩
    rw [if_neg (by simp)]
    refine bind_eq_ok.2 ⟨_, asArray_getD_eq_ok.2 hrules', bind_eq_ok.2 ⟨_, readRules_eq_ok.2 rfl,
      bind_eq_ok.2 ⟨_, asObject_getD_eq_ok.2 hentries, bind_eq_ok.2 ⟨_, hvalues', ?_⟩⟩⟩⟩
    rw [← hglobals]
    rfl

theorem names_of_isVariable {entries : List (String × Json)} {values : List (String × Float)}
    (h : List.Forall₂ IsVariable entries values) :
    Entries.names values = Entries.names entries := by
  induction h with
  | nil => rfl
  | cons hfield _ ih =>
    rw [Entries.names, List.map_cons, hfield.2.1, ← Entries.names, ih]
    rfl

/-! ## Main statement -/

theorem error_of_mem_checks {k : Check} (h : k ∈ checks v) :
    (∃ e, k.error = .configuration e) ∨ k.error = .stray .integerTooLarge := by
  have hrule : k ∈ ruleChecks 0 ((v.field? "rules").elim [] items) →
      ∃ e, k.error = .configuration e := by
    intro hk
    obtain ⟨_, -, rfl⟩ := List.mem_map.1 hk
    exact ⟨_, rfl⟩
  have hvariable {field : String × Json} (hk : k ∈ variableChecks field) :
      (∃ e, k.error = .configuration e) ∨ k.error = .stray .integerTooLarge := by
    obtain ⟨n, v⟩ := field
    simp only [variableChecks, List.mem_cons, List.not_mem_nil, or_false] at hk
    rcases hk with rfl | rfl | rfl
    · exact Or.inl ⟨_, rfl⟩
    · exact Or.inl ⟨_, rfl⟩
    · exact Or.inr rfl
  simp only [checks, List.mem_cons, List.mem_append, List.mem_flatMap] at h
  rcases h with rfl | rfl | rfl | rfl | rfl | rfl | rfl | h | rfl | ⟨field, -, h⟩
  case inr.inr.inr.inr.inr.inr.inr.inl => exact Or.inl (hrule h)
  case inr.inr.inr.inr.inr.inr.inr.inr.inr => exact hvariable h
  all_goals exact Or.inl ⟨_, rfl⟩

/-- Data are read as a configuration exactly if they are an object that documents it, and have an
error exactly if it is that of the first of their checks that they do not pass: an error of
configurations, or that of an integer beyond all doubles.  Variables of different names are the
globals of the configuration, in their order. -/
theorem ofJson_checks (v : Json) :
    (∀ c, ofJson v = .ok c ↔ ∃ fields, v = .object fields ∧ Documents fields c) ∧
      (∀ e, ofJson v = .error e ↔ firstError (checks v) = some e) ∧
      (∀ e, ofJson v = .error e →
        (∃ e', e = .configuration e') ∨ e = .stray .integerTooLarge) ∧
      ∀ c entries, ofJson v = .ok c → v.field? "variables" = some (.object entries) →
        (Entries.names entries).Nodup → List.Forall₂ IsVariable entries c.globals.entries := by
  have hok (c : Configuration) :
      ofJson v = .ok c ↔ ∃ fields, v = .object fields ∧ Documents fields c := by
    cases v with
    | object fs => simp [ofJson_object_eq_ok]
    | _ => exact iff_of_false (fun h => by cases h) fun ⟨_, h, _⟩ => by cases h
  refine ⟨hok, failsBy_ofJson v, fun e he => ?_, fun c entries hc hentries hnames => ?_⟩
  · obtain ⟨k, hk, rfl⟩ := Option.map_eq_some_iff.1 ((failsBy_ofJson v e).1 he)
    exact error_of_mem_checks (List.mem_of_find?_eq_some hk)
  · obtain ⟨fields, rfl, hdocuments⟩ := (hok c).1 hc
    obtain ⟨entries', values, hentries', hvalues, hglobals⟩ := hdocuments.globals
    have hlookup : fields.lookup "variables" = some (.object entries) := hentries
    rw [hlookup] at hentries'
    obtain rfl := Json.object.inj hentries'
    rw [hglobals, Environment.entries_ofList (names_of_isVariable hvalues ▸ hnames)]
    exact hvalues

/-- Data with an axiom and two variables. -/
def twoVariables : Json :=
  .object [("axiom", .string "A(k)"), ("variables", .object [("n", .integer 3), ("k", .integer 2)])]

/-- Data of which the count and a rule are of a wrong kind, and a key is no name. -/
def miscounted : Json :=
  .object [("variables", .object [("2k", .integer 2)]), ("rules", .array [.integer 1]),
    ("count", .bool true), ("axiom", .string "A")]

theorem ofJson_checks_twoVariables :
    (∃ c x y, ofJson twoVariables = .ok c ∧ c.name = "L-System" ∧ c.count = 0 ∧
      c.globals.entries = [("n", x), ("k", y)] ∧ IsDouble (.integer 2) y) ∧
      ofJson miscounted = .error (wrongKind "count" "an integer") := by
  obtain ⟨c, hc, -⟩ : ∃ c, ofJson twoVariables = .ok c ∧ true = true :=
    okAnd_iff.1 (by decide +kernel)
  obtain ⟨hok, -, -, hglobals⟩ := ofJson_checks twoVariables
  obtain ⟨fields, hfields, hdocuments⟩ := (hok c).1 hc
  obtain rfl := Json.object.inj hfields
  have hentries := hglobals c [("n", .integer 3), ("k", .integer 2)] hc rfl (by decide)
  obtain ⟨⟨n, x⟩, rest, ⟨-, hn, -⟩, hrest, hcons⟩ := List.forall₂_cons_left_iff.1 hentries
  obtain ⟨⟨k, y⟩, rest, ⟨-, hk, hy⟩, hnil, rfl⟩ := List.forall₂_cons_left_iff.1 hrest
  obtain rfl := List.forall₂_nil_left_iff.1 hnil
  obtain rfl : n = "n" := hn
  obtain rfl : k = "k" := hk
  exact ⟨⟨c, x, y, hc, hdocuments.name, hdocuments.count, hcons, hy⟩,
    ((ofJson_checks miscounted).2.1 _).2 rfl⟩

end GrowthGrammar.Configuration
