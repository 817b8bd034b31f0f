import GrowthGrammar.Proofs.Description.Written
import GrowthGrammar.Proofs.Environment

/-!
# A system in a data file and in a description

A system in a data file may be written as a description.  Main statement: loaded with the same
variables both are the same system and are meant for the same number of generations, or both fail
with errors of one class (`load_descriptionChars`).
-/

namespace GrowthGrammar

open GrowthGrammar.Number GrowthGrammar.Text

theorem Description.read_unifyNewlines (globals : Environment) (cs : List Char) :
    Description.read globals (unifyNewlines cs) = Description.read globals cs := by
  rw [Description.read, lines_unifyNewlines, Description.read]

namespace Source

variable {read : String → Except Error Bytes} {path : String}
  {overrides : List (String × Given)}

/-! ## Loading -/

theorem load_of_isDataPath (hpath : isDataPath path = true) {c : Configuration}
    (hread : (readChars read path >>= Configuration.read path) = .ok c) :
    load read path overrides = ofConfiguration c overrides := by
  obtain ⟨cs, hcs, hc⟩ := bind_eq_ok.1 hread
  rw [load, hcs, ok_bind, if_pos hpath, hc]
  rfl

theorem readChars_of_decode {bytes : Bytes} {cs : List Char} (hbytes : read path = .ok bytes)
    (hcs : decode bytes = .ok cs) : readChars read path = .ok (unifyNewlines cs) := by
  rw [readChars, hbytes, ok_bind, hcs]
  rfl

/-- The name of a system that is loaded from a description. -/
def describedName (path : String) : String :=
  String.ofList (stem (lastName path.toList))

theorem load_of_decode (hpath : isDataPath path = false) {bytes : Bytes} {cs : List Char}
    (hbytes : read path = .ok bytes) (hcs : decode bytes = .ok cs) :
    load read path overrides = ofDescription (describedName path) cs overrides := by
  rw [load, readChars_of_decode hbytes hcs, ok_bind, hpath, if_neg Bool.false_ne_true,
    ofDescription, ofDescription]
  refine bind_congr fun globals => ?_
  rw [Description.read_unifyNewlines]
  rfl

/-! ## Both forms -/

/-- The system of a source and the number of generations that it is meant for. -/
def system (s : Source) : Growth × ℕ :=
  (s.growth, s.count)

theorem classified_ofDescription {c : Configuration}
    (hcount : (natDigits c.count).length ≤ digitLimit)
    (hword : ∀ d ∈ c.axiomText.toList, isLineBreak d = false)
    (hrules : ∀ r ∈ c.rules, Description.IsPlainRule r.toList)
    (hnames : (Entries.names overrides).Nodup) (name : String) :
    classified (system <$> ofDescription name c.descriptionChars (givenOver c.globals overrides)) =
      classified (system <$> ofConfiguration c overrides) := by
  have hrule (globals : Environment) :
      classified (c.rules.mapM fun r => Rule.read globals (trim r.toList)) =
        classified (c.rules.mapM fun r => Rule.read globals r.toList) := by
    rw [classified_mapM, classified_mapM]
    simp only [Rule.classified_read_trim]
  have hsymbols : classified (readAxiom (trimEnd c.axiomText.toList)) =
      classified (readAxiom c.axiomText.toList) := by
    obtain ⟨t, ht, htext⟩ := exists_trimEnd c.axiomText.toList
    conv_rhs => rw [htext]
    exact (classified_readAxiom_append_blank ht _).symm
  unfold ofDescription ofConfiguration
  rw [overlayGiven_givenOver c.globals hnames, map_bind, map_bind]
  refine classified_bind_congr rfl fun globals => ?_
  rw [Description.read_descriptionChars hcount hword hrules, bind_assoc, map_bind, map_bind]
  refine classified_bind_congr hsymbols fun symbols => ?_
  rw [bind_assoc, map_bind, map_bind]
  exact classified_bind_congr (hrule globals) fun rules => rfl

theorem generation_ofConfiguration {c : Configuration} {s : Source}
    (h : ofConfiguration c overrides = .ok s) : s.growth.generation = 0 := by
  obtain ⟨globals, -, h⟩ := bind_eq_ok.1 h
  obtain ⟨symbols, -, h⟩ := bind_eq_ok.1 h
  obtain ⟨rules, -, h⟩ := bind_eq_ok.1 h
  obtain rfl := Except.ok.inj h
  rfl

/-- A system that is loaded stands before its first generation. -/
theorem generation_load {s : Source} (h : load read path overrides = .ok s) :
    s.growth.generation = 0 := by
  obtain ⟨cs, -, h⟩ := bind_eq_ok.1 h
  split_ifs at h
  · obtain ⟨c, -, h⟩ := bind_eq_ok.1 h
    exact generation_ofConfiguration h
  · obtain ⟨globals, -, h⟩ := bind_eq_ok.1 h
    obtain ⟨d, -, h⟩ := bind_eq_ok.1 h
    obtain rfl := Except.ok.inj h
    rfl

/-- A system in a data file and the system that its description writes, under the variables of the
data file and further ones, are the same before their first generation and are meant for the same
number of generations; or neither is a system, for reasons of the same class. -/
theorem load_descriptionChars {dataPath textPath : String} (hdata : isDataPath dataPath = true)
    (htext : isDataPath textPath = false) {c : Configuration}
    (hread : (readChars read dataPath >>= Configuration.read dataPath) = .ok c)
    {bytes : Bytes} (hbytes : read textPath = .ok bytes)
    (hchars : decode bytes = .ok c.descriptionChars)
    (hcount : (natDigits c.count).length ≤ digitLimit)
    (hword : ∀ d ∈ c.axiomText.toList, isLineBreak d = false)
    (hrules : ∀ r ∈ c.rules, Description.IsPlainRule r.toList)
    (hnames : (Entries.names overrides).Nodup) :
    (∃ s t, load read dataPath overrides = .ok s ∧
      load read textPath (givenOver c.globals overrides) = .ok t ∧
      t.growth = s.growth ∧ s.growth.generation = 0 ∧ t.count = s.count) ∨
    ∃ e f, load read dataPath overrides = .error e ∧
      load read textPath (givenOver c.globals overrides) = .error f ∧
      f.errorClass = e.errorClass := by
  have hagree := classified_ofDescription hcount hword hrules hnames (describedName textPath)
  rw [load_of_isDataPath hdata hread, load_of_decode htext hbytes hchars]
  rcases classified_eq_iff.1 hagree with ⟨a, hdescribed, hloaded⟩ | ⟨f, e, hf, he, hclass⟩
  · obtain ⟨t, ht, rfl⟩ := map_eq_ok.1 hdescribed
    obtain ⟨s, hs, hst⟩ := map_eq_ok.1 hloaded
    obtain ⟨hgrowth, hcount⟩ := Prod.mk.inj hst
    exact Or.inl ⟨s, t, hs, ht, hgrowth.symm, generation_ofConfiguration hs, hcount.symm⟩
  · exact Or.inr ⟨e, f, map_eq_error.1 he, map_eq_error.1 hf, hclass⟩

/-- The bytes of a text of ASCII characters. -/
def asciiBytes (text : String) : Bytes :=
  text.toList.map fun c => c.toNat.toUInt8

/-- A system with a variable, as a data file. -/
def growingData : String :=
  "\x7b\"axiom\": \"A(1); B \", \"count\": 2, \"rules\": [\" A(x): x < 9 --> A(x+k) \"], " ++
    "\"variables\": \x7b\"k\": 2\x7d\x7d"

/-- The same system as a description. -/
def growingDescription : String :=
  "Axiom:A(1); B \nCount:2\nRules:\n A(x): x < 9 --> A(x+k) \n"

/-- The files of a system in both forms. -/
def growingFiles (path : String) : Except Error Bytes :=
  if path = "plant.json" then .ok (asciiBytes growingData)
  else if path = "plant.txt" then .ok (asciiBytes growingDescription)
  else .error (.file (.missing path))

theorem load_descriptionChars_growing :
    ∃ c s t, (readChars growingFiles "plant.json" >>= Configuration.read "plant.json") = .ok c ∧
      load growingFiles "plant.json" [("k", .integer 3)] = .ok s ∧
      load growingFiles "plant.txt" (givenOver c.globals [("k", .integer 3)]) = .ok t ∧
      t.growth = s.growth ∧ s.growth.generation = 0 ∧ t.count = s.count := by
  have hread : okAnd (fun c => c.axiomText == "A(1); B " && c.count == 2 &&
      c.rules == [" A(x): x < 9 --> A(x+k) "])
      (readChars growingFiles "plant.json" >>= Configuration.read "plant.json") = true := by
    decide +kernel
  have hload : okAnd (fun _ => true) (load growingFiles "plant.json" [("k", .integer 3)]) = true :=
    by decide +kernel
  obtain ⟨c, hc, htest⟩ := okAnd_iff.1 hread
  simp only [Bool.and_eq_true, beq_iff_eq] at htest
  obtain ⟨⟨hword, hcount⟩, hrules⟩ := htest
  have hnoBreak (text : String) (h : text.toList.all (!isLineBreak ·) = true) :
      ∀ d ∈ text.toList, isLineBreak d = false := fun d hd => by
    simpa using List.all_eq_true.1 h d hd
  have hplain : Description.IsPlainRule " A(x): x < 9 --> A(x+k) ".toList :=
    ⟨hnoBreak _ (by decide), by decide, by decide, by decide, by decide, by decide⟩
  have hchars : decode (asciiBytes growingDescription) = .ok c.descriptionChars := by
    rw [Configuration.descriptionChars, Configuration.descriptionLines, hword, hcount, hrules]
    decide +kernel
  have hnames : (Entries.names [("k", Given.integer 3)]).Nodup := by decide
  rcases load_descriptionChars (by decide : isDataPath "plant.json" = true)
    (by decide : isDataPath "plant.txt" = false) hc rfl hchars (by rw [hcount]; decide)
    (by rw [hword]; exact hnoBreak _ (by decide)) (by rw [hrules]; simpa using hplain) hnames
    with ⟨s, t, hs, ht, h⟩ | ⟨e, f, he, -⟩
  · exact ⟨c, s, t, hc, hs, ht, h⟩
  · rw [he] at hload
    cases hload

end Source

end GrowthGrammar
