import GrowthGrammar.Proofs.Description.RuleBlock
import GrowthGrammar.Proofs.Json.Readable
import GrowthGrammar.Proofs.Source.TwoForms
import GrowthGrammar.Proofs.Text.Utf8

/-!
# Data of files

`loadData` is the data in a file: a system is loaded from it if it stands in a data file
(`load_eq_loadData`), and the text of a value is loaded as that value (`loadData_indented`).
Wherever a system is loaded from, its count has no more digits than are read
(`digitCount_of_load`).
-/

namespace GrowthGrammar

open GrowthGrammar.Number GrowthGrammar.Text

/-! ## Data -/

/-- The data in a text, or the error of the file at a path with that text. -/
def Configuration.dataOf (path : String) (cs : List Char) : Except Error Json :=
  match Json.read cs with
  | .ok v => .ok v
  | .error (.fault f position line column) =>
    .error (.configuration (.notJson path f position line column))
  | .error (.tooManyDigits count) => .error (.stray (.unreadInteger count))
  | .error (.unpaired unit) => .error (.stray (.unpairedSurrogate unit))

theorem Configuration.read_eq_dataOf (path : String) (cs : List Char) :
    Configuration.read path cs = dataOf path cs >>= ofJson := by
  unfold Configuration.read dataOf
  cases Json.read cs with
  | ok v => rfl
  | error e => cases e <;> rfl

theorem Configuration.dataOf_of_read {path : String} {cs : List Char} {v : Json}
    (h : Json.read cs = .ok v) : dataOf path cs = .ok v := by
  rw [dataOf, h]

theorem Configuration.isReadable_of_dataOf {path : String} {cs : List Char} {v : Json}
    (h : dataOf path cs = .ok v) : v.IsReadable := by
  unfold dataOf at h
  split at h
  · rename_i v' hread
    obtain rfl := Except.ok.inj h
    exact Json.isReadable_of_read hread
  · cases h
  · cases h
  · cases h

namespace Source

variable {read : String → Except Error Bytes} {path : String}
  {overrides : List (String × Given)}

/-- The data in the file at a path. -/
def loadData (read : String → Except Error Bytes) (path : String) : Except Error Json := do
  Configuration.dataOf path (← readChars read path)

theorem load_eq_loadData (hpath : isDataPath path = true) :
    load read path overrides = loadData read path >>= fun v =>
      Configuration.ofJson v >>= fun c => ofConfiguration c overrides := by
  rw [load, loadData, bind_assoc]
  refine bind_congr fun cs => ?_
  rw [if_pos hpath, Configuration.read_eq_dataOf, bind_assoc]

theorem loadData_of_read_error {e : Error} (hread : read path = .error e) :
    loadData read path = .error e := by
  rw [loadData, readChars, hread]
  rfl

/-- The text of a value is loaded as that value. -/
theorem loadData_indented {v : Json} (hv : v.IsReadable)
    (hread : read path = .ok (v.indented ++ "\n").toUTF8.toList) :
    loadData read path = .ok v := by
  rw [loadData, readChars_of_decode hread (decode_toUTF8 _), ok_bind]
  exact Configuration.dataOf_of_read (Json.read_indented hv)

/-! ## Counts -/

theorem digitCount_toNat_le (n : ℤ) : digitCount n.toNat ≤ digitCount n.natAbs := by
  by_cases h : 0 ≤ n
  · have habs : n.natAbs = n.toNat := by omega
    rw [habs]
  · have hzero : n.toNat = 0 := by omega
    rw [hzero]
    exact List.length_pos_iff.2 (natDigits_ne_nil n.natAbs)

/-- An integer among the fields of an object that can be read has few digits, and so has the zero in
place of one that is missing. -/
theorem digitCount_of_asInteger {fields : List (String × Json)}
    (hfields : (Json.object fields).IsReadable) {name : String} {n : ℤ}
    (h : Configuration.asInteger name ((fields.lookup name).getD (.integer 0)) = .ok n) :
    digitCount n.natAbs ≤ digitLimit := by
  cases hlookup : fields.lookup name with
  | none =>
    rw [hlookup] at h
    obtain rfl : 0 = n := Except.ok.inj h
    decide
  | some v =>
    have hmem : (name, v) ∈ fields := by
      obtain ⟨before, after, rfl, -⟩ := List.lookup_eq_some_iff.1 hlookup
      simp
    rw [hlookup, Option.getD_some] at h
    cases hfields with
    | object _ hall =>
      have hv : v.IsReadable := hall (name, v) hmem
      cases hv with
      | integer hn =>
        obtain rfl := Except.ok.inj h
        exact hn
      | _ => cases h

theorem digitCount_of_ofJson {v : Json} (hv : v.IsReadable) {c : Configuration}
    (h : Configuration.ofJson v = .ok c) : digitCount c.count ≤ digitLimit := by
  obtain ⟨fields, hfields, h⟩ := bind_eq_ok.1 h
  obtain ⟨name, -, h⟩ := bind_eq_ok.1 h
  obtain ⟨axiomText, -, h⟩ := bind_eq_ok.1 h
  dsimp only at h
  split_ifs at h
  obtain ⟨count, hcount, h⟩ := bind_eq_ok.1 h
  split_ifs at h
  obtain ⟨items, -, h⟩ := bind_eq_ok.1 h
  obtain ⟨rules, -, h⟩ := bind_eq_ok.1 h
  obtain ⟨entries, -, h⟩ := bind_eq_ok.1 h
  obtain ⟨globals, -, h⟩ := bind_eq_ok.1 h
  obtain rfl := Except.ok.inj h
  have hobject : v = .object fields := by
    cases v <;> simp_all [Configuration.asObject]
  exact (digitCount_toNat_le count).trans (digitCount_of_asInteger (hobject ▸ hv) hcount)

theorem digitCount_of_read {globals : Environment} {cs : List Char} {d : Description}
    (h : Description.read globals cs = .ok d) :
    ∀ n ∈ d.count, digitCount n.natAbs ≤ digitLimit := by
  obtain ⟨p, hp, h⟩ := bind_eq_ok.1 h
  obtain rfl := Except.ok.inj h
  refine foldlM_keeps (P := fun p : Description.Progress =>
    ∀ n ∈ p.count, digitCount n.natAbs ≤ digitLimit) ?_ ?_ hp
  · intro p line q hcount hline n hn
    unfold Description.readLine at hline
    dsimp only at hline
    split_ifs at hline
    · obtain rfl := Except.ok.inj hline
      exact hcount n hn
    · obtain ⟨⟨p', rest⟩, hkeyword, hrule⟩ := bind_eq_ok.1 hline
      obtain ⟨-, hset, -⟩ := Description.readKeyword_eq_ok hkeyword
      obtain ⟨-, hkept, -⟩ := Description.readRuleLine_eq_ok hrule
      rw [hkept, hset] at hn
      cases hword : Description.afterKeyword "count:".toList (trim line) with
      | none => exact hcount n (by rwa [hword] at hn)
      | some r => exact digitCount_of_readInteger (by rwa [hword] at hn)
  · rintro n ⟨⟩

/-- The count of a system that is loaded has no more digits than are read. -/
theorem digitCount_of_load {source : Source} (h : load read path overrides = .ok source) :
    digitCount source.count ≤ digitLimit := by
  by_cases hpath : isDataPath path = true
  · rw [load_eq_loadData hpath] at h
    obtain ⟨v, hv, h⟩ := bind_eq_ok.1 h
    obtain ⟨c, hc, h⟩ := bind_eq_ok.1 h
    obtain ⟨cs, -, hdata⟩ := bind_eq_ok.1 hv
    obtain ⟨globals, -, h⟩ := bind_eq_ok.1 h
    obtain ⟨symbols, -, h⟩ := bind_eq_ok.1 h
    obtain ⟨rules, -, h⟩ := bind_eq_ok.1 h
    obtain rfl := Except.ok.inj h
    exact digitCount_of_ofJson (Configuration.isReadable_of_dataOf hdata) hc
  · obtain ⟨cs, -, h⟩ := bind_eq_ok.1 h
    rw [if_neg hpath] at h
    obtain ⟨globals, -, h⟩ := bind_eq_ok.1 h
    obtain ⟨d, hd, h⟩ := bind_eq_ok.1 h
    obtain rfl := Except.ok.inj h
    refine (digitCount_toNat_le _).trans ?_
    cases hcount : d.count with
    | none => decide
    | some n => exact digitCount_of_read hd n hcount

end Source

end GrowthGrammar
