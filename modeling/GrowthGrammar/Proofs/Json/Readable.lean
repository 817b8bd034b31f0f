import GrowthGrammar.Proofs.Fallible
import GrowthGrammar.Proofs.Json.RoundTrip
import GrowthGrammar.Proofs.Number.Digits

/-!
# What a data file can hold

Main statement: a value that is read can be written and read again (`isReadable_of_read`).  No
object has two fields of one name, since a later field takes the place of an earlier one, and longer
integers than the limit are refused.
-/

namespace GrowthGrammar.Json

open GrowthGrammar.Number GrowthGrammar.Text

/-! ## Numbers -/

theorem isDigit_of_takeDigits {cs ds r : List Char} (h : takeDigits cs = (ds, r)) :
    ∀ c ∈ ds, c.isDigit = true := by
  rw [takeDigits, List.span_eq_takeWhile_dropWhile] at h
  obtain ⟨rfl, -⟩ := Prod.mk.inj h
  exact fun c => List.mem_takeWhile_imp

theorem isDigit_of_readWhole {cs ds r : List Char} (h : readWhole cs = some (ds, r)) :
    ∀ c ∈ ds, c.isDigit = true := by
  cases cs with
  | nil => cases h
  | cons c s =>
    rw [readWhole] at h
    split_ifs at h
    · obtain ⟨rfl, -⟩ := Prod.mk.inj (Option.some.inj h)
      simp
    · exact isDigit_of_takeDigits (Option.some.inj h)

theorem isReadable_of_readNumber {cs r : List Char} {v : Json} (h : readNumber cs = .ok (v, r)) :
    IsReadable v := by
  unfold readNumber at h
  split at h
  split at h
  · cases h
  · rename_i front r' hwhole
    dsimp only at h
    rw [ite_eq_iff] at h
    obtain ⟨-, h⟩ | ⟨-, h⟩ := h
    · rw [ite_eq_iff] at h
      obtain ⟨-, h⟩ | ⟨hlong, h⟩ := h
      · cases h
      obtain ⟨rfl, -⟩ := Prod.mk.inj (Except.ok.inj h)
      refine .integer ?_
      rw [natAbs_signed]
      exact digitCount_ofDigitChars_le (isDigit_of_readWhole hwhole) (by decide)
        (Nat.not_lt.1 hlong)
    · obtain ⟨rfl, -⟩ := Prod.mk.inj (Except.ok.inj h)
      exact .double _

theorem isReadable_of_readScalar {cs r : List Char} {v : Json} (h : readScalar cs = .ok (v, r)) :
    IsReadable v := by
  unfold readScalar at h
  split at h
  · rename_i w v' hfind
    obtain ⟨rfl, -⟩ := Prod.mk.inj (Except.ok.inj h)
    have hmem := List.mem_of_find?_eq_some hfind
    simp only [literals, List.mem_cons, Prod.mk.injEq, List.not_mem_nil, or_false] at hmem
    rcases hmem with ⟨-, rfl⟩ | ⟨-, rfl⟩ | ⟨-, rfl⟩ | ⟨-, rfl⟩ | ⟨-, rfl⟩ | ⟨-, rfl⟩
    · exact .null
    · exact .bool true
    · exact .bool false
    · exact .double _
    · exact .double _
    · exact .double _
  · exact isReadable_of_readNumber h

/-! ## Values -/

theorem isReadable_empty : IsReadable (object []) :=
  .object (by simp [Entries.names]) (List.forall_mem_nil _)

theorem isReadable_put {done : List (String × Json)} (hdone : IsReadable (object done)) {v : Json}
    (hv : IsReadable v) (n : String) : IsReadable (object (Entries.put n v done)) := by
  cases hdone with
  | object names h =>
    refine .object (Entries.nodup_names_put names) fun f hf => ?_
    rcases Entries.mem_of_mem_put hf with rfl | hf
    · exact hv
    · exact h f hf

/-- What is read with so much fuel: values, items and fields behind others. -/
structure ReadsReadable (fuel : ℕ) : Prop where
  value : ∀ {cs r v}, readValue fuel cs = .ok (v, r) → IsReadable v
  items : ∀ {cs r vs}, readItems fuel cs = .ok (vs, r) → ∀ v ∈ vs, IsReadable v
  fields : ∀ {done cs r fs}, IsReadable (object done) → readFields fuel done cs = .ok (fs, r) →
    IsReadable (object fs)

section

variable {fuel : ℕ} (ih : ReadsReadable fuel) {cs r : List Char}

include ih

theorem isReadable_of_readValue {v : Json} (h : readValue (fuel + 1) cs = .ok (v, r)) :
    IsReadable v := by
  unfold readValue at h
  split at h
  · cases h
  · obtain ⟨⟨s, t⟩, -, heq⟩ := map_eq_ok.1 h
    obtain ⟨rfl, -⟩ := Prod.mk.inj heq
    exact .string _
  · split at h
    · obtain ⟨rfl, -⟩ := Prod.mk.inj (Except.ok.inj h)
      exact .array (List.forall_mem_nil _)
    · obtain ⟨⟨vs, t⟩, hitems, heq⟩ := map_eq_ok.1 h
      obtain ⟨rfl, -⟩ := Prod.mk.inj heq
      exact .array (ih.items hitems)
  · split at h
    · obtain ⟨rfl, -⟩ := Prod.mk.inj (Except.ok.inj h)
      exact isReadable_empty
    · obtain ⟨⟨fs, t⟩, hfields, heq⟩ := map_eq_ok.1 h
      obtain ⟨rfl, -⟩ := Prod.mk.inj heq
      exact ih.fields isReadable_empty hfields
  · exact isReadable_of_readScalar h

theorem isReadable_of_readItems {vs : List Json} (h : readItems (fuel + 1) cs = .ok (vs, r)) :
    ∀ v ∈ vs, IsReadable v := by
  rw [readItems] at h
  split at h
  · cases h
  · rename_i v t hvalue
    have hv := ih.value hvalue
    split at h
    · obtain ⟨rfl, -⟩ := Prod.mk.inj (Except.ok.inj h)
      exact List.forall_mem_singleton.2 hv
    · obtain ⟨⟨ws, t⟩, hitems, heq⟩ := map_eq_ok.1 h
      obtain ⟨rfl, -⟩ := Prod.mk.inj heq
      exact List.forall_mem_cons.2 ⟨hv, ih.items hitems⟩
    · cases h

theorem isReadable_of_readFields {done fs : List (String × Json)}
    (hdone : IsReadable (object done)) (h : readFields (fuel + 1) done cs = .ok (fs, r)) :
    IsReadable (object fs) := by
  unfold readFields at h
  split at h
  · split at h
    · cases h
    · split at h
      · split at h
        · cases h
        · rename_i v _ hvalue
          have hput := isReadable_put hdone (ih.value hvalue)
          dsimp only at h
          split at h
          · obtain ⟨rfl, -⟩ := Prod.mk.inj (Except.ok.inj h)
            exact hput _
          · exact ih.fields (hput _) h
          · cases h
      · cases h
  · cases h

end

theorem readsReadable (fuel : ℕ) : ReadsReadable fuel := by
  induction fuel with
  | zero =>
    refine ⟨fun h => ?_, fun h => ?_, fun _ h => ?_⟩
    · rw [readValue] at h
      cases h
    · rw [readItems] at h
      cases h
    · rw [readFields] at h
      cases h
  | succ fuel ih =>
    exact ⟨isReadable_of_readValue ih, isReadable_of_readItems ih, isReadable_of_readFields ih⟩

/-- What is read can be written and read again. -/
theorem isReadable_of_read {cs : List Char} {v : Json} (h : read cs = .ok v) : IsReadable v := by
  have htext : readText cs = .ok v := mapError_eq_ok.1 h
  unfold readText at htext
  split_ifs at htext
  split at htext
  · cases htext
  · rename_i v' r hvalue
    split at htext
    · obtain rfl := Except.ok.inj htext
      exact (readsReadable _).value hvalue
    · cases htext

end GrowthGrammar.Json
