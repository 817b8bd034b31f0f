import GrowthGrammar.Entries
import Mathlib.Data.List.Basic
import Mathlib.Data.Prod.Basic

/-!
# Entries put over others

`Entries.putAll` puts many entries in turn.  Of entries with different names all are there in the
end (`mem_putAll_of_mem`), and put over nothing they stay as they are (`putAll_nil`).
-/

namespace GrowthGrammar.Entries

variable {α β : Type}

/-- Entries put over others, one after the other. -/
def putAll (more entries : List (String × α)) : List (String × α) :=
  more.foldl (fun entries e => put e.1 e.2 entries) entries

/-! ## One entry -/

theorem mem_of_mem_put {name : String} {value : α} {entries : List (String × α)} {e : String × α}
    (h : e ∈ put name value entries) : e = (name, value) ∨ e ∈ entries := by
  induction entries with
  | nil => exact Or.inl (List.mem_singleton.1 h)
  | cons d r ih =>
    obtain ⟨n, v⟩ := d
    by_cases hn : n = name
    · subst hn
      rw [put, if_pos rfl] at h
      exact (List.mem_cons.1 h).imp_right fun hr => List.mem_cons_of_mem _ hr
    · rw [put, if_neg hn] at h
      rcases List.mem_cons.1 h with rfl | h
      · exact Or.inr List.mem_cons_self
      · exact (ih h).imp_right fun hr => List.mem_cons_of_mem _ hr

theorem mem_put_self (name : String) (value : α) (entries : List (String × α)) :
    (name, value) ∈ put name value entries := by
  induction entries with
  | nil => exact List.mem_cons_self
  | cons d r ih =>
    obtain ⟨n, v⟩ := d
    by_cases hn : n = name
    · rw [put, if_pos hn, hn]
      exact List.mem_cons_self
    · rw [put, if_neg hn]
      exact List.mem_cons_of_mem _ ih

theorem mem_put_of_ne {name : String} {e : String × α} (hne : e.1 ≠ name) (value : α)
    {entries : List (String × α)} (h : e ∈ entries) : e ∈ put name value entries := by
  induction entries with
  | nil => cases h
  | cons d r ih =>
    obtain ⟨n, v⟩ := d
    by_cases hn : n = name
    · rw [put, if_pos hn]
      rcases List.mem_cons.1 h with rfl | h
      · exact absurd hn hne
      · exact List.mem_cons_of_mem _ h
    · rw [put, if_neg hn]
      rcases List.mem_cons.1 h with rfl | h
      · exact List.mem_cons_self
      · exact List.mem_cons_of_mem _ (ih h)

theorem map_put (f : α → β) (name : String) (value : α) (entries : List (String × α)) :
    (put name value entries).map (Prod.map id f) =
      put name (f value) (entries.map (Prod.map id f)) := by
  induction entries with
  | nil => rfl
  | cons d r ih =>
    obtain ⟨n, v⟩ := d
    by_cases hn : n = name
    · simp [put, hn]
    · simp [put, hn, ih]

theorem put_of_not_mem {name : String} {entries : List (String × α)} (h : name ∉ names entries)
    (value : α) : put name value entries = entries ++ [(name, value)] := by
  induction entries with
  | nil => rfl
  | cons d r ih =>
    obtain ⟨n, v⟩ := d
    obtain ⟨hn, hr⟩ := not_or.1 (mt List.mem_cons.2 h)
    rw [put, if_neg (Ne.symm hn), ih hr]
    rfl

/-! ## Many entries -/

theorem putAll_cons (e : String × α) (more entries : List (String × α)) :
    putAll (e :: more) entries = putAll more (put e.1 e.2 entries) := rfl

theorem mem_of_mem_putAll {more entries : List (String × α)} {e : String × α}
    (h : e ∈ putAll more entries) : e ∈ more ∨ e ∈ entries := by
  induction more generalizing entries with
  | nil => exact Or.inr h
  | cons d r ih =>
    rcases ih h with hr | hput
    · exact Or.inl (List.mem_cons_of_mem _ hr)
    · rcases mem_of_mem_put hput with rfl | he
      · exact Or.inl List.mem_cons_self
      · exact Or.inr he

theorem mem_putAll_of_not_mem {more entries : List (String × α)} {e : String × α}
    (hname : e.1 ∉ names more) (h : e ∈ entries) : e ∈ putAll more entries := by
  induction more generalizing entries with
  | nil => exact h
  | cons d r ih =>
    obtain ⟨hd, hr⟩ := not_or.1 (mt List.mem_cons.2 hname)
    exact ih hr (mem_put_of_ne hd _ h)

theorem mem_putAll_of_mem {more : List (String × α)} (hnames : (names more).Nodup) {e : String × α}
    (h : e ∈ more) (entries : List (String × α)) : e ∈ putAll more entries := by
  induction more generalizing entries with
  | nil => cases h
  | cons d r ih =>
    obtain ⟨hd, hr⟩ := List.nodup_cons.1 hnames
    rcases List.mem_cons.1 h with rfl | h
    · rw [putAll_cons]
      exact mem_putAll_of_not_mem hd (mem_put_self e.1 e.2 entries)
    · exact ih hr h _

theorem map_putAll (f : α → β) (more entries : List (String × α)) :
    (putAll more entries).map (Prod.map id f) =
      putAll (more.map (Prod.map id f)) (entries.map (Prod.map id f)) := by
  induction more generalizing entries with
  | nil => rfl
  | cons e r ih => rw [putAll_cons, ih, map_put, List.map_cons, putAll_cons, Prod.map_fst,
      Prod.map_snd, id]

theorem nodup_names_putAll {entries : List (String × α)} (h : (names entries).Nodup)
    (more : List (String × α)) : (names (putAll more entries)).Nodup := by
  induction more generalizing entries with
  | nil => exact h
  | cons e r ih => exact ih (nodup_names_put h)

/-- Entries of different names put behind others of other names stay in their order. -/
theorem putAll_of_disjoint {more entries : List (String × α)}
    (h : (names (entries ++ more)).Nodup) : putAll more entries = entries ++ more := by
  induction more generalizing entries with
  | nil => exact (List.append_nil entries).symm
  | cons e r ih =>
    have hname : e.1 ∉ names entries := by
      intro hmem
      rw [names, List.map_append, List.map_cons, List.nodup_append] at h
      exact h.2.2 e.1 hmem e.1 List.mem_cons_self rfl
    have happend : entries ++ [(e.1, e.2)] ++ r = entries ++ e :: r := List.append_assoc _ _ _
    rw [putAll_cons, put_of_not_mem hname, ih (happend ▸ h), happend]

theorem putAll_nil {more : List (String × α)} (h : (names more).Nodup) : putAll more [] = more :=
  putAll_of_disjoint h

end GrowthGrammar.Entries
