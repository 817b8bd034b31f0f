/-!
# Named entries

A list of pairs of a name and a value, at most one for each name, in the order in which the names
came.  `Entries.put` sets the value of a name and `List.lookup` finds it.
-/

namespace GrowthGrammar.Entries

variable {α : Type}

/-- Sets the value of a name: in its place if the name is there, else behind the others. -/
def put (name : String) (value : α) : List (String × α) → List (String × α)
  | [] => [(name, value)]
  | (n, v) :: r => if n = name then (n, value) :: r else (n, v) :: put name value r

/-- The names. -/
def names (entries : List (String × α)) : List String :=
  entries.map Prod.fst

/-- The entries by name, in the order of the names. -/
def sorted (entries : List (String × α)) : List (String × α) :=
  entries.mergeSort fun a b => a.1 ≤ b.1

/-! ## Laws -/

theorem lookup_put (name : String) (value : α) (entries : List (String × α)) :
    (put name value entries).lookup name = some value := by
  induction entries with
  | nil => simp [put]
  | cons e r ih =>
    obtain ⟨n, v⟩ := e
    by_cases h : n = name
    · simp [put, h]
    · have h' : (name == n) = false := beq_eq_false_iff_ne.2 (Ne.symm h)
      simp [put, h, List.lookup_cons, h', ih]

theorem lookup_put_of_ne {name other : String} (h : other ≠ name) (value : α)
    (entries : List (String × α)) :
    (put name value entries).lookup other = entries.lookup other := by
  have h' : (other == name) = false := beq_eq_false_iff_ne.2 h
  induction entries with
  | nil => simp [put, List.lookup_cons, h']
  | cons e r ih =>
    obtain ⟨n, v⟩ := e
    by_cases hn : n = name
    · subst hn
      simp [put, List.lookup_cons, h']
    · cases ho : other == n <;> simp [put, hn, List.lookup_cons, ho, ih]

theorem mem_names_put {name other : String} {value : α} {entries : List (String × α)} :
    other ∈ names (put name value entries) ↔ other = name ∨ other ∈ names entries := by
  induction entries with
  | nil => simp [put, names]
  | cons e r ih =>
    obtain ⟨n, v⟩ := e
    by_cases hn : n = name
    · subst hn
      simp [put, names]
    · simp only [put, hn, if_false, names, List.map_cons, List.mem_cons]
      simp only [names] at ih
      rw [ih]
      exact or_left_comm

theorem nodup_names_put {name : String} {value : α} {entries : List (String × α)}
    (h : (names entries).Nodup) : (names (put name value entries)).Nodup := by
  induction entries with
  | nil => simp [put, names]
  | cons e r ih =>
    obtain ⟨n, v⟩ := e
    simp only [names, List.map_cons, List.nodup_cons] at h
    by_cases hn : n = name
    · subst hn
      simpa [put, names] using h
    · have hmem : n ∉ names (put name value r) := by
        rw [mem_names_put]
        rintro (rfl | hr)
        · exact hn rfl
        · exact h.1 hr
      simpa [put, hn, names] using And.intro hmem (ih h.2)

end GrowthGrammar.Entries
